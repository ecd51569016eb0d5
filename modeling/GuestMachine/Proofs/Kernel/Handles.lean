import Mathlib.Data.List.Nodup
import Mathlib.Logic.Function.Iterate
import Mathlib.Tactic.Common
import GuestMachine.Kernel.HandleTable
import GuestMachine.Proofs.Operations

/-! # Opening and closing handles

The search for a free handle finds one: it goes round the handles one by one,
so that it meets more of them than can be open. No handle is open twice then,
and closing one leaves alone what the others name.
-/

namespace GuestMachine

namespace HandleTable

variable {table table' : HandleTable} {handle : Handle} {object : KernelObject}

/-- No handle is open twice, and the search starts among the handles or just
    behind them. -/
structure WellFormed (table : HandleTable) : Prop where
  distinct : (table.entries.map Prod.fst).Nodup
  next : table.next.toNat ≤ currentProcessHandle.toNat

theorem empty_wellFormed : ({} : HandleTable).WellFormed :=
  ⟨List.nodup_nil, by decide⟩

theorem toNat_currentProcessHandle : currentProcessHandle.toNat = 0xFFFF8000 :=
  rfl

/-- A number that a handle can have. -/
def InRange (handle : Handle) : Prop :=
  1 ≤ handle.toNat ∧ handle.toNat < currentProcessHandle.toNat

theorem isFree_iff : table.isFree handle ↔ InRange handle ∧ handle ∉ table.entries.map Prod.fst := by
  have opened : table.isOpen handle = false ↔ handle ∉ table.entries.map Prod.fst := by
    rw [isOpen, get?, Option.isSome_eq_false_iff, Option.isNone_iff_eq_none, List.lookup_eq_none_iff]
    simp only [List.mem_map, not_exists, not_and, bne_iff_ne]
    exact forall₂_congr fun entry _ => ne_comm
  have positive : handle ≠ 0 ↔ 1 ≤ handle.toNat := by
    rw [ne_eq, ← UInt32.toNat_inj, UInt32.toNat_zero]
    omega
  simp only [isFree, InRange, Bool.and_eq_true, bne_iff_ne, decide_eq_true_eq, Bool.not_eq_true',
    opened, positive, UInt32.lt_iff_toNat_lt]

/-- Behind a number that is in range, or just out of it, the search goes round. -/
theorem toNat_following (bound : handle.toNat ≤ currentProcessHandle.toNat) :
    (following handle).toNat =
      if handle.toNat + 1 < currentProcessHandle.toNat then handle.toNat + 1 else 1 := by
  rw [toNat_currentProcessHandle] at bound ⊢
  have successor : (handle + 1).toNat = handle.toNat + 1 := by
    simp only [UInt32.toNat_add, UInt32.reduceToNat]
    omega
  simp only [following, UInt32.le_iff_toNat_le, successor, toNat_currentProcessHandle]
  split
  · rw [if_neg (by omega)]
    rfl
  · rw [if_pos (by omega), successor]

theorem inRange_following (bound : handle.toNat ≤ currentProcessHandle.toNat) :
    InRange (following handle) := by
  rw [InRange, toNat_following bound, toNat_currentProcessHandle]
  split <;> omega

theorem toNat_iterate_following (within : InRange handle) (n : Nat) :
    (following^[n] handle).toNat =
      (handle.toNat - 1 + n) % (0xFFFF8000 - 1) + 1 := by
  obtain ⟨positive, small⟩ := within
  rw [toNat_currentProcessHandle] at small
  induction n with
  | zero =>
      rw [Function.iterate_zero_apply, Nat.add_zero, Nat.mod_eq_of_lt (by omega)]
      omega
  | succ n ih =>
      have bound : (following^[n] handle).toNat ≤ currentProcessHandle.toNat := by
        rw [ih, toNat_currentProcessHandle]
        omega
      rw [Function.iterate_succ_apply', toNat_following bound, ih, toNat_currentProcessHandle]
      split <;> omega

/-- The numbers tried in `attempts` attempts. -/
def tried (handle : Handle) (attempts : Nat) : List Handle :=
  (List.range attempts).map fun n => following^[n] handle

theorem tried_succ (handle : Handle) (attempts : Nat) :
    tried handle (attempts + 1) = handle :: tried (following handle) attempts := by
  simp only [tried, List.range_succ_eq_map, List.map_cons, List.map_map]
  rfl

theorem nodup_tried (within : InRange handle) {attempts : Nat}
    (few : attempts < currentProcessHandle.toNat) : (tried handle attempts).Nodup := by
  apply List.Nodup.map_on _ List.nodup_range
  intro i before j before' same
  rw [toNat_currentProcessHandle] at few
  rw [List.mem_range] at before before'
  rw [← UInt32.toNat_inj, toNat_iterate_following within, toNat_iterate_following within] at same
  omega

theorem inRange_of_mem_tried (within : InRange handle) {attempts : Nat} {other : Handle}
    (met : other ∈ tried handle attempts) : InRange other := by
  obtain ⟨n, _, rfl⟩ := List.mem_map.mp met
  rw [InRange, toNat_iterate_following within, toNat_currentProcessHandle]
  omega

theorem firstFree_isFree {attempts : Nat} {other : Handle} (met : other ∈ tried handle attempts)
    (free : table.isFree other) : table.isFree (table.firstFree attempts handle) := by
  induction attempts generalizing handle with
  | zero => cases met
  | succ attempts ih =>
      rw [firstFree]
      split
      · assumption
      · rename_i taken
        rw [tried_succ] at met
        cases met with
        | head => exact absurd free taken
        | tail _ later => exact ih later

/-- There is a free handle among those that are tried. -/
theorem exists_free (wellFormed : table.WellFormed) (room : table.size < capacity) :
    ∃ other ∈ tried table.next (table.size + 2), table.isFree other := by
  have most : capacity < currentProcessHandle.toNat := by decide
  have within := inRange_following wellFormed.next
  rw [tried_succ]
  by_contra! taken
  -- Otherwise all that are tried from the second on are open, and they are too many for that.
  have opened : tried (following table.next) (table.size + 1) ⊆ table.entries.map Prod.fst := by
    intro other met
    by_contra closed
    exact taken other (.tail _ met) (isFree_iff.mpr ⟨inRange_of_mem_tried within met, closed⟩)
  have count := (nodup_tried within (by omega)).length_le_of_subset opened
  simp only [tried, List.length_map, List.length_range, size] at count
  omega

theorem add_eq (table : HandleTable) (object : KernelObject) :
    table.add object =
      if capacity ≤ table.size then .error .resourceLimit
      else
        let handle := table.firstFree (table.size + 2) table.next
        .ok (handle, { entries := (handle, object) :: table.entries, next := handle + 1 }) := by
  rw [add, HandleM.add, Operation.outcome, Operation.get_bind]
  by_cases full : capacity ≤ table.size
  · rw [if_pos full, if_pos full]
    rfl
  · rw [if_neg full, if_neg full]
    rfl

theorem close_eq (table : HandleTable) (handle : Handle) :
    table.close handle = (table.get handle).map fun object =>
      (object, { table with entries := table.entries.filter (·.1 != handle) }) := by
  rw [close, HandleM.close, Operation.outcome, Operation.get_bind]
  cases table.get handle with
  | ok object => rfl
  | error e => rfl

theorem add_eq_ok (wellFormed : table.WellFormed) (added : table.add object = .ok (handle, table')) :
    table.isFree handle ∧ table'.entries = (handle, object) :: table.entries ∧
      table'.WellFormed := by
  rw [add_eq] at added
  split at added
  · cases added
  · rename_i room
    cases added
    obtain ⟨other, met, free⟩ := exists_free wellFormed (by omega)
    have chosen := firstFree_isFree met free
    obtain ⟨within, closed⟩ := isFree_iff.mp chosen
    refine ⟨chosen, rfl, List.nodup_cons.mpr ⟨closed, wellFormed.distinct⟩, ?_⟩
    obtain ⟨_, small⟩ := within
    rw [toNat_currentProcessHandle] at small ⊢
    simp only [UInt32.toNat_add, UInt32.reduceToNat]
    omega

theorem references_add (wellFormed : table.WellFormed)
    (added : table.add object = .ok (handle, table')) (other : KernelObject) :
    table'.references other = (object == other || table.references other) := by
  rw [references, (add_eq_ok wellFormed added).2.1]
  rfl

theorem close_eq_ok (closed : table.close handle = .ok (object, table')) :
    table.get? handle = some object ∧
      table' = { table with entries := table.entries.filter (·.1 != handle) } := by
  rw [close_eq, get] at closed
  cases named : table.get? handle with
  | none =>
      rw [named] at closed
      cases closed
  | some object =>
      rw [named] at closed
      cases closed
      exact ⟨rfl, rfl⟩

theorem close_wellFormed (wellFormed : table.WellFormed)
    (closed : table.close handle = .ok (object, table')) : table'.WellFormed := by
  obtain ⟨_, rfl⟩ := close_eq_ok closed
  exact ⟨wellFormed.distinct.sublist (List.filter_sublist.map _), wellFormed.next⟩

theorem mem_of_get? (named : table.get? handle = some object) : (handle, object) ∈ table.entries := by
  obtain ⟨before, after, entries, _⟩ := List.lookup_eq_some_iff.mp named
  rw [entries]
  simp

theorem references_of_get? (named : table.get? handle = some object) : table.references object :=
  List.any_eq_true.mpr ⟨_, mem_of_get? named, beq_self_eq_true object⟩

theorem references_close_self (closed : table.close handle = .ok (object, table')) :
    table.references object :=
  references_of_get? (close_eq_ok closed).1

/-- Objects that the closed handle did not name are named as before. -/
theorem references_close_of_ne (wellFormed : table.WellFormed)
    (closed : table.close handle = .ok (object, table')) {other : KernelObject}
    (different : other ≠ object) : table'.references other = table.references other := by
  obtain ⟨named, rfl⟩ := close_eq_ok closed
  rw [Bool.eq_iff_iff]
  simp only [references, List.any_eq_true, List.mem_filter, bne_iff_ne, beq_iff_eq]
  constructor
  · rintro ⟨entry, ⟨held, _⟩, names⟩
    exact ⟨entry, held, names⟩
  · rintro ⟨entry, held, names⟩
    refine ⟨entry, ⟨held, ?_⟩, names⟩
    intro same
    have sameEntry := List.inj_on_of_nodup_map wellFormed.distinct held (mem_of_get? named) same
    rw [sameEntry] at names
    exact different names.symm

end HandleTable

namespace HandleM

theorem add_atomic (object : KernelObject) : Operation.Atomic (add object) := by
  refine .get_bind fun table => ?_
  split
  · exact Operation.throw_atomic _
  · exact ((Operation.modify_accepted _).bind fun _ => Operation.get_accepted.bind fun _ =>
      (Operation.modify_accepted _).bind fun _ => Operation.pure_accepted _).atomic

theorem close_atomic (handle : Handle) : Operation.Atomic (close handle) :=
  .get_bind fun _ => .ofExcept_bind fun _ _ =>
    ((Operation.modify_accepted _).bind fun _ => Operation.pure_accepted _).atomic

end HandleM

end GuestMachine
