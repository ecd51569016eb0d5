import GuestMachine.Cpu.ExclusiveMonitor
import GuestMachine.Proofs.Memory.ByteRange
import GuestMachine.Proofs.Memory.Values

/-! # The reservation table

What every operation of the monitor leaves in the slot of every core. The
shortcuts for a monitor without reservations rely on its count, so the count is
followed as well.
-/

namespace GuestMachine

/-- Inside the address space nothing saturates. -/
theorem Reservation.overlaps_iff {r : Reservation} {addr size : UInt64}
    (inside : r.addr.toNat + r.size.toNat ≤ Layout.addressSpaceSize) (nonempty : 0 < size.toNat)
    (held : 0 < r.size.toNat) :
    r.overlaps addr size ↔ SharesByte addr.toNat size.toNat r.addr.toNat r.size.toNat := by
  have top : Layout.addressSpaceSize < 2 ^ 64 - 1 := by decide
  have extent : (saturatingAdd r.addr r.size).toNat = r.addr.toNat + r.size.toNat := by
    rw [toNat_saturatingAdd]
    omega
  rw [← sharesByte_iff_lt nonempty held extent (by omega), overlaps, Bool.and_eq_true,
    decide_eq_true_eq, decide_eq_true_eq]

namespace ExclusiveMonitor

variable {monitor : ExclusiveMonitor}

/-- The monitor counts the reservations it holds. -/
def Counted (monitor : ExclusiveMonitor) : Prop :=
  monitor.active = monitor.reservations.countP Option.isSome

theorem counted_ofCores (cores : Nat) : (ofCores cores).Counted := by
  simp [Counted, ofCores, List.countP_replicate]

theorem reservation?_ofCores (cores core : Nat) : (ofCores cores).reservation? core = none := by
  simp only [reservation?, ofCores, List.getElem?_replicate]
  split <;> rfl

theorem lt_coreCount {core : CoreIndex} {r : Reservation}
    (held : monitor.reservation? core = some r) : core < monitor.coreCount := by
  rw [reservation?, Option.join_eq_some_iff] at held
  exact (List.getElem?_eq_some_iff.mp held).1

theorem join_getElem?_set (l : List (Option α)) (i j : Nat) (slot : Option α) :
    (l.set i slot)[j]?.join = if j = i ∧ i < l.length then slot else l[j]?.join := by
  rw [List.getElem?_set]
  by_cases same : i = j
  · subst same
    by_cases inside : i < l.length
    · simp [inside]
    · simp [inside]
  · simp [same, Ne.symm same]

theorem reservation?_of_idle (counted : monitor.Counted) (idle : monitor.active = 0)
    (core : CoreIndex) : monitor.reservation? core = none := by
  have empty : ∀ slot ∈ monitor.reservations, ¬ slot.isSome :=
    List.countP_eq_zero.mp (counted.symm.trans idle)
  rw [reservation?]
  cases found : monitor.reservations[core]? with
  | none => rfl
  | some slot => simpa using empty slot (List.mem_of_getElem? found)

theorem coreCount_drop (core : CoreIndex) : (monitor.drop core).coreCount = monitor.coreCount := by
  rw [drop]
  split
  · exact List.length_set
  · rfl

theorem reservation?_drop (core d : CoreIndex) :
    (monitor.drop core).reservation? d = if d = core then none else monitor.reservation? d := by
  rw [drop]
  split
  · rename_i reserved
    obtain ⟨r, held⟩ := Option.isSome_iff_exists.mp reserved
    have inside : core < monitor.reservations.length := lt_coreCount held
    simp only [reservation?, join_getElem?_set, inside, and_true]
  · rename_i free
    rw [isReserved, Option.not_isSome_iff_eq_none] at free
    split
    · rename_i same
      rw [same, free]
    · rfl

theorem not_isReserved_drop (monitor : ExclusiveMonitor) (core : CoreIndex) :
    ¬ (monitor.drop core).isReserved core := by
  rw [isReserved, reservation?_drop, if_pos rfl]
  simp

theorem counted_drop (counted : monitor.Counted) (core : CoreIndex) :
    (monitor.drop core).Counted := by
  rw [drop]
  split
  · rename_i reserved
    obtain ⟨r, held⟩ := Option.isSome_iff_exists.mp reserved
    rw [reservation?, Option.join_eq_some_iff] at held
    obtain ⟨inside, slot⟩ := List.getElem?_eq_some_iff.mp held
    simp only [Counted] at counted ⊢
    rw [List.countP_set inside, slot, counted]
    simp
  · exact counted

theorem clear_eq_drop (counted : monitor.Counted) (core : CoreIndex) :
    monitor.clear core = monitor.drop core := by
  rw [clear]
  split
  · rename_i idle
    rw [drop, isReserved, reservation?_of_idle counted idle]
    rfl
  · rfl

theorem coreCount_reserve (core : CoreIndex) (r : Reservation) :
    (monitor.reserve core r).coreCount = monitor.coreCount := by
  rw [reserve]
  split
  · exact List.length_set
  · rfl

theorem reservation?_reserve (core d : CoreIndex) (r : Reservation) :
    (monitor.reserve core r).reservation? d =
      if d = core ∧ core < monitor.coreCount then some r else monitor.reservation? d := by
  rw [reserve]
  split
  · exact join_getElem?_set monitor.reservations core d (some r)
  · rename_i outside
    rw [if_neg fun both => outside both.2]

theorem counted_reserve (counted : monitor.Counted) (core : CoreIndex) (r : Reservation) :
    (monitor.reserve core r).Counted := by
  rw [reserve]
  split
  · rename_i inside
    have slot : monitor.reservation? core = monitor.reservations[core] := by
      rw [reservation?, List.getElem?_eq_getElem inside, Option.join_some]
    simp only [Counted, isReserved, slot] at counted ⊢
    rw [List.countP_set inside, counted]
    cases held : monitor.reservations[core] with
    | none => simp
    | some old =>
        have positive : 0 < monitor.reservations.countP Option.isSome :=
          List.countP_pos_iff.mpr ⟨_, List.getElem_mem inside, by simp [held]⟩
        simp only [Option.isSome_some, if_true]
        omega
  · exact counted

/-- Taking a reservation uses it up, for whatever address and size it was. -/
theorem take_eq (core : CoreIndex) (addr : Address) (size : UInt64) :
    monitor.take core addr size =
      (((monitor.reservation? core).filter fun r => r.addr = addr ∧ r.size = size).map
        Reservation.value, monitor.drop core) := by
  rw [take]
  cases held : monitor.reservation? core with
  | none => simp [drop, isReserved, held]
  | some r =>
      rw [Option.filter_some]
      by_cases exactly : r.addr = addr ∧ r.size = size <;> simp [exactly]

theorem coreCount_breakOverlapping (writer : Option CoreIndex) (addr : Address) (size : UInt64) :
    (monitor.breakOverlapping writer addr size).coreCount = monitor.coreCount :=
  List.length_mapIdx

theorem reservation?_breakOverlapping_iff (monitor : ExclusiveMonitor) (writer : Option CoreIndex)
    (addr : Address) (size : UInt64) (core : CoreIndex) (r : Reservation) :
    (monitor.breakOverlapping writer addr size).reservation? core = some r ↔
      monitor.reservation? core = some r ∧ (r.overlaps addr size → writer = some core) := by
  simp only [breakOverlapping, reservation?, List.getElem?_mapIdx]
  rcases monitor.reservations[core]? with _ | _ | held
  · simp
  · simp [isBroken]
  · simp only [Option.map_some, Option.join_some, isBroken, Option.any_some, Option.some.injEq]
    by_cases own : writer = some core
    · simp [own]
    · have other : (some core != writer) = true := bne_iff_ne.mpr (Ne.symm own)
      by_cases shared : held.overlaps addr size
      · simp only [other, shared, Bool.and_self, if_true, reduceCtorEq, false_iff, not_and]
        rintro rfl kept
        exact own (kept shared)
      · simp only [shared, Bool.and_false, Bool.false_eq_true, if_false, Option.some.injEq,
          iff_self_and]
        rintro rfl again
        exact absurd again shared

theorem not_isReserved_breakOverlapping {core : CoreIndex} (free : ¬ monitor.isReserved core)
    (writer : Option CoreIndex) (addr : Address) (size : UInt64) :
    ¬ (monitor.breakOverlapping writer addr size).isReserved core := by
  intro reserved
  obtain ⟨r, held⟩ := Option.isSome_iff_exists.mp reserved
  have before := ((monitor.reservation?_breakOverlapping_iff writer addr size core r).mp held).1
  exact free (by rw [isReserved, before, Option.isSome_some])

/-- Emptying some of the slots that hold something lowers the count by as many. -/
theorem countP_emptied {broken : Option α × Nat → Bool}
    (held : ∀ entry, broken entry → entry.1.isSome) (slots : List (Option α × Nat)) :
    slots.countP (fun entry => (if broken entry then none else entry.1).isSome) +
        (slots.filter broken).length =
      slots.countP fun entry => entry.1.isSome := by
  induction slots with
  | nil => rfl
  | cons entry rest ih =>
      simp only [List.countP_cons, List.filter_cons]
      by_cases here : broken entry
      · simp only [here, held entry here, if_true, List.length_cons, Option.isSome_none,
          Bool.false_eq_true, if_false]
        omega
      · simp only [here, if_false, Bool.false_eq_true]
        omega

/-- The slots of the reservations that a store by `writer` breaks. -/
def brokenSlots (monitor : ExclusiveMonitor) (writer : Option CoreIndex) (addr : Address)
    (size : UInt64) : List (Option Reservation × Nat) :=
  monitor.reservations.zipIdx.filter fun (slot, core) => isBroken writer addr size core slot

theorem countP_breakOverlapping (monitor : ExclusiveMonitor) (writer : Option CoreIndex)
    (addr : Address) (size : UInt64) :
    (monitor.breakOverlapping writer addr size).reservations.countP Option.isSome +
        (monitor.brokenSlots writer addr size).length =
      monitor.reservations.countP Option.isSome := by
  have held : ∀ entry : Option Reservation × Nat,
      isBroken writer addr size entry.2 entry.1 → entry.1.isSome := by
    rintro ⟨slot, core⟩ here
    cases slot with
    | none => simp [isBroken] at here
    | some r => rfl
  have slots : (monitor.reservations.zipIdx.countP fun entry => entry.1.isSome) =
      monitor.reservations.countP Option.isSome := by
    conv_rhs => rw [← List.zipIdx_map_fst 0 monitor.reservations, List.countP_map]
    rfl
  simp only [breakOverlapping, List.mapIdx_eq_zipIdx_map, List.countP_map]
  exact (countP_emptied held monitor.reservations.zipIdx).trans slots

theorem counted_breakOverlapping (counted : monitor.Counted) (writer : Option CoreIndex)
    (addr : Address) (size : UInt64) : (monitor.breakOverlapping writer addr size).Counted := by
  have fewer := monitor.countP_breakOverlapping writer addr size
  rw [← counted] at fewer
  exact (Nat.eq_sub_of_add_eq fewer).symm

/-- A store that goes through breaks the reservations on its bytes, also if
    the monitor does not look for any. -/
theorem storeAndBreak_spec (counted : monitor.Counted) (memory : AddressSpace)
    (writer : Option CoreIndex) (addr : Address) (size : UInt64)
    (store : AddressSpace → Bool × AddressSpace) :
    ∃ after, monitor.storeAndBreak memory writer addr size store =
        ((store memory).1, (store memory).2, after) ∧
      after.coreCount = monitor.coreCount ∧ after.Counted ∧
      ∀ core r, after.reservation? core = some r ↔ monitor.reservation? core = some r ∧
        ((store memory).1 → r.overlaps addr size → writer = some core) := by
  rw [storeAndBreak]
  cases stored : (store memory).1 with
  | false => exact ⟨monitor, by simp [stored], rfl, counted, fun core r => by simp⟩
  | true =>
      by_cases idle : monitor.active = 0
      · refine ⟨monitor, by simp [stored, idle], rfl, counted, ?_⟩
        intro core r
        simp [reservation?_of_idle counted idle]
      · refine ⟨monitor.breakOverlapping writer addr size, by simp [stored, idle],
          coreCount_breakOverlapping writer addr size,
          counted_breakOverlapping counted writer addr size, ?_⟩
        intro core r
        rw [reservation?_breakOverlapping_iff]
        simp

/-- An exclusive write commits exactly if its core holds a reservation of these
    bytes, they may be read and written, and a load gives the value observed.
    The reservation is gone in any case. -/
theorem exclusiveWrite_cases (monitor : ExclusiveMonitor) (memory : AddressSpace) (w : Width)
    (core : CoreIndex) (addr : Address) (value : BitVec w.bits) :
    (∃ observed after, monitor.reservation? core = some ⟨addr, w.size, observed⟩ ∧
      memory.Allows PageFlags.rw addr.toNat w.bytes ∧
      memory.load w addr = observed.toBitVec.setWidth w.bits ∧
      memory.Written after addr.toNat (w.toBytes value) ∧
      monitor.exclusiveWrite memory w core addr value =
        (true, after, (monitor.drop core).breakOverlapping (some core) addr w.size)) ∨
    ((∀ observed, monitor.reservation? core = some ⟨addr, w.size, observed⟩ →
        memory.Allows PageFlags.rw addr.toNat w.bytes →
        memory.load w addr ≠ observed.toBitVec.setWidth w.bits) ∧
      monitor.exclusiveWrite memory w core addr value = (false, memory, monitor.drop core)) := by
  by_cases here : ∃ observed, monitor.reservation? core = some ⟨addr, w.size, observed⟩
  · obtain ⟨observed, held⟩ := here
    have taken : monitor.take core addr w.size = (some observed, monitor.drop core) := by
      rw [take_eq, held, Option.filter_some_pos (by simp)]
      rfl
    rw [exclusiveWrite, taken]
    rcases memory.storeIf_cases w addr value (observed.toBitVec.setWidth w.bits) with
      ⟨allowed, same, after, stored, written⟩ | ⟨refused, stored⟩
    · exact .inl ⟨observed, after, held, allowed, same, written, by simp only [stored]⟩
    · refine .inr ⟨fun again held' allowed same => refused ⟨allowed, ?_⟩, by simp only [stored]⟩
      rw [held, Option.some_inj, Reservation.mk.injEq] at held'
      rw [same, held'.2.2]
  · refine .inr ⟨fun observed held => absurd ⟨observed, held⟩ here, ?_⟩
    have other : (monitor.reservation? core).filter
        (fun r => r.addr = addr ∧ r.size = w.size) = none := by
      refine Option.filter_eq_none_iff.mpr ?_
      rintro ⟨a, size, observed⟩ held exactly
      simp only [decide_eq_true_eq] at exactly
      obtain ⟨rfl, rfl⟩ := exactly
      exact here ⟨observed, held⟩
    rw [exclusiveWrite, take_eq, other]
    rfl

/-- A committed write changes its bytes only, any other none. -/
theorem exclusiveWrite_effect (monitor : ExclusiveMonitor) (memory : AddressSpace) (w : Width)
    (core : CoreIndex) (addr : Address) (value : BitVec w.bits) :
    let (committed, after, left) := monitor.exclusiveWrite memory w core addr value
    (committed → memory.Written after addr.toNat (w.toBytes value) ∧ after.load w addr = value) ∧
      (¬ committed → after = memory) ∧ ¬ left.isReserved core := by
  have dropped := not_isReserved_drop monitor core
  rcases monitor.exclusiveWrite_cases memory w core addr value with
    ⟨_, after, _, allowed, _, written, outcome⟩ | ⟨_, outcome⟩
  · have stored := written.load (allowed.weaken PageFlags.contains_r_of_rw)
    rw [outcome]
    exact ⟨fun _ => ⟨written, stored⟩, fun failed => absurd rfl failed,
      not_isReserved_breakOverlapping dropped _ _ _⟩
  · rw [outcome]
    exact ⟨fun committed => absurd committed Bool.false_ne_true, fun _ => rfl, dropped⟩

end ExclusiveMonitor

end GuestMachine
