import GuestMachine.Kernel.ObjectTable

/-! # Lookups in object tables

What is found under each number after a change. Numbers are given out in order
and have 64 bits; that a new object does not take an old number is known as
long as they have not run out.
-/

namespace GuestMachine

namespace ObjectTable

variable {α : Type} {table : ObjectTable α} {id : UInt64} {object : α}

/-- Found under its number. -/
def isListed (table : ObjectTable α) (id : UInt64) : Bool :=
  (table.get? id).isSome

theorem get?_eq_ite (table : ObjectTable α) (id : UInt64) :
    table.get? id = if table.isListed id then table.find? id else none := by
  rw [isListed, get?, find?]
  cases table.slots[table.indexOf id]? with
  | none => rfl
  | some slot => cases listed : slot.listed <;> simp [Option.filter, listed]

theorem get?_eq_some_iff :
    table.get? id = some object ↔ table.isListed id ∧ table.find? id = some object := by
  rw [get?_eq_ite]
  split
  · rename_i listed
    exact ⟨fun found => ⟨listed, found⟩, fun found => found.2⟩
  · rename_i unlisted
    exact ⟨nofun, fun found => absurd found.1 unlisted⟩

theorem indexOf_inj {id' : UInt64} (same : table.indexOf id = table.indexOf id') : id = id' := by
  rw [indexOf, indexOf, UInt64.toNat_inj] at same
  rw [← UInt64.sub_add_cancel id table.firstId, same, UInt64.sub_add_cancel]

theorem indexOf_nextId (room : table.slots.size < 2 ^ 64) :
    table.indexOf table.nextId = table.slots.size := by
  rw [indexOf, nextId, idOf, UInt64.add_comm, UInt64.add_sub_cancel]
  exact UInt64.toNat_ofNat_of_lt' room

/-- Numbers that are given out from 1 on do not come to 0. -/
theorem ne_zero_of_get? (first : table.firstId = 1) (room : table.slots.size < 2 ^ 64)
    (found : table.get? id = some object) : id ≠ 0 := by
  rintro rfl
  have last : table.indexOf 0 = 2 ^ 64 - 1 := by
    rw [indexOf, first]
    rfl
  have beyond : table.slots[table.indexOf 0]? = none := by
    apply Array.getElem?_eq_none
    rw [last]
    exact Nat.le_sub_one_of_lt room
  rw [get?, beyond] at found
  cases found

theorem find?_modify (table : ObjectTable α) (id : UInt64) (f : α → α) (id' : UInt64) :
    (table.modify id f).find? id' = if id' = id then (table.find? id).map f else table.find? id' := by
  change ((table.slots.modify (table.indexOf id) _)[table.indexOf id']?).map _ = _
  rw [Array.getElem?_modify]
  by_cases same : id' = id
  · subst same
    simp only [if_true, find?]
    cases table.slots[table.indexOf id']? <;> rfl
  · have apart : table.indexOf id ≠ table.indexOf id' := fun here => same (indexOf_inj here).symm
    rw [if_neg apart, if_neg same]
    rfl

theorem modify_modify_const (table : ObjectTable α) (id : UInt64) (first second : α) :
    (table.modify id fun _ => first).modify id (fun _ => second) =
      table.modify id fun _ => second := by
  have same : (table.modify id fun _ => first).indexOf id = table.indexOf id := rfl
  rw [modify, same]
  simp only [modify, mk.injEq, true_and]
  apply Array.ext_getElem?
  intro i
  simp only [Array.getElem?_modify]
  split
  · cases table.slots[i]? <;> rfl
  · rfl

theorem isListed_modify (table : ObjectTable α) (id : UInt64) (f : α → α) (id' : UInt64) :
    (table.modify id f).isListed id' = table.isListed id' := by
  change (((table.slots.modify (table.indexOf id) _)[table.indexOf id']?.filter _).map _).isSome = _
  rw [Array.getElem?_modify, isListed, get?]
  split
  · cases table.slots[table.indexOf id']? with
    | none => rfl
    | some slot => cases listed : slot.listed <;> simp [Option.filter, listed]
  · rfl

theorem find?_remove (table : ObjectTable α) (id id' : UInt64) :
    (table.remove id).find? id' = table.find? id' := by
  change ((table.slots.modify (table.indexOf id) _)[table.indexOf id']?).map _ = _
  rw [Array.getElem?_modify, find?]
  split
  · cases table.slots[table.indexOf id']? <;> rfl
  · rfl

theorem isListed_remove (table : ObjectTable α) (id id' : UInt64) :
    (table.remove id).isListed id' = (table.isListed id' && id' != id) := by
  change (((table.slots.modify (table.indexOf id) _)[table.indexOf id']?.filter _).map _).isSome = _
  rw [Array.getElem?_modify]
  by_cases same : id' = id
  · subst same
    cases table.slots[table.indexOf id']? <;> simp
  · have apart : table.indexOf id ≠ table.indexOf id' := fun here => same (indexOf_inj here).symm
    rw [if_neg apart, bne_iff_ne.mpr same, Bool.and_true]
    rfl

theorem find?_nextId (room : table.slots.size < 2 ^ 64) : table.find? table.nextId = none := by
  rw [find?, indexOf_nextId room, Array.getElem?_eq_none (Nat.le_refl _)]
  rfl

theorem slots_insert (room : table.slots.size < 2 ^ 64) (id' : UInt64) :
    (table.insert object).slots[table.indexOf id']? =
      if id' = table.nextId then some { object } else table.slots[table.indexOf id']? := by
  rw [insert, Array.getElem?_push]
  have index : table.indexOf id' = table.slots.size ↔ id' = table.nextId := by
    rw [← indexOf_nextId room]
    exact ⟨indexOf_inj, congrArg _⟩
  simp only [index]

theorem find?_insert (room : table.slots.size < 2 ^ 64) (object : α) (id' : UInt64) :
    (table.insert object).find? id' =
      if id' = table.nextId then some object else table.find? id' := by
  change ((table.insert object).slots[table.indexOf id']?).map _ = _
  rw [slots_insert room]
  split <;> rfl

/-- Also when the numbers have run out, nothing is found that was not there. -/
theorem find?_insert_cases {found : α} {id' : UInt64}
    (known : (table.insert object).find? id' = some found) :
    (id' = table.nextId ∧ found = object) ∨ table.find? id' = some found := by
  change ((table.slots.push { object })[table.indexOf id']?).map _ = _ at known
  rw [Array.getElem?_push] at known
  split at known
  · rename_i last
    refine .inl ⟨?_, (Option.some.inj known).symm⟩
    rw [nextId, idOf, ← last, indexOf, UInt64.ofNat_toNat, UInt64.add_comm, UInt64.sub_add_cancel]
  · exact .inr known

theorem isListed_insert (room : table.slots.size < 2 ^ 64) (object : α) (id' : UInt64) :
    (table.insert object).isListed id' = (table.isListed id' || id' == table.nextId) := by
  change (((table.insert object).slots[table.indexOf id']?.filter _).map _).isSome = _
  rw [slots_insert room]
  by_cases same : id' = table.nextId
  · simp [same]
  · rw [if_neg same, beq_eq_false_iff_ne.mpr same, Bool.or_false]
    rfl

theorem get?_modify (table : ObjectTable α) (id : UInt64) (f : α → α) (id' : UInt64) :
    (table.modify id f).get? id' = if id' = id then (table.get? id).map f else table.get? id' := by
  simp only [get?_eq_ite, isListed_modify, find?_modify]
  by_cases same : id' = id
  · subst same
    cases listed : table.isListed id' <;> simp
  · simp [same]

theorem get?_remove (table : ObjectTable α) (id id' : UInt64) :
    (table.remove id).get? id' = if id' = id then none else table.get? id' := by
  simp only [get?_eq_ite, isListed_remove, find?_remove]
  by_cases same : id' = id
  · simp [same]
  · simp [same]

theorem get?_insert (room : table.slots.size < 2 ^ 64) (object : α) (id' : UInt64) :
    (table.insert object).get? id' = if id' = table.nextId then some object else table.get? id' := by
  simp only [get?_eq_ite, isListed_insert room, find?_insert room]
  by_cases same : id' = table.nextId
  · simp [same]
  · simp [same]

theorem size_modify (table : ObjectTable α) (id : UInt64) (f : α → α) :
    (table.modify id f).slots.size = table.slots.size :=
  Array.size_modify

theorem size_remove (table : ObjectTable α) (id : UInt64) :
    (table.remove id).slots.size = table.slots.size :=
  Array.size_modify

theorem size_insert (table : ObjectTable α) (object : α) :
    (table.insert object).slots.size = table.slots.size + 1 :=
  Array.size_push ..

end ObjectTable

end GuestMachine
