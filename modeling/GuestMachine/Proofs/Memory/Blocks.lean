import GuestMachine.Proofs.Memory.Values

/-! # Blocks

A block of bytes is written as a whole or not at all. Values that are stored one
behind the other make up a block, and they come back when they are loaded one
behind the other.
-/

namespace GuestMachine

theorem PageFlags.contains_w_of_rw (flags : PageFlags) (granted : flags.contains rw) :
    flags.contains w := by
  obtain ⟨read, write, execute⟩ := flags
  revert granted
  cases write <;> simp [contains, rw, w]

namespace AddressSpace

open Layout

theorem writeBlock_cases (space : AddressSpace) (addr : Address) (data : List UInt8) :
    (space.Allows PageFlags.w addr.toNat data.length ∧
      ∃ after, space.writeBlock addr data = (true, after) ∧
        space.Written after addr.toNat data) ∨
    (¬ space.Allows PageFlags.w addr.toNat data.length ∧
      space.writeBlock addr data = (false, space)) := by
  rw [writeBlock_eq]
  cases checked : space.validate addr data.length PageFlags.w .write with
  | ok =>
      have allowed := validate_eq_ok_iff.mp checked
      exact .inl ⟨allowed, _, rfl, written_putBytes allowed.mapped⟩
  | error e =>
      refine .inr ⟨fun allowed => ?_, rfl⟩
      rw [validate_eq_ok_iff.mpr allowed] at checked
      cases checked

theorem writeBlock_stored_iff (space : AddressSpace) (addr : Address) (data : List UInt8) :
    (space.writeBlock addr data).1 ↔ space.Allows PageFlags.w addr.toNat data.length := by
  rcases space.writeBlock_cases addr data with ⟨allowed, after, wrote, _⟩ | ⟨refused, wrote⟩
  · simp [wrote, allowed]
  · simp [wrote, refused]

theorem Written.refl (space : AddressSpace) (addr : Nat) : space.Written space addr [] where
  inside i lower upper := by
    rw [List.length_nil] at upper
    omega
  outside _ _ := rfl
  flags _ := rfl

theorem Written.append {before between after : AddressSpace} {addr : Nat} {first second : List UInt8}
    (written : before.Written between addr first)
    (written' : between.Written after (addr + first.length) second) :
    before.Written after addr (first ++ second) where
  inside i lower upper := by
    rw [List.length_append] at upper
    by_cases early : i < addr + first.length
    · rw [written'.outside i (.inl early), written.inside i lower early,
        List.getElem?_append_left (by omega)]
    · rw [written'.inside i (by omega) (by omega), List.getElem?_append_right (by omega)]
      congr 1
      omega
  outside i away := by
    rw [List.length_append] at away
    rw [written'.outside i (by omega), written.outside i (by omega)]
  flags page := (written'.flags page).trans (written.flags page)

variable {space before after : AddressSpace} {w : Width} {addr : Address}

theorem Written.of_store (allowed : space.Allows PageFlags.w addr.toNat w.bytes)
    (value : BitVec w.bits) :
    space.Written (space.store w addr value).2 addr.toNat (w.toBytes value) := by
  rw [← w.length_toBytes value] at allowed
  obtain ⟨_, after, wrote, written⟩ | ⟨refused, _⟩ := space.writeBlock_cases addr (w.toBytes value)
  · rw [store, wrote]
    exact written
  · exact absurd allowed refused

/-- Some of the bytes that may be used. -/
theorem Allows.part {required : PageFlags} {start len start' len' : Nat}
    (allowed : space.Allows required start len) (front : start ≤ start')
    (back : start' + len' ≤ start + len) : space.Allows required start' len' := by
  refine ⟨Nat.le_trans back allowed.1, fun i lower upper => ?_⟩
  exact allowed.2 i (by omega) (by omega)

/-- Within the address space the next value is where one expects it. -/
theorem toNat_add_size (inside : addr.toNat + w.bytes ≤ addressSpaceSize) :
    (addr + w.size).toNat = addr.toNat + w.bytes := by
  have top : addressSpaceSize = 2 ^ 39 := rfl
  rw [UInt64.toNat_add, Width.toNat_size]
  omega

/-- `count` values, from `addr` on. -/
def loads (space : AddressSpace) (w : Width) (addr : Address) : (count : Nat) → List (BitVec w.bits)
  | 0 => []
  | count + 1 => space.load w addr :: space.loads w (addr + w.size) count

theorem take_loads (space : AddressSpace) (w : Width) (addr : Address) {count total : Nat}
    (fewer : count ≤ total) : (space.loads w addr total).take count = space.loads w addr count := by
  induction count generalizing addr total with
  | zero => rfl
  | succ count ih =>
      cases total with
      | zero => omega
      | succ total => rw [loads, loads, List.take_succ_cons, ih _ (by omega)]

theorem loads_of_bytes {values : List (BitVec w.bits)}
    (readable : space.Allows PageFlags.r addr.toNat (values.length * w.bytes))
    (held : space.bytes addr.toNat (values.length * w.bytes) = values.flatMap w.toBytes) :
    space.loads w addr values.length = values := by
  induction values generalizing addr with
  | nil => rfl
  | cons value rest ih =>
      have extent : (value :: rest).length * w.bytes = w.bytes + rest.length * w.bytes := by
        rw [List.length_cons, Nat.succ_mul, Nat.add_comm]
      rw [extent] at readable
      rw [extent, bytes_add, List.flatMap_cons] at held
      have first := readable.part (Nat.le_refl _) (Nat.add_le_add_left (Nat.le_add_right _ _) _)
      have next := toNat_add_size first.1
      have length : (space.bytes addr.toNat w.bytes).length = (w.toBytes value).length := by
        rw [first.mapped.length_bytes, Width.length_toBytes]
      obtain ⟨here, behind⟩ := List.append_inj held length
      rw [List.length_cons, loads, load_eq first, here, Width.ofBytes_toBytes, ih]
      · rw [next]
        exact readable.part (Nat.le_add_right _ _) (by omega)
      · rw [next]
        exact behind

theorem Written.loads {values : List (BitVec w.bits)}
    (written : before.Written after addr.toNat (values.flatMap w.toBytes))
    (readable : before.Allows PageFlags.r addr.toNat (values.length * w.bytes)) {count : Nat}
    (fewer : count ≤ values.length) : after.loads w addr count = values.take count := by
  have length : (values.flatMap w.toBytes).length = values.length * w.bytes := by
    rw [List.length_flatMap]
    simp
  have held := written.bytes
  rw [length] at held
  rw [← after.take_loads w addr fewer, loads_of_bytes (written.allows_iff.mpr readable) held]

end AddressSpace

end GuestMachine
