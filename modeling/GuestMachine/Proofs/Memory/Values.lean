import GuestMachine.Proofs.Memory.Contents

/-! # Values of a fixed width

A value of each width stands for as many bytes, lowest first, and the accesses
of one value act on those bytes.
-/

namespace GuestMachine

namespace Width

theorem bits_le_of_ne_quad {w : Width} (single : w ≠ .quad) : w.bits ≤ 64 := by
  cases w with
  | quad => exact absurd rfl single
  | _ => decide

theorem bytes_pos (w : Width) : 0 < w.bytes := by
  cases w <;> decide

@[simp] theorem toNat_size (w : Width) : w.size.toNat = w.bytes := by
  cases w <;> rfl

theorem size_inj {v w : Width} : v.size = w.size ↔ v = w := by
  cases v <;> cases w <;> decide

theorem getLsbD_ofBytes (w : Width) (data : List UInt8) (i : Nat) :
    (w.ofBytes data).getLsbD i =
      (decide (i < w.bits) && (data[i / 8]?.getD 0).toBitVec.getLsbD (i % 8)) := by
  induction data generalizing i with
  | nil => simp [ofBytes]
  | cons b rest ih =>
      have unfolded : w.ofBytes (b :: rest) =
          (w.ofBytes rest <<< 8) ||| b.toBitVec.setWidth w.bits := rfl
      rw [unfolded, BitVec.getLsbD_or, BitVec.getLsbD_shiftLeft, BitVec.getLsbD_setWidth, ih]
      by_cases low : i < 8
      · simp [low, Nat.div_eq_of_lt low, Nat.mod_eq_of_lt low]
      · have index : i / 8 = (i - 8) / 8 + 1 := by omega
        have bit : (i - 8) % 8 = i % 8 := by omega
        have high : b.toBitVec.getLsbD i = false := BitVec.getLsbD_of_ge _ _ (by omega)
        rw [index, List.getElem?_cons_succ, bit, high]
        by_cases inside : i < w.bits
        · simp [inside, low, show i - 8 < w.bits by omega]
        · simp [inside]

theorem ofBytes_toBytes (w : Width) (value : BitVec w.bits) :
    w.ofBytes (w.toBytes value) = value := by
  apply BitVec.eq_of_getLsbD_eq
  intro i inside
  have place : i / 8 < w.bytes := by
    rw [bits] at inside
    omega
  rw [getLsbD_ofBytes, toBytes, List.getElem?_map, List.getElem?_range place]
  simp only [inside, decide_true, Bool.true_and, Option.map_some, Option.getD_some,
    UInt8.toBitVec_ofBitVec, BitVec.getLsbD_extractLsb']
  rw [Nat.div_add_mod]
  simp [Nat.mod_lt]

/-- The right number of bytes is determined by the value it stands for. -/
theorem toBytes_ofBytes (w : Width) {data : List UInt8} (length : data.length = w.bytes) :
    w.toBytes (w.ofBytes data) = data := by
  apply List.ext_getElem (by rw [length_toBytes, length])
  intro k _ inside
  simp only [toBytes, List.getElem_map, List.getElem_range]
  apply UInt8.toBitVec_inj.mp
  apply BitVec.eq_of_getLsbD_eq
  intro i low
  rw [UInt8.toBitVec_ofBitVec, BitVec.getLsbD_extractLsb', getLsbD_ofBytes]
  have index : (8 * k + i) / 8 = k := by omega
  have bit : (8 * k + i) % 8 = i := by omega
  have bound : 8 * k + i < w.bits := by
    rw [bits]
    omega
  simp [index, bit, bound, low, List.getElem?_eq_getElem inside]

end Width

theorem PageFlags.contains_r_of_rw (flags : PageFlags) (granted : flags.contains rw) :
    flags.contains r := by
  obtain ⟨read, write, execute⟩ := flags
  revert granted
  cases read <;> simp [contains, rw, r]

namespace AddressSpace

theorem load_eq {space : AddressSpace} {w : Width} {addr : Address}
    (readable : space.Allows PageFlags.r addr.toNat w.bytes) :
    space.load w addr = w.ofBytes (space.bytes addr.toNat w.bytes) := by
  rw [load, read_eq, validate_eq_ok_iff.mpr readable]
  rfl

theorem Allows.weaken {space : AddressSpace} {required weaker : PageFlags} {addr len : Nat}
    (allowed : space.Allows required addr len)
    (implied : ∀ flags : PageFlags, flags.contains required → flags.contains weaker) :
    space.Allows weaker addr len := by
  refine ⟨allowed.1, ?_⟩
  intro i lower upper
  obtain ⟨flags, found, granted⟩ := allowed.2 i lower upper
  exact ⟨flags, found, implied flags granted⟩

/-- Where memory may be read and written, its bytes are those of `value`
    exactly if that is the value a load gives. -/
theorem bytes_eq_toBytes_iff {space : AddressSpace} {w : Width} {addr : Address}
    {value : BitVec w.bits} (allowed : space.Allows PageFlags.rw addr.toNat w.bytes) :
    space.bytes addr.toNat w.bytes = w.toBytes value ↔ space.load w addr = value := by
  rw [load_eq (allowed.weaken PageFlags.contains_r_of_rw)]
  constructor
  · intro held
    rw [held, Width.ofBytes_toBytes]
  · intro loaded
    rw [← loaded, Width.toBytes_ofBytes w allowed.mapped.length_bytes]

/-- `after` differs from `before` only by holding `data` at `addr`. -/
structure Written (before after : AddressSpace) (addr : Nat) (data : List UInt8) : Prop where
  inside : ∀ i, addr ≤ i → i < addr + data.length → after.byte? i = data[i - addr]?
  outside : ∀ i, i < addr ∨ addr + data.length ≤ i → after.byte? i = before.byte? i
  flags : ∀ page, after.flags? page = before.flags? page

theorem written_putBytes {space : AddressSpace} {addr : Nat} {data : List UInt8}
    (mapped : space.Mapped addr data.length) :
    space.Written { space with pages := putBytes space.pages addr data } addr data where
  inside i lower upper := by
    obtain ⟨old, found⟩ := Option.isSome_iff_exists.mp (mapped i lower upper)
    have index : i - addr < data.length := by omega
    rw [byte?_putBytes, found, Option.map_some, if_pos lower, List.getElem?_eq_getElem index]
    rfl
  outside i away := by
    rw [byte?_putBytes]
    by_cases lower : addr ≤ i
    · have beyond : data[i - addr]? = none := List.getElem?_eq_none (by omega)
      simp [beyond]
    · simp [lower]
  flags page := flags?_putBytes space.pages space.everMapped addr data page

theorem filterMap_range'_eq {f : Nat → Option α} {addr : Nat} {data : List α}
    (each : ∀ i, addr ≤ i → i < addr + data.length → f i = data[i - addr]?) :
    (List.range' addr data.length).filterMap f = data := by
  induction data generalizing addr with
  | nil => rfl
  | cons first rest ih =>
      have here : f addr = some first := by
        simpa using each addr (Nat.le_refl addr) (by simp)
      rw [List.length_cons, List.range'_succ, List.filterMap_cons_some here]
      congr 1
      apply ih
      intro i lower upper
      have index : i - addr = i - (addr + 1) + 1 := by omega
      rw [each i (by omega) (by simp only [List.length_cons]; omega), index,
        List.getElem?_cons_succ]

theorem Written.bytes {before after : AddressSpace} {addr : Nat} {data : List UInt8}
    (written : before.Written after addr data) : after.bytes addr data.length = data :=
  filterMap_range'_eq written.inside

theorem Written.allows_iff {before after : AddressSpace} {addr : Nat} {data : List UInt8}
    (written : before.Written after addr data) {required : PageFlags} {start len : Nat} :
    after.Allows required start len ↔ before.Allows required start len := by
  simp only [Allows, written.flags]

theorem Written.load {before after : AddressSpace} {w : Width} {addr : Address}
    {value : BitVec w.bits} (written : before.Written after addr.toNat (w.toBytes value))
    (readable : before.Allows PageFlags.r addr.toNat w.bytes) : after.load w addr = value := by
  have held := written.bytes
  rw [Width.length_toBytes] at held
  rw [load_eq (written.allows_iff.mpr readable), held, Width.ofBytes_toBytes]

/-- A conditional store happens exactly where memory may be read and written
    and a load gives the expected value. Otherwise nothing changes. -/
theorem storeIf_cases (space : AddressSpace) (w : Width) (addr : Address)
    (value expected : BitVec w.bits) :
    (space.Allows PageFlags.rw addr.toNat w.bytes ∧ space.load w addr = expected ∧
      ∃ after, space.storeIf w addr value expected = (true, after) ∧
        space.Written after addr.toNat (w.toBytes value)) ∨
    (¬ (space.Allows PageFlags.rw addr.toNat w.bytes ∧ space.load w addr = expected) ∧
      space.storeIf w addr value expected = (false, space)) := by
  have same : (w.toBytes expected).length = (w.toBytes value).length := by simp
  have outcome := compareExchangeBlock_eq space addr same
  rw [Width.length_toBytes] at outcome
  cases checked : space.validate addr w.bytes PageFlags.rw .write with
  | error error =>
      have refused : ¬ space.Allows PageFlags.rw addr.toNat w.bytes := by
        intro allowed
        rw [validate_eq_ok_iff.mpr allowed] at checked
        cases checked
      refine .inr ⟨fun allowed => refused allowed.1, ?_⟩
      rw [storeIf, outcome, checked]
  | ok =>
      have allowed := validate_eq_ok_iff.mp checked
      by_cases held : space.bytes addr.toNat w.bytes = w.toBytes expected
      · refine .inl ⟨allowed, (bytes_eq_toBytes_iff allowed).mp held, _, ?_, written_putBytes ?_⟩
        · rw [storeIf, outcome, checked]
          simp only [held, if_true]
        · rw [Width.length_toBytes]
          exact allowed.mapped
      · refine .inr ⟨fun both => held ((bytes_eq_toBytes_iff allowed).mpr both.2), ?_⟩
        rw [storeIf, outcome, checked]
        simp only [held, if_false]

end AddressSpace

end GuestMachine
