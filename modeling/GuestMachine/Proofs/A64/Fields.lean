import GuestMachine.A64.Decode

/-! # Reading the fields of a word

A word is written as its fields side by side, the most significant one first.
What is read of it comes down to what is read of the field in that place.
-/

namespace GuestMachine.A64

/-- `len` bits from bit `lo` up, of a word of any width. -/
def slice (raw : BitVec n) (lo len : Nat) : BitVec len :=
  raw.extractLsb' lo len

/-- Bit `pos` of a word of any width. -/
def flag (raw : BitVec n) (pos : Nat) : Bool :=
  raw.getLsbD pos

@[simp] theorem bits_eq_slice (raw : BitVec 32) (lo len : Nat) :
    bits raw lo len = slice raw lo len := rfl

@[simp] theorem bit_eq_flag (raw : BitVec 32) (pos : Nat) : bit raw pos = flag raw pos := rfl

@[simp] theorem regAt_eq_slice (raw : BitVec 32) (lo : Nat) : regAt raw lo = slice raw lo 5 := rfl

section

variable {m n lo len pos : Nat} {high : BitVec m} {low : BitVec n}

@[simp] theorem slice_append_high (above : n ≤ lo) :
    slice (high ++ low) lo len = slice high (lo - n) len :=
  BitVec.extractLsb'_append_eq_of_le above

@[simp] theorem slice_append_low (below : lo + len ≤ n) :
    slice (high ++ low) lo len = slice low lo len :=
  BitVec.extractLsb'_append_eq_of_add_le below

@[simp] theorem flag_append_high (above : n ≤ pos) :
    flag (high ++ low) pos = flag high (pos - n) := by
  rw [flag, BitVec.getLsbD_append, if_neg (Nat.not_lt_of_le above), flag]

@[simp] theorem flag_append_low (below : pos < n) : flag (high ++ low) pos = flag low pos := by
  rw [flag, BitVec.getLsbD_append, if_pos below, flag]

end

@[simp] theorem slice_self (field : BitVec n) : slice field 0 n = field :=
  BitVec.extractLsb'_eq_self

@[simp] theorem slice_ofNat (n value lo len : Nat) :
    slice (BitVec.ofNat n value) lo len = BitVec.ofNat len ((value % 2 ^ n) >>> lo) := by
  apply BitVec.eq_of_toNat_eq
  simp [slice]

@[simp] theorem flag_ofBool (b : Bool) : flag (BitVec.ofBool b) 0 = b := by
  cases b <;> rfl

@[simp] theorem flag_ofNat (n value pos : Nat) :
    flag (BitVec.ofNat n value) pos = decide (value % 2 ^ n / 2 ^ pos % 2 = 1) := by
  simp [flag, BitVec.getLsbD, Nat.testBit_eq_decide_div_mod_eq]

theorem flag_slice {raw : BitVec n} {lo len pos : Nat} (within : pos < len) :
    flag (slice raw lo len) pos = flag raw (lo + pos) := by
  rw [flag, slice, BitVec.getLsbD_extractLsb', decide_eq_true within, Bool.true_and, flag]

/-- A field is told from an opcode by one bit. -/
theorem slice_ne {raw : BitVec n} {lo len : Nat} {opcode : BitVec len} (pos : Nat)
    (within : pos < len) (differs : flag raw (lo + pos) ≠ flag opcode pos) :
    slice raw lo len ≠ opcode := by
  rintro rfl
  exact differs (flag_slice within).symm

theorem slice_slice {raw : BitVec n} {lo len lo' len' : Nat} (within : lo' + len' ≤ len) :
    slice (slice raw lo len) lo' len' = slice raw (lo + lo') len' := by
  apply BitVec.eq_of_getLsbD_eq
  intro i inside
  have here : lo' + i < len := by omega
  simp only [slice, BitVec.getLsbD_extractLsb', decide_eq_true here, Bool.true_and, Nat.add_assoc]

/-- A field that was split is put together again. -/
theorem slice_append_slice {m k : Nat} (field : BitVec (m + k)) :
    slice field k m ++ slice field 0 k = field := by
  have joined := @BitVec.extractLsb'_append_extractLsb'_eq_extractLsb' _ k 0 k m field
    (Nat.zero_add k).symm
  exact joined.trans BitVec.extractLsb'_eq_self

end GuestMachine.A64
