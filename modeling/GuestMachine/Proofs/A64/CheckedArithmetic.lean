import GuestMachine.A64.Execute

/-! # Arithmetic that is checked

A host may check its own arithmetic and stop where an operation is not defined:
a shift by the width of the operand or more, a sum or difference that leaves the
range, a quotient by zero. Here the operations of the instructions are carried
out that way, on words of 64 bits that are cut off at the end. While the fields
of an instruction are in range nothing stops, and the outcome is that of the
same operation on words of the instruction's own width.

Wrapping and bitwise operations have nothing to check, and neither has a shift
by a constant.
-/

namespace GuestMachine.A64

/-- What a host stops for. -/
inductive Trap where
  /-- There is no register of that number. -/
  | index
  /-- A shift by the width of the operand or more. -/
  | shift
  | overflow
  | divisionByZero
  deriving Repr, DecidableEq

namespace Checked

def shiftLeft (x : BitVec w) (amount : Nat) : Except Trap (BitVec w) :=
  if amount < w then pure (x <<< amount) else throw .shift

def shiftRight (x : BitVec w) (amount : Nat) : Except Trap (BitVec w) :=
  if amount < w then pure (x >>> amount) else throw .shift

def sshiftRight (x : BitVec w) (amount : Nat) : Except Trap (BitVec w) :=
  if amount < w then pure (x.sshiftRight amount) else throw .shift

def add (x y : BitVec w) : Except Trap (BitVec w) :=
  if x.toNat + y.toNat < 2 ^ w then pure (x + y) else throw .overflow

def sub (x y : BitVec w) : Except Trap (BitVec w) :=
  if y ≤ x then pure (x - y) else throw .overflow

def quotient (signed : Bool) (x y : BitVec w) : Except Trap (BitVec w) :=
  if y = 0#w then throw .divisionByZero else pure (if signed then x.sdiv y else x / y)

section

variable {x y : BitVec w} {amount : Nat}

theorem shiftLeft_eq (short : amount < w) : shiftLeft x amount = .ok (x <<< amount) :=
  if_pos short

theorem shiftRight_eq (short : amount < w) : shiftRight x amount = .ok (x >>> amount) :=
  if_pos short

theorem sshiftRight_eq (short : amount < w) : sshiftRight x amount = .ok (x.sshiftRight amount) :=
  if_pos short

theorem add_eq (fits : x.toNat + y.toNat < 2 ^ w) : add x y = .ok (x + y) := if_pos fits

theorem sub_eq (ordered : y ≤ x) : sub x y = .ok (x - y) := if_pos ordered

theorem quotient_eq {signed : Bool} (nonzero : y ≠ 0#w) :
    quotient signed x y = .ok (if signed then x.sdiv y else x / y) :=
  if_neg nonzero

@[simp] theorem ok_bind (a : α) (f : α → Except Trap β) : (Except.ok a >>= f) = f a := rfl

end

/-- The `width` lowest bits set. -/
def ones (width : BitVec 32) : Except Trap (BitVec 64) :=
  if 64 ≤ width.toNat then pure (BitVec.allOnes 64)
  else do sub (← shiftLeft 1#64 width.toNat) 1#64

/-- The low `width` bits of `value`, sign-extended. -/
def signExtend (value : BitVec 64) (width : BitVec 32) : Except Trap (BitVec 64) := do
  let shift ← sub 64#32 width
  sshiftRight (← shiftLeft value shift.toNat) shift.toNat

theorem ones_eq {width : BitVec 32} (most : width.toNat ≤ 64) :
    ones width = .ok (A64.ones 64 width.toNat) := by
  unfold ones
  split
  · rename_i all
    rw [Nat.le_antisymm most all]
    rfl
  · rename_i short
    have power : 1#64 <<< width.toNat = BitVec.ofNat 64 (2 ^ width.toNat) := by
      apply BitVec.eq_of_toNat_eq
      rw [BitVec.toNat_shiftLeft, Nat.shiftLeft_eq]
      simp
    have within : 2 ^ width.toNat < 2 ^ 64 :=
      Nat.pow_lt_pow_right (by decide) (Nat.lt_of_not_le short)
    have positive : 0 < 2 ^ width.toNat := Nat.two_pow_pos _
    have ordered : 1#64 ≤ 1#64 <<< width.toNat := by
      rw [power, BitVec.le_def, BitVec.toNat_ofNat, BitVec.toNat_ofNat, Nat.mod_eq_of_lt within]
      exact positive
    rw [shiftLeft_eq (Nat.lt_of_not_le short), ok_bind, sub_eq ordered, A64.ones, power,
      BitVec.ofNat_sub_ofNat_of_le _ _ (by decide) positive]

theorem signExtend_eq {value : BitVec 64} {width : BitVec 32} (some : 0 < width.toNat)
    (most : width.toNat ≤ 64) :
    signExtend value width = .ok (signExtendLow value width.toNat) := by
  have ordered : width ≤ 64#32 := most
  have shift : (64#32 - width).toNat = 64 - width.toNat := BitVec.toNat_sub_of_le ordered
  have short : 64 - width.toNat < 64 := by omega
  rw [signExtend, sub_eq ordered, ok_bind, shift, shiftLeft_eq short, ok_bind, sshiftRight_eq short,
    signExtendLow]

theorem getLsbD_ones (w count i : Nat) :
    (A64.ones w count).getLsbD i = (decide (i < w) && decide (i < count)) := by
  rw [A64.ones, BitVec.getLsbD_ofNat, Nat.testBit_two_pow_sub_one]

theorem getLsbD_signExtendLow {value : BitVec w} {count i : Nat} (inside : i < w) (some : 0 < count)
    (most : count ≤ w) :
    (signExtendLow value count).getLsbD i = value.getLsbD (if i < count then i else count - 1) := by
  rw [signExtendLow, BitVec.getLsbD_sshiftRight]
  simp only [BitVec.msb_eq_getLsbD_last, BitVec.getLsbD_shiftLeft]
  grind

section

variable {w : Nat} (narrow : w ≤ 64)
include narrow

theorem setWidth_ones (count : Nat) : (A64.ones 64 count).setWidth w = A64.ones w count :=
  BitVec.setWidth_ofNat_of_le narrow _

/-- Bits from `lo` up of a word are those of the low part that holds them. -/
theorem setWidth_field {source : BitVec 64} {lo count : Nat} (within : lo + count ≤ w) :
    ((source >>> lo) &&& A64.ones 64 count).setWidth w =
      (source.setWidth w >>> lo) &&& A64.ones w count := by
  apply BitVec.eq_of_getLsbD_eq
  intro i inside
  simp only [BitVec.getLsbD_setWidth, BitVec.getLsbD_and, BitVec.getLsbD_ushiftRight, getLsbD_ones]
  grind

theorem setWidth_signExtendLow {value : BitVec 64} {count : Nat} (some : 0 < count)
    (most : count ≤ w) :
    (signExtendLow value count).setWidth w = signExtendLow (value.setWidth w) count := by
  apply BitVec.eq_of_getLsbD_eq
  intro i inside
  rw [BitVec.getLsbD_setWidth, getLsbD_signExtendLow (by omega) some (by omega),
    getLsbD_signExtendLow inside some most, BitVec.getLsbD_setWidth]
  grind

theorem setWidth_condSelectElse (op : CondSelectOp) (b : BitVec 64) :
    (condSelectElse op b).setWidth w = condSelectElse op (b.setWidth w) := by
  have one : (1#64).setWidth w = 1#w := BitVec.setWidth_ofNat_of_le narrow _
  cases op with
  | csel => rfl
  | csinc => exact (BitVec.setWidth_add _ _ narrow).trans (congrArg _ one)
  | csinv => exact BitVec.setWidth_not narrow
  | csneg => exact BitVec.setWidth_neg_of_le narrow

theorem setWidth_mulAdd (sub : Bool) (a n m : BitVec 64) :
    (mulAdd sub a n m).setWidth w = mulAdd sub (a.setWidth w) (n.setWidth w) (m.setWidth w) := by
  cases sub with
  | true =>
      simp only [mulAdd, if_true, BitVec.sub_eq_add_neg, BitVec.setWidth_add _ _ narrow,
        BitVec.setWidth_neg_of_le narrow, BitVec.setWidth_mul _ _ narrow]
  | false =>
      simp only [mulAdd, Bool.false_eq_true, if_false, BitVec.setWidth_add _ _ narrow,
        BitVec.setWidth_mul _ _ narrow]

end

theorem dataSize_le (sf : Bool) : dataSize sf ≤ 64 := by
  cases sf <;> decide

theorem operand_result (sf : Bool) (value : BitVec (dataSize sf)) :
    operand sf (result sf value) = value := by
  have narrow := dataSize_le sf
  rw [operand, result, BitVec.setWidth_setWidth (by omega), BitVec.setWidth_eq]

theorem operand_not (sf : Bool) (value : UInt64) : operand sf (~~~value) = ~~~operand sf value :=
  BitVec.setWidth_not (dataSize_le sf)

theorem operand_true (value : UInt64) : operand true value = value.toBitVec :=
  BitVec.setWidth_eq _

theorem result_true (value : BitVec 64) : result true value = UInt64.ofBitVec value :=
  congrArg UInt64.ofBitVec (BitVec.setWidth_eq value)

/-- A 32-bit form leaves the low half. -/
def truncate (sf : Bool) (value : BitVec 64) : UInt64 :=
  UInt64.ofBitVec (if sf then value else value &&& 0xFFFFFFFF#64)

theorem truncate_eq (sf : Bool) (value : BitVec 64) :
    truncate sf value = result sf (value.setWidth (dataSize sf)) := by
  apply congrArg UInt64.ofBitVec
  apply BitVec.eq_of_toNat_eq
  cases sf with
  | true => rw [if_pos rfl, dataSize, if_pos rfl, BitVec.setWidth_eq, BitVec.setWidth_eq]
  | false =>
      have low : (value &&& 0xFFFFFFFF#64).toNat = value.toNat % 2 ^ 32 :=
        Nat.and_two_pow_sub_one_eq_mod value.toNat 32
      have small : value.toNat % 2 ^ 32 < 2 ^ 64 :=
        Nat.lt_of_lt_of_le (Nat.mod_lt _ (by decide)) (by decide)
      rw [if_neg Bool.false_ne_true, dataSize, if_neg Bool.false_ne_true, low,
        BitVec.toNat_setWidth, BitVec.toNat_setWidth, Nat.mod_eq_of_lt small]

def moveWide (sf : Bool) (op : MoveWideOp) (old : UInt64) (imm16 : BitVec 16) (hw : BitVec 2) :
    Except Trap UInt64 := do
  let shift := 16 * hw.toNat
  let imm ← shiftLeft (imm16.setWidth 64) shift
  match op with
  | .movz => pure (truncate sf imm)
  | .movn => pure (truncate sf (~~~imm))
  | .movk => do
      let replaced ← shiftLeft 0xFFFF#64 shift
      pure (truncate sf ((old.toBitVec &&& ~~~replaced) ||| imm))

theorem moveWide_eq {sf : Bool} {hw : BitVec 2} (fits : 16 * hw.toNat < dataSize sf)
    (op : MoveWideOp) (old : UInt64) (imm16 : BitVec 16) :
    moveWide sf op old imm16 hw =
      .ok (result sf (A64.moveWide op (operand sf old) imm16 hw.toNat)) := by
  have narrow := dataSize_le sf
  have short : 16 * hw.toNat < 64 := Nat.lt_of_lt_of_le fits narrow
  have mask : (0xFFFF#64).setWidth (dataSize sf) = (0xFFFF#16).setWidth (dataSize sf) := by
    cases sf <;> rfl
  have imm : (imm16.setWidth 64).setWidth (dataSize sf) = imm16.setWidth (dataSize sf) :=
    BitVec.setWidth_setWidth (by omega)
  cases op <;>
    simp only [moveWide, A64.moveWide, operand, shiftLeft_eq short, ok_bind, pure, Except.pure,
      truncate_eq, BitVec.setWidth_or, BitVec.setWidth_and, BitVec.setWidth_not narrow,
      BitVec.setWidth_shiftLeft_of_le narrow, mask, imm]

/-- A bitfield move downwards, of `width` bits from bit `lo` up. -/
def bitfieldDown (sf : Bool) (op : BitfieldOp) (target source : UInt64) (lo width : BitVec 32) :
    Except Trap UInt64 := do
  let field := (← shiftRight source.toBitVec lo.toNat) &&& (← ones width)
  match op with
  | .ubfm => pure (truncate sf field)
  | .sbfm => do pure (truncate sf (← signExtend field width))
  | .bfm => do pure (truncate sf ((target.toBitVec &&& ~~~(← ones width)) ||| field))

/-- A bitfield move upwards, of the low `width` bits to bit `pos`. -/
def bitfieldUp (sf : Bool) (op : BitfieldOp) (target source : UInt64) (width pos : BitVec 32) :
    Except Trap UInt64 := do
  let field := source.toBitVec &&& (← ones width)
  match op with
  | .ubfm => do pure (truncate sf (← shiftLeft field pos.toNat))
  | .sbfm => do pure (truncate sf (← shiftLeft (← signExtend field width) pos.toNat))
  | .bfm => do
      let replaced ← shiftLeft (← ones width) pos.toNat
      pure (truncate sf ((target.toBitVec &&& ~~~replaced) ||| (← shiftLeft field pos.toNat)))

def bitfield (sf : Bool) (op : BitfieldOp) (target source : UInt64) (immr imms : BitVec 32) :
    Except Trap UInt64 :=
  if immr ≤ imms then do
    bitfieldDown sf op target source immr (← add (← sub imms immr) 1#32)
  else do
    bitfieldUp sf op target source (← add imms 1#32) (← sub (BitVec.ofNat 32 (dataSize sf)) immr)

section

variable {sf : Bool} {lo width pos : BitVec 32} (op : BitfieldOp) (target source : UInt64)

theorem bitfieldDown_eq (some : 0 < width.toNat) (within : lo.toNat + width.toNat ≤ dataSize sf) :
    bitfieldDown sf op target source lo width =
      .ok (result sf
        (let field := (operand sf source >>> lo.toNat) &&& A64.ones _ width.toNat
        match op with
        | .ubfm => field
        | .sbfm => signExtendLow field width.toNat
        | .bfm => (operand sf target &&& ~~~(A64.ones _ width.toNat)) ||| field)) := by
  have narrow := dataSize_le sf
  have inForm : width.toNat ≤ dataSize sf := by omega
  have most : width.toNat ≤ 64 := by omega
  have short : lo.toNat < 64 := by omega
  have field : ((source.toBitVec >>> lo.toNat) &&& A64.ones 64 width.toNat).setWidth (dataSize sf) =
      (operand sf source >>> lo.toNat) &&& A64.ones _ width.toNat :=
    setWidth_field narrow within
  rw [bitfieldDown, shiftRight_eq short, ok_bind, ones_eq most, ok_bind]
  cases op with
  | ubfm => exact congrArg Except.ok ((truncate_eq sf _).trans (congrArg (result sf) field))
  | sbfm =>
      simp only [signExtend_eq some most, ok_bind, truncate_eq,
        setWidth_signExtendLow narrow some inForm, field]
      rfl
  | bfm =>
      simp only [ok_bind, truncate_eq, BitVec.setWidth_or, field]
      rw [BitVec.setWidth_and, BitVec.setWidth_not narrow, setWidth_ones narrow]
      rfl

theorem bitfieldUp_eq (some : 0 < width.toNat) (within : width.toNat ≤ dataSize sf)
    (room : pos.toNat < dataSize sf) :
    bitfieldUp sf op target source width pos =
      .ok (result sf
        (let field := operand sf source &&& A64.ones _ width.toNat
        match op with
        | .ubfm => field <<< pos.toNat
        | .sbfm => signExtendLow field width.toNat <<< pos.toNat
        | .bfm =>
            (operand sf target &&& ~~~(A64.ones _ width.toNat <<< pos.toNat)) |||
              field <<< pos.toNat)) := by
  have narrow := dataSize_le sf
  have most : width.toNat ≤ 64 := by omega
  have short : pos.toNat < 64 := by omega
  have field : (source.toBitVec &&& A64.ones 64 width.toNat).setWidth (dataSize sf) =
      operand sf source &&& A64.ones _ width.toNat := by
    rw [BitVec.setWidth_and, setWidth_ones narrow, operand]
  rw [bitfieldUp, ones_eq most, ok_bind]
  cases op with
  | ubfm =>
      simp only [shiftLeft_eq short, ok_bind, truncate_eq, BitVec.setWidth_shiftLeft_of_le narrow,
        field]
      rfl
  | sbfm =>
      simp only [signExtend_eq some most, shiftLeft_eq short, ok_bind, truncate_eq,
        BitVec.setWidth_shiftLeft_of_le narrow, setWidth_signExtendLow narrow some within, field]
      rfl
  | bfm =>
      simp only [ok_bind, shiftLeft_eq short, truncate_eq, BitVec.setWidth_or,
        BitVec.setWidth_shiftLeft_of_le narrow, field]
      rw [BitVec.setWidth_and, BitVec.setWidth_not narrow, BitVec.setWidth_shiftLeft_of_le narrow,
        setWidth_ones narrow]
      rfl

theorem bitfield_eq {immr imms : BitVec 6} (rotation : immr.toNat < dataSize sf)
    (top : imms.toNat < dataSize sf) :
    bitfield sf op target source (immr.setWidth 32) (imms.setWidth 32) =
      .ok (result sf (bitfieldMove op (operand sf target) (operand sf source) immr.toNat
        imms.toNat)) := by
  have narrow := dataSize_le sf
  have immrNat : (immr.setWidth 32).toNat = immr.toNat := BitVec.toNat_setWidth_of_le (by decide)
  have immsNat : (imms.setWidth 32).toNat = imms.toNat := BitVec.toNat_setWidth_of_le (by decide)
  have one : (1#32).toNat = 1 := rfl
  have ordered : immr.setWidth 32 ≤ imms.setWidth 32 ↔ immr.toNat ≤ imms.toNat := by
    rw [BitVec.le_def, immrNat, immsNat]
  -- The branch taken is what keeps the difference in range.
  by_cases straight : immr.toNat ≤ imms.toNat
  · have apart := ordered.mpr straight
    have difference : (imms.setWidth 32 - immr.setWidth 32).toNat = imms.toNat - immr.toNat := by
      rw [BitVec.toNat_sub_of_le apart, immrNat, immsNat]
    have fits : (imms.setWidth 32 - immr.setWidth 32).toNat + (1#32).toNat < 2 ^ 32 := by omega
    have width := BitVec.toNat_add_of_lt fits
    rw [difference, one] at width
    rw [bitfield, if_pos apart, sub_eq apart, ok_bind, add_eq fits, ok_bind,
      bitfieldDown_eq _ _ _ (by omega) (by omega), width, immrNat]
    exact congrArg Except.ok (congrArg (result sf) (if_pos straight).symm)
  · have size : (BitVec.ofNat 32 (dataSize sf)).toNat = dataSize sf := by cases sf <;> rfl
    have below : immr.setWidth 32 ≤ BitVec.ofNat 32 (dataSize sf) := by
      rw [BitVec.le_def, size, immrNat]
      exact Nat.le_of_lt rotation
    have pos := BitVec.toNat_sub_of_le below
    rw [size, immrNat] at pos
    have fits : (imms.setWidth 32).toNat + (1#32).toNat < 2 ^ 32 := by omega
    have width := BitVec.toNat_add_of_lt fits
    rw [immsNat, one] at width
    rw [bitfield, if_neg (mt ordered.mp straight), add_eq fits, ok_bind, sub_eq below, ok_bind,
      bitfieldUp_eq _ _ _ (by omega) (by omega) (by omega), width, pos]
    exact congrArg Except.ok (congrArg (result sf) (if_neg straight).symm)

end

/-- A rotation that is out of range leaves it no place to go. -/
example : bitfield false .ubfm 0 0 40#32 0#32 = .error .overflow := by rfl

/-- A 32-bit sum, taken on 64 bits. -/
def wideSum (x y : BitVec 32) (carryIn : Bool) : Except Trap (BitVec 64) := do
  add (← add (x.setWidth 64) (y.setWidth 64)) ((BitVec.ofBool carryIn).setWidth 64)

theorem wideSum_eq (x y : BitVec 32) (carryIn : Bool) :
    ∃ wide, wideSum x y carryIn = .ok wide ∧
      wide.toNat = x.toNat + y.toNat + carryIn.toNat := by
  have inX := x.isLt
  have inY := y.isLt
  have wideX : (x.setWidth 64).toNat = x.toNat := BitVec.toNat_setWidth_of_le (by decide)
  have wideY : (y.setWidth 64).toNat = y.toNat := BitVec.toNat_setWidth_of_le (by decide)
  have carry : ((BitVec.ofBool carryIn).setWidth 64).toNat = carryIn.toNat := by
    cases carryIn <;> rfl
  have one : carryIn.toNat ≤ 1 := Bool.toNat_le carryIn
  have first : (x.setWidth 64).toNat + (y.setWidth 64).toNat < 2 ^ 64 := by omega
  have sum := BitVec.toNat_add_of_lt first
  have second : (x.setWidth 64 + y.setWidth 64).toNat +
      ((BitVec.ofBool carryIn).setWidth 64).toNat < 2 ^ 64 := by omega
  refine ⟨_, by rw [wideSum, add_eq first, ok_bind, add_eq second], ?_⟩
  rw [BitVec.toNat_add_of_lt second, sum, wideX, wideY, carry]

/-- The sum modulo the width, and whether it left the range. -/
def overflowingAdd (x y : BitVec w) : BitVec w × Bool :=
  (x + y, x.uaddOverflow y)

/-- Of two sums in a row at most one leaves the range, just when the whole sum does. -/
theorem overflowingAdd_carry (x y : BitVec 64) (carryIn : Bool) :
    let first := overflowingAdd x y
    let second := overflowingAdd first.1 ((BitVec.ofBool carryIn).setWidth 64)
    second.1 = BitVec.ofNat 64 (x.toNat + y.toNat + carryIn.toNat) ∧
      (first.2 || second.2) = decide (2 ^ 64 ≤ x.toNat + y.toNat + carryIn.toNat) := by
  have inX := x.isLt
  have inY := y.isLt
  have one : carryIn.toNat ≤ 1 := Bool.toNat_le carryIn
  have carry : ((BitVec.ofBool carryIn).setWidth 64).toNat = carryIn.toNat := by
    cases carryIn <;> rfl
  dsimp only [overflowingAdd]
  constructor
  · apply BitVec.eq_of_toNat_eq
    rw [BitVec.toNat_add, BitVec.toNat_add, carry, BitVec.toNat_ofNat, Nat.mod_add_mod]
  · rw [BitVec.uaddOverflow, BitVec.uaddOverflow, BitVec.toNat_add, carry, Bool.eq_iff_iff,
      Bool.or_eq_true, decide_eq_true_iff, decide_eq_true_iff, decide_eq_true_iff]
    omega

/-- Sum of two words and a carry, with the flags it sets. -/
def addWithCarry (sf : Bool) (x y : UInt64) (carryIn : Bool) : Except Trap (UInt64 × Flags) :=
  if sf then
    let x := x.toBitVec
    let y := y.toBitVec
    let first := overflowingAdd x y
    let second := overflowingAdd first.1 ((BitVec.ofBool carryIn).setWidth 64)
    let sum := second.1
    pure (UInt64.ofBitVec sum,
      { negative := sum.msb
        zero := sum == 0
        carry := first.2 || second.2
        overflow := ((x ^^^ sum) &&& (y ^^^ sum)).msb })
  else do
    let x := x.toBitVec.setWidth 32
    let y := y.toBitVec.setWidth 32
    let wide ← wideSum x y carryIn
    let sum := wide.setWidth 32
    pure (UInt64.ofBitVec (sum.setWidth 64),
      { negative := sum.msb
        zero := sum == 0
        carry := 0xFFFFFFFF#64 < wide
        overflow := ((x ^^^ sum) &&& (y ^^^ sum)).msb })

def addSub (sf sub : Bool) (x y : UInt64) : Except Trap (UInt64 × Flags) :=
  if sub then addWithCarry sf x (~~~y) true else addWithCarry sf x y false

theorem addWithCarry_eq (sf : Bool) (x y : UInt64) (carryIn : Bool) :
    addWithCarry sf x y carryIn =
      (let (sum, flags) := A64.addWithCarry (operand sf x) (operand sf y) carryIn
      .ok (result sf sum, flags)) := by
  cases sf with
  | true =>
      obtain ⟨sum, carry⟩ := overflowingAdd_carry x.toBitVec y.toBitVec carryIn
      rw [addWithCarry, if_pos rfl, operand_true, operand_true]
      dsimp only
      rw [sum, carry]
      exact congrArg Except.ok (Prod.ext (result_true _).symm rfl)
  | false =>
      obtain ⟨wide, checked, total⟩ :=
        wideSum_eq (x.toBitVec.setWidth 32) (y.toBitVec.setWidth 32) carryIn
      have low : wide.setWidth 32 = BitVec.ofNat 32 ((x.toBitVec.setWidth 32).toNat +
          (y.toBitVec.setWidth 32).toNat + carryIn.toNat) := by
        apply BitVec.eq_of_toNat_eq
        rw [BitVec.toNat_setWidth, total, BitVec.toNat_ofNat]
      -- The wide sum is exact, so it passes the largest word just when there is a carry.
      have carry : 0xFFFFFFFF#64 < wide ↔ 2 ^ 32 ≤ (x.toBitVec.setWidth 32).toNat +
          (y.toBitVec.setWidth 32).toNat + carryIn.toNat := by
        rw [BitVec.lt_def, total]
        exact Iff.rfl
      simp only [addWithCarry, Bool.false_eq_true, if_false, checked, ok_bind]
      rw [A64.addWithCarry, low]
      simp only [carry]
      rfl

theorem addSub_eq (sf sub : Bool) (x y : UInt64) :
    addSub sf sub x y =
      (let (sum, flags) := A64.addSub sub (operand sf x) (operand sf y)
      .ok (result sf sum, flags)) := by
  cases sub with
  | true => simp only [addSub, A64.addSub, addWithCarry_eq, operand_not, if_true]
  | false => exact addWithCarry_eq sf x y false

def shiftWord (shift : ShiftType) (value : BitVec w) (amount : BitVec 32) :
    Except Trap (BitVec w) :=
  match shift with
  | .lsl => shiftLeft value amount.toNat
  | .lsr => shiftRight value amount.toNat
  | .asr => sshiftRight value amount.toNat
  | .ror => pure (value.rotateRight amount.toNat)

/-- Shift by the low bits of `amount`. -/
def shiftValue (sf : Bool) (shift : ShiftType) (value : UInt64) (amount : BitVec 32) :
    Except Trap UInt64 :=
  if sf then do
    pure (UInt64.ofBitVec (← shiftWord shift value.toBitVec (amount &&& 63#32)))
  else do
    pure (UInt64.ofBitVec
      ((← shiftWord shift (value.toBitVec.setWidth 32) (amount &&& 31#32)).setWidth 64))

theorem shiftWord_eq {shift : ShiftType} {value : BitVec w} {amount mask : BitVec 32} (some : 0 < w)
    (low : (amount &&& mask).toNat = amount.toNat % w) :
    shiftWord shift value (amount &&& mask) = .ok (A64.shiftValue shift value amount.toNat) := by
  have short : amount.toNat % w < w := Nat.mod_lt _ some
  cases shift with
  | lsl => rw [shiftWord, low, shiftLeft_eq short]; rfl
  | lsr => rw [shiftWord, low, shiftRight_eq short]; rfl
  | asr => rw [shiftWord, low, sshiftRight_eq short]; rfl
  | ror => rw [shiftWord, low]; rfl

theorem shiftValue_eq (sf : Bool) (shift : ShiftType) (value : UInt64) (amount : BitVec 32) :
    shiftValue sf shift value amount =
      .ok (result sf (A64.shiftValue shift (operand sf value) amount.toNat)) := by
  cases sf with
  | true =>
      have low : (amount &&& 63#32).toNat = amount.toNat % 64 :=
        Nat.and_two_pow_sub_one_eq_mod amount.toNat 6
      rw [shiftValue, if_pos rfl, shiftWord_eq (by decide) low, operand_true]
      exact congrArg Except.ok (result_true _).symm
  | false =>
      have low : (amount &&& 31#32).toNat = amount.toNat % 32 :=
        Nat.and_two_pow_sub_one_eq_mod amount.toNat 5
      rw [shiftValue, if_neg Bool.false_ne_true, shiftWord_eq (by decide) low]
      rfl

/-- A bitwise operation on whole registers, and the flags that it sets. -/
def logical (sf : Bool) (op : LogicalOp) (a b : UInt64) : UInt64 × Option Flags :=
  let value := truncate sf <|
    match op with
    | .and | .ands => a.toBitVec &&& b.toBitVec
    | .orr => a.toBitVec ||| b.toBitVec
    | .eor => a.toBitVec ^^^ b.toBitVec
  let top := if sf then value.toBitVec >>> 63 else value.toBitVec >>> 31
  (value,
    if op = .ands then
      some { negative := top != 0, zero := value == 0, carry := false, overflow := false }
    else none)

theorem result_eq_zero_iff (sf : Bool) (value : BitVec (dataSize sf)) :
    result sf value = 0 ↔ value = 0 := by
  constructor
  · intro zero
    rw [← operand_result sf value, zero, operand]
    exact BitVec.setWidth_zero ..
  · rintro rfl
    exact congrArg UInt64.ofBitVec (BitVec.setWidth_zero ..)

theorem truncate_beq_zero (sf : Bool) (value : UInt64) :
    (truncate sf value.toBitVec == 0) = (operand sf value == 0) := by
  rw [truncate_eq, Bool.eq_iff_iff, beq_iff_eq, beq_iff_eq, result_eq_zero_iff, operand]

/-- What is shifted down to the lowest bit is the top bit of the form. -/
theorem top_result (sf : Bool) (value : BitVec (dataSize sf)) :
    ((if sf then (result sf value).toBitVec >>> 63 else (result sf value).toBitVec >>> 31) != 0) =
      value.msb := by
  have inside := value.isLt
  have narrow := dataSize_le sf
  have whole : (result sf value).toBitVec.toNat = value.toNat :=
    BitVec.toNat_setWidth_of_le narrow
  rw [BitVec.msb_eq_decide, Bool.eq_iff_iff, bne_iff_ne, decide_eq_true_iff, ← whole]
  rw [← whole] at inside
  cases sf with
  | true =>
      rw [if_pos rfl, ne_eq, ← BitVec.toNat_inj, BitVec.toNat_ushiftRight, Nat.shiftRight_eq_div_pow]
      change ¬ _ / 2 ^ 63 = 0 ↔ 2 ^ 63 ≤ _
      omega
  | false =>
      rw [if_neg Bool.false_ne_true, ne_eq, ← BitVec.toNat_inj, BitVec.toNat_ushiftRight,
        Nat.shiftRight_eq_div_pow]
      change ¬ _ / 2 ^ 31 = 0 ↔ 2 ^ 31 ≤ _
      omega

theorem logical_eq (sf : Bool) (op : LogicalOp) (a b : UInt64) :
    logical sf op a b =
      (let (value, flags) := A64.logical op (operand sf a) (operand sf b)
      (result sf value, flags)) := by
  cases op with
  | and => simp only [logical, truncate_eq, BitVec.setWidth_and]; rfl
  | orr => simp only [logical, truncate_eq, BitVec.setWidth_or]; rfl
  | eor => simp only [logical, truncate_eq, BitVec.setWidth_xor]; rfl
  | ands =>
      have value : truncate sf (a.toBitVec &&& b.toBitVec) =
          result sf (operand sf a &&& operand sf b) :=
        (truncate_eq sf _).trans (congrArg (result sf) (BitVec.setWidth_and ..))
      have zero : (result sf (operand sf a &&& operand sf b) == 0) =
          (operand sf a &&& operand sf b == 0) := by
        rw [Bool.eq_iff_iff, beq_iff_eq, beq_iff_eq, result_eq_zero_iff]
      simp only [logical, if_true, value, top_result, zero]
      rfl

/-- Division where a quotient by zero is zero. -/
def divideWord (signed : Bool) (a b : BitVec w) : Except Trap (BitVec w) :=
  if b = 0#w then pure 0#w else quotient signed a b

def divide (sf signed : Bool) (a b : UInt64) : Except Trap UInt64 :=
  if sf then do
    pure (UInt64.ofBitVec (← divideWord signed a.toBitVec b.toBitVec))
  else do
    let quotient ← divideWord signed (a.toBitVec.setWidth 32) (b.toBitVec.setWidth 32)
    pure (UInt64.ofBitVec (quotient.setWidth 64))

theorem divideWord_eq (signed : Bool) (a b : BitVec w) :
    divideWord signed a b = .ok (if signed then a.sdiv b else a / b) := by
  unfold divideWord
  split
  · rename_i zero
    cases signed <;> simp [zero, pure, Except.pure]
  · rename_i nonzero
    exact quotient_eq nonzero

theorem divide_eq (sf signed : Bool) (a b : UInt64) :
    divide sf signed a b =
      .ok (result sf (if signed then (operand sf a).sdiv (operand sf b)
        else operand sf a / operand sf b)) := by
  cases sf with
  | true =>
      rw [divide, if_pos rfl, divideWord_eq, operand_true, operand_true]
      exact congrArg Except.ok (result_true _).symm
  | false =>
      rw [divide, if_neg Bool.false_ne_true, divideWord_eq]
      rfl

def dataProc2 (sf : Bool) (op : DataProc2Op) (a b : UInt64) : Except Trap UInt64 :=
  match op with
  | .udiv => divide sf false a b
  | .sdiv => divide sf true a b
  | .lslv => shiftValue sf .lsl a (b.toBitVec.setWidth 32)
  | .lsrv => shiftValue sf .lsr a (b.toBitVec.setWidth 32)
  | .asrv => shiftValue sf .asr a (b.toBitVec.setWidth 32)
  | .rorv => shiftValue sf .ror a (b.toBitVec.setWidth 32)

/-- The low half of a register is enough for the amount. -/
theorem shiftValue_low (sf : Bool) (shift : ShiftType) (value : BitVec (dataSize sf)) (b : UInt64) :
    A64.shiftValue shift value (b.toBitVec.setWidth 32).toNat =
      A64.shiftValue shift value (operand sf b).toNat := by
  have amount :
      (b.toBitVec.setWidth 32).toNat % dataSize sf = (operand sf b).toNat % dataSize sf := by
    cases sf <;> simp [operand, dataSize]
  simp only [A64.shiftValue, amount]

theorem dataProc2_eq (sf : Bool) (op : DataProc2Op) (a b : UInt64) :
    dataProc2 sf op a b = .ok (result sf (A64.dataProc2 op (operand sf a) (operand sf b))) := by
  cases op with
  | udiv => exact divide_eq sf false a b
  | sdiv => exact divide_eq sf true a b
  | _ => simp only [dataProc2, shiftValue_eq, shiftValue_low, A64.dataProc2]

def testBit (value : UInt64) (bit : BitVec 6) : Except Trap Bool := do
  pure ((← shiftRight value.toBitVec bit.toNat) &&& 1#64 != 0#64)

theorem testBit_eq (value : UInt64) (bit : BitVec 6) :
    testBit value bit = .ok (value.toBitVec.getLsbD bit.toNat) := by
  rw [testBit, shiftRight_eq bit.isLt, ok_bind, BitVec.and_one_eq_setWidth_ofBool_getLsbD,
    BitVec.getLsbD_ushiftRight, Nat.add_zero]
  cases value.toBitVec.getLsbD bit.toNat <;> rfl

/-- What was read with a width, sign-extended. -/
def signExtendRead (value : BitVec 64) (size : Nat) : Except Trap (BitVec 64) := do
  signExtend value (← shiftLeft 8#32 size)

theorem signExtendRead_eq {w : Width} (general : w ≠ .quad) (value : BitVec w.bits) :
    signExtendRead (value.setWidth 64) w.log2 = .ok (value.signExtend 64) := by
  have short : w.log2 < 32 := by cases w <;> decide
  have bits : (8#32 <<< w.log2).toNat = w.bits := by cases w <;> rfl
  have some : 0 < w.bits := by cases w <;> decide
  have most : w.bits ≤ 64 := by
    revert general
    cases w <;> decide
  rw [signExtendRead, shiftLeft_eq short, ok_bind, signExtend_eq (by omega) (by omega), bits]
  congr 1
  apply BitVec.eq_of_getLsbD_eq
  intro i inside
  rw [getLsbD_signExtendLow inside some most, BitVec.getLsbD_setWidth, BitVec.getLsbD_signExtend,
    BitVec.msb_eq_getLsbD_last]
  grind

/-- The address of the second access of a pair. -/
def secondAddress (addr : Address) (size : Nat) : Except Trap Address := do
  pure (addr + UInt64.ofBitVec (← shiftLeft 1#64 size))

theorem secondAddress_eq (addr : Address) (w : Width) :
    secondAddress addr w.log2 = .ok (addr + w.size) := by
  cases w <;> rfl

end Checked
end GuestMachine.A64
