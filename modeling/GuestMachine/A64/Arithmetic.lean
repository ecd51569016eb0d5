import GuestMachine.A64.Instruction

/-! # Arithmetic of the data-processing instructions

Each operation is stated once for bit vectors of any width; instructions use
it at 32 or 64 bits. A 32-bit form sees the low half of its operands and
clears the upper half of its result.
-/

namespace GuestMachine.A64

structure Flags where
  negative : Bool
  zero : Bool
  carry : Bool
  overflow : Bool
  deriving Repr, DecidableEq

namespace Flags

/-- Flags in bits 31 to 28, all else zero. -/
def toWord (flags : Flags) : UInt32 :=
  UInt32.ofBitVec
    (BitVec.ofBool flags.negative ++ BitVec.ofBool flags.zero ++ BitVec.ofBool flags.carry
      ++ BitVec.ofBool flags.overflow ++ 0#28)

def ofWord (word : UInt32) : Flags where
  negative := word.toBitVec.getLsbD 31
  zero := word.toBitVec.getLsbD 30
  carry := word.toBitVec.getLsbD 29
  overflow := word.toBitVec.getLsbD 28

/-- Whether a four-bit condition code holds. Codes come in pairs, the odd one
    being the negation of the even one, but both of the last pair always hold. -/
def satisfy (flags : Flags) (cond : BitVec 4) : Bool :=
  let base :=
    match (cond.extractLsb' 1 3).toNat with
    | 0 => flags.zero
    | 1 => flags.carry
    | 2 => flags.negative
    | 3 => flags.overflow
    | 4 => flags.carry && !flags.zero
    | 5 => flags.negative == flags.overflow
    | 6 => flags.negative == flags.overflow && !flags.zero
    | _ => true
  if cond.getLsbD 0 && cond != 0b1111#4 then !base else base

end Flags

def dataSize (sf : Bool) : Nat :=
  if sf then 64 else 32

/-- What a form sees of a register. -/
def operand (sf : Bool) (value : UInt64) : BitVec (dataSize sf) :=
  value.toBitVec.setWidth (dataSize sf)

/-- What a form leaves in a register. -/
def result (sf : Bool) (value : BitVec (dataSize sf)) : UInt64 :=
  UInt64.ofBitVec (value.setWidth 64)

/-- Sum of two words and a carry, with the flags it sets. -/
def addWithCarry (x y : BitVec w) (carryIn : Bool) : BitVec w × Flags :=
  let total := x.toNat + y.toNat + carryIn.toNat
  let sum := BitVec.ofNat w total
  (sum,
    { negative := sum.msb
      zero := sum == 0
      carry := 2 ^ w ≤ total
      overflow := ((x ^^^ sum) &&& (y ^^^ sum)).msb })

/-- `x + y`, or `x - y` as the sum of `x`, the inverse of `y` and one. -/
def addSub (sub : Bool) (x y : BitVec w) : BitVec w × Flags :=
  if sub then addWithCarry x (~~~y) true else addWithCarry x y false

/-- Shift by `amount` modulo the width. -/
def shiftValue (shift : ShiftType) (value : BitVec w) (amount : Nat) : BitVec w :=
  let amount := amount % w
  match shift with
  | .lsl => value <<< amount
  | .lsr => value >>> amount
  | .asr => value.sshiftRight amount
  | .ror => value.rotateRight amount

/-- The `count` lowest bits set. -/
def ones (w count : Nat) : BitVec w :=
  BitVec.ofNat w (2 ^ count - 1)

/-- The low `count` bits of `value`, sign-extended. -/
def signExtendLow (value : BitVec w) (count : Nat) : BitVec w :=
  (value <<< (w - count)).sshiftRight (w - count)

/-- Move bits `immr` to `imms` of the source to the bottom, or its bits up to
    `imms` to bit `w - immr` when the field wraps. -/
def bitfieldMove (op : BitfieldOp) (target source : BitVec w) (immr imms : Nat) : BitVec w :=
  if immr ≤ imms then
    let count := imms - immr + 1
    let field := (source >>> immr) &&& ones w count
    match op with
    | .ubfm => field
    | .sbfm => signExtendLow field count
    | .bfm => (target &&& ~~~(ones w count)) ||| field
  else
    let count := imms + 1
    let pos := w - immr
    let field := source &&& ones w count
    match op with
    | .ubfm => field <<< pos
    | .sbfm => signExtendLow field count <<< pos
    | .bfm => (target &&& ~~~(ones w count <<< pos)) ||| field <<< pos

/-- The bitwise operation, and the flags of the one form that sets them. -/
def logical (op : LogicalOp) (a b : BitVec w) : BitVec w × Option Flags :=
  match op with
  | .and => (a &&& b, none)
  | .orr => (a ||| b, none)
  | .eor => (a ^^^ b, none)
  | .ands =>
      let value := a &&& b
      (value, some { negative := value.msb, zero := value == 0, carry := false, overflow := false })

/-- Division and variable shifts. A quotient by zero is zero, and the least
    signed number divided by minus one is itself. -/
def dataProc2 (op : DataProc2Op) (a b : BitVec w) : BitVec w :=
  match op with
  | .udiv => a / b
  | .sdiv => a.sdiv b
  | .lslv => shiftValue .lsl a b.toNat
  | .lsrv => shiftValue .lsr a b.toNat
  | .asrv => shiftValue .asr a b.toNat
  | .rorv => shiftValue .ror a b.toNat

/-- The second operand of a conditional select whose condition failed. -/
def condSelectElse (op : CondSelectOp) (b : BitVec w) : BitVec w :=
  match op with
  | .csel => b
  | .csinc => b + 1
  | .csinv => ~~~b
  | .csneg => -b

def mulAdd (sub : Bool) (a n m : BitVec w) : BitVec w :=
  if sub then a - n * m else a + n * m

/-- The value a wide move leaves in a register that held `old`. -/
def moveWide (op : MoveWideOp) (old : BitVec w) (imm16 : BitVec 16) (hw : Nat) : BitVec w :=
  let imm := imm16.setWidth w <<< (16 * hw)
  match op with
  | .movz => imm
  | .movn => ~~~imm
  | .movk => (old &&& ~~~((0xFFFF#16).setWidth w <<< (16 * hw))) ||| imm

end GuestMachine.A64
