import GuestMachine.Basic

/-! # Access widths

The five sizes of a single guest access, and the little-endian bytes of a
value of each size.
-/

namespace GuestMachine

/-- How much a single access moves. -/
inductive Width where
  /-- 8 bits. -/
  | byte
  /-- 16 bits. -/
  | half
  /-- 32 bits. -/
  | word
  /-- 64 bits. -/
  | double
  /-- 128 bits. -/
  | quad
  deriving Repr, DecidableEq

namespace Width

/-- Base-two logarithm of the size in bytes. -/
def log2 : Width → Nat
  | byte => 0
  | half => 1
  | word => 2
  | double => 3
  | quad => 4

/-- Size in bytes. -/
def bytes (w : Width) : Nat := 2 ^ w.log2

/-- Size in bits. -/
def bits (w : Width) : Nat := 8 * w.bytes

/-- Size in bytes, as a guest number. -/
def size (w : Width) : UInt64 := UInt64.ofNat w.bytes

/-- The bytes of `value`, lowest first. -/
def toBytes (w : Width) (value : BitVec w.bits) : List UInt8 :=
  (List.range w.bytes).map fun i => UInt8.ofBitVec (value.extractLsb' (8 * i) 8)

/-- The value whose bytes, lowest first, are `data`. -/
def ofBytes (w : Width) (data : List UInt8) : BitVec w.bits :=
  data.foldr (fun b rest => (rest <<< 8) ||| b.toBitVec.setWidth w.bits) 0

@[simp] theorem length_toBytes (w : Width) (value : BitVec w.bits) :
    (w.toBytes value).length = w.bytes := by
  simp [toBytes]

end Width

end GuestMachine
