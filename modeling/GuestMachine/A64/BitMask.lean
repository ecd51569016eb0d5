import GuestMachine.Basic

/-! # Logical immediates

The bitmask immediates of the logical instructions: a run of ones, rotated
inside an element of 2, 4, 8, 16, 32 or 64 bits, and the element repeated over
the register.
-/

namespace GuestMachine.A64

/-- Base-two logarithm of the element size: the position of the highest set
    bit of N followed by the inverted imms. -/
def elementLog2? (n : Bool) (imms : BitVec 6) : Option Nat :=
  let combined := (BitVec.ofBool n ++ ~~~imms).toNat
  if combined ≤ 1 then none else some combined.log2

/-- `count` copies of the low `size` bits of `element`, side by side. -/
def replicateElement (element size : Nat) : (count : Nat) → Nat
  | 0 => 0
  | count + 1 => replicateElement element size count * 2 ^ size + element

/-- The immediate that N, imms and immr stand for, zero-extended to 64 bits.
    A run that would fill its element is reserved, as are elements of one bit
    and 64-bit elements in a 32-bit register. -/
def decodeBitMasks? (sf n : Bool) (imms immr : BitVec 6) : Option UInt64 :=
  if n && !sf then none
  else match elementLog2? n imms with
    | none => none
    | some len =>
        let size := 2 ^ len
        let ones := imms.toNat % size
        let rotation := immr.toNat % size
        if ones = size - 1 then none
        else
          let run := 2 ^ (ones + 1) - 1
          let element := (run >>> rotation ||| run <<< (size - rotation)) % 2 ^ size
          let width := if sf then 64 else 32
          some (UInt64.ofNat (replicateElement element size (width / size)))

end GuestMachine.A64
