import Mathlib.Data.Nat.Bitwise
import GuestMachine.A64.Arithmetic
import GuestMachine.A64.BitMask

/-! # Logical immediates, bit by bit

A logical immediate has a one in every place that falls into its run, counted
from the rotation and within the element. The fields that stand for it are
listed by the size of the element.
-/

namespace GuestMachine.A64

/-- N and imms, by the size of the element: the run has one more bit than the
    number given. -/
inductive MaskField where
  | of2 (run : BitVec 1)
  | of4 (run : BitVec 2)
  | of8 (run : BitVec 3)
  | of16 (run : BitVec 4)
  | of32 (run : BitVec 5)
  | of64 (run : BitVec 6)
  deriving Repr, DecidableEq

namespace MaskField

def n : MaskField → Bool
  | of64 _ => true
  | _ => false

def imms : MaskField → BitVec 6
  | of2 run => 0b11110#5 ++ run
  | of4 run => 0b1110#4 ++ run
  | of8 run => 0b110#3 ++ run
  | of16 run => 0b10#2 ++ run
  | of32 run => 0b0#1 ++ run
  | of64 run => run

/-- Base-two logarithm of the element size. -/
def log2 : MaskField → Nat
  | of2 _ => 1
  | of4 _ => 2
  | of8 _ => 3
  | of16 _ => 4
  | of32 _ => 5
  | of64 _ => 6

def run : MaskField → Nat
  | of2 run => run.toNat
  | of4 run => run.toNat
  | of8 run => run.toNat
  | of16 run => run.toNat
  | of32 run => run.toNat
  | of64 run => run.toNat

/-- The element fits a register of the form, and the run does not fill it. -/
structure Fits (mask : MaskField) (sf : Bool) : Prop where
  element : 2 ^ mask.log2 ≤ dataSize sf
  run : mask.run + 1 < 2 ^ mask.log2

/-- Bit `i` of the immediate. -/
def bit (mask : MaskField) (sf : Bool) (immr : BitVec 6) (i : Nat) : Bool :=
  i < dataSize sf && (i + immr.toNat) % 2 ^ mask.log2 ≤ mask.run

def immediate (mask : MaskField) (sf : Bool) (immr : BitVec 6) : UInt64 :=
  UInt64.ofNat (Nat.ofBits fun i : Fin 64 => mask.bit sf immr i)

theorem elementLog2?_eq (mask : MaskField) : elementLog2? mask.n mask.imms = some mask.log2 := by
  cases mask <;> decide +revert

theorem imms_mod (mask : MaskField) : mask.imms.toNat % 2 ^ mask.log2 = mask.run := by
  cases mask <;> decide +revert

end MaskField

theorem testBit_replicateElement {element size : Nat} (small : element < 2 ^ size) (count i : Nat) :
    (replicateElement element size count).testBit i =
      (decide (i < size * count) && element.testBit (i % size)) := by
  induction count generalizing i with
  | zero => simp [replicateElement]
  | succ count ih =>
      rw [replicateElement, Nat.mul_comm, Nat.testBit_two_pow_mul_add _ small, Nat.mul_succ]
      split
      · rename_i first
        have within : i < size * count + size := by omega
        rw [Nat.mod_eq_of_lt first, decide_eq_true within, Bool.true_and]
      · rename_i later
        have index : i - size < size * count ↔ i < size * count + size := by omega
        rw [ih, ← Nat.mod_eq_sub_mod (Nat.le_of_not_lt later), decide_eq_decide.mpr index]

/-- A run of ones, rotated right within an element. -/
theorem testBit_rotatedRun {run rotation size i : Nat} (within : i < size) (short : run < size)
    (turned : rotation < size) :
    (((2 ^ (run + 1) - 1) >>> rotation ||| (2 ^ (run + 1) - 1) <<< (size - rotation)) %
      2 ^ size).testBit i = decide ((i + rotation) % size ≤ run) := by
  simp only [Nat.testBit_mod_two_pow, Nat.testBit_or, Nat.testBit_shiftRight,
    Nat.testBit_shiftLeft, Nat.testBit_two_pow_sub_one]
  -- The bits that the rotation carries over the end of the element come from the left shift.
  by_cases wraps : i + rotation < size
  · rw [Nat.mod_eq_of_lt wraps]
    grind
  · have back : (i + rotation) % size = i + rotation - size := by
      rw [Nat.mod_eq_sub_mod (Nat.le_of_not_lt wraps), Nat.mod_eq_of_lt (by omega)]
    rw [back]
    grind

namespace MaskField

variable {mask : MaskField} {sf : Bool}

theorem Fits.dvd (fits : mask.Fits sf) : 2 ^ mask.log2 ∣ dataSize sf := by
  have power : dataSize sf = 2 ^ (if sf then 6 else 5) := by cases sf <;> rfl
  have element := fits.element
  rw [power] at element ⊢
  exact Nat.pow_dvd_pow 2 ((Nat.pow_le_pow_iff_right (by decide)).mp element)

theorem Fits.allowed (fits : mask.Fits sf) : (mask.n && !sf) = false := by
  cases mask with
  | of64 run =>
      cases sf with
      | true => rfl
      | false => exact absurd fits.element (by decide : ¬ 2 ^ 6 ≤ 32)
  | _ => rfl

theorem decodeBitMasks?_eq (fits : mask.Fits sf) (immr : BitVec 6) :
    decodeBitMasks? sf mask.n mask.imms immr = some (mask.immediate sf immr) := by
  have short := fits.run
  have proper : mask.run ≠ 2 ^ mask.log2 - 1 := by omega
  have places : 2 ^ mask.log2 * (dataSize sf / 2 ^ mask.log2) = dataSize sf :=
    Nat.mul_div_cancel' fits.dvd
  simp only [decodeBitMasks?, fits.allowed, mask.elementLog2?_eq, mask.imms_mod, if_neg proper,
    Bool.false_eq_true, if_false]
  rw [← dataSize, immediate]
  congr 2
  apply Nat.eq_of_testBit_eq
  intro i
  have element : i % 2 ^ mask.log2 < 2 ^ mask.log2 := Nat.mod_lt _ (Nat.two_pow_pos _)
  have turned : immr.toNat % 2 ^ mask.log2 < 2 ^ mask.log2 := Nat.mod_lt _ (Nat.two_pow_pos _)
  rw [testBit_replicateElement (Nat.mod_lt _ (Nat.two_pow_pos _)), places,
    testBit_rotatedRun element (by omega) turned, ← Nat.add_mod]
  -- The elements end with the register, so above bit 63 both sides are clear.
  by_cases low : i < 64
  · rw [Nat.testBit_ofBits_lt _ _ low]
    rfl
  · have high : ¬ i < dataSize sf := by
      cases sf <;> simp [dataSize] <;> omega
    rw [Nat.testBit_ofBits_ge _ _ (Nat.le_of_not_lt low), decide_eq_false high, Bool.false_and]

end MaskField

end GuestMachine.A64
