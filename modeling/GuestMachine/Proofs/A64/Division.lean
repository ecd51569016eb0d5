import GuestMachine.Cpu.Trace
import GuestMachine.Proofs.A64.CheckedArithmetic
import GuestMachine.Proofs.A64.RegisterPlaces
import GuestMachine.Proofs.A64.RegisterWrites

/-! # Division and remainder

There is no instruction for remainders. Guest code divides, and then subtracts the
product of quotient and divisor from the dividend. What that leaves is the remainder,
for signed and unsigned numbers of both widths, also where the quotient is out of
range, and by zero it leaves the dividend.
-/

namespace GuestMachine.A64

open Translator
open Checked (dataSize_le operand_result)

def DataProc2Op.division (signed : Bool) : DataProc2Op :=
  if signed then .sdiv else .udiv

/-- The quotient of two words as numbers, rounded toward zero and cut off at their
    width. By zero it is zero. -/
def quotient (signed : Bool) (a b : BitVec w) : BitVec w :=
  if b = 0#w then 0#w
  else if signed then BitVec.ofInt w (a.toInt.tdiv b.toInt)
  else BitVec.ofNat w (a.toNat / b.toNat)

/-- The remainder stays below the divisor. Signed numbers are compared without their
    signs, and the remainder has that of the dividend, unless it is zero. -/
def IsRemainder (signed : Bool) (a b r : BitVec w) : Prop :=
  if signed then
    r.toInt.natAbs < b.toInt.natAbs ∧ (r.toInt = 0 ∨ r.toInt.sign = a.toInt.sign)
  else r.toNat < b.toNat

section

variable {a b : BitVec w}

theorem dataProc2_division (signed : Bool) (a b : BitVec w) :
    dataProc2 (.division signed) a b = quotient signed a b := by
  unfold quotient
  split
  · rename_i zero
    cases signed with
    | true => simp [DataProc2Op.division, dataProc2, zero]
    | false => simp [DataProc2Op.division, dataProc2, zero]
  · cases signed with
    | true =>
        apply BitVec.eq_of_toInt_eq
        exact (BitVec.toInt_sdiv a b).trans (BitVec.toInt_ofInt _).symm
    | false =>
        apply BitVec.eq_of_toNat_eq
        have small : a.toNat / b.toNat < 2 ^ w := Nat.lt_of_le_of_lt (Nat.div_le_self _ _) a.isLt
        exact (BitVec.toNat_udiv (x := a) (y := b)).trans
          ((BitVec.toNat_ofNat _ _).trans (Nat.mod_eq_of_lt small)).symm

/-- The one quotient that is out of range. -/
theorem quotient_intMin (w : Nat) :
    quotient true (BitVec.intMin w) (-1#w) = BitVec.intMin w := by
  rw [← dataProc2_division]
  exact BitVec.intMin_sdiv_neg_one

/-- What is left of the dividend, whether or not the quotient was cut off. -/
theorem sub_quotient_mul (signed : Bool) (nonzero : b ≠ 0#w) :
    a - quotient signed a b * b = if signed then a.srem b else a % b := by
  rw [quotient, if_neg nonzero]
  cases signed with
  | true =>
      have whole : a.toInt.tmod b.toInt + a.toInt.tdiv b.toInt * b.toInt = a.toInt := by
        rw [Int.mul_comm]
        exact Int.tmod_add_mul_tdiv ..
      have words := congrArg (BitVec.ofInt w) whole
      rw [BitVec.ofInt_add, BitVec.ofInt_mul, BitVec.ofInt_toInt, BitVec.ofInt_toInt,
        ← BitVec.toInt_srem, BitVec.ofInt_toInt] at words
      exact BitVec.sub_eq_iff_eq_add.mpr words.symm
  | false =>
      have whole : a.toNat % b.toNat + a.toNat / b.toNat * b.toNat = a.toNat := by
        rw [Nat.mul_comm]
        exact Nat.mod_add_div ..
      have words := congrArg (BitVec.ofNat w) whole
      rw [BitVec.ofNat_add, BitVec.ofNat_mul, ← BitVec.toNat_umod, BitVec.ofNat_toNat,
        BitVec.ofNat_toNat, BitVec.ofNat_toNat, BitVec.setWidth_eq, BitVec.setWidth_eq,
        BitVec.setWidth_eq] at words
      exact BitVec.sub_eq_iff_eq_add.mpr words.symm

theorem isRemainder_sub (signed : Bool) (nonzero : b ≠ 0#w) :
    IsRemainder signed a b (a - quotient signed a b * b) := by
  rw [sub_quotient_mul signed nonzero]
  cases signed with
  | true =>
      have divisor : b.toInt ≠ 0 := fun zero =>
        nonzero (BitVec.eq_of_toInt_eq (zero.trans BitVec.toInt_zero.symm))
      refine ⟨?_, ?_⟩
      · simp only [if_true, BitVec.toInt_srem, Int.natAbs_tmod]
        exact Nat.mod_lt _ (Int.natAbs_pos.mpr divisor)
      · simp only [if_true, BitVec.toInt_srem]
        by_cases even : b.toInt ∣ a.toInt
        · exact .inl (Int.tmod_eq_zero_of_dvd even)
        · exact .inr ((Int.sign_tmod ..).trans (if_neg even))
  | false =>
      have divisor : b.toNat ≠ 0 := fun zero => nonzero (BitVec.eq_of_toNat_eq zero)
      change (a % b).toNat < b.toNat
      rw [BitVec.toNat_umod]
      exact Nat.mod_lt _ (Nat.pos_of_ne_zero divisor)

end

/-- The low half of a difference comes from low halves. -/
theorem operand_sub_mul (sf : Bool) (x y z : UInt64) :
    operand sf (x - y * z) = operand sf x - operand sf y * operand sf z := by
  have narrow := dataSize_le sf
  simp only [operand, UInt64.toBitVec_sub, UInt64.toBitVec_mul, BitVec.sub_eq_add_neg]
  rw [BitVec.setWidth_add _ _ narrow, BitVec.setWidth_neg_of_le narrow,
    BitVec.setWidth_mul _ _ narrow]

section

variable (env : Environment σ) (cntfrq : UInt64) (pc : Address)

theorem execute_division (sf signed : Bool) (rd rn rm : RegNum) (cpu : Cpu σ) :
    let regs := cpu.context.registers
    execute env cntfrq pc (.dataProc2 sf (.division signed) rd rn rm) cpu =
      .ok .next (cpu.withRegisters fun _ => regs.setXzr rd
        (result sf (quotient signed (operand sf (regs.xzr rn)) (operand sf (regs.xzr rm))))) := by
  simp only [← dataProc2_division]
  rfl

/-- One instruction that computes, at the front of a block. -/
theorem runInstructions_compute (instruction : Instruction) {f : RegisterFile → RegisterFile}
    (computes : execute env cntfrq pc instruction = compute f)
    (blind : ∀ (regs : RegisterFile) pc, f { regs with pc } = { f regs with pc })
    (rest : List Instruction) (cpu : Cpu σ) (before : Address) :
    runInstructions env cntfrq pc (instruction :: rest) (cpu.setPc before) =
      runInstructions env cntfrq (pc + 4) rest ((cpu.withRegisters f).setPc (pc + 4)) := by
  have executed : execute env cntfrq pc instruction (cpu.setPc (pc + 4)) =
      .ok .next ((cpu.withRegisters f).setPc (pc + 4)) := by
    have same := blind cpu.context.registers (pc + 4)
    rw [computes]
    change EStateM.Result.ok Flow.next ((cpu.setPc (pc + 4)).withRegisters f) = _
    simp only [Cpu.withRegisters, Cpu.setPc, same]
  have again : (cpu.setPc before).setPc (pc + 4) = cpu.setPc (pc + 4) := rfl
  rw [runInstructions, again, executed]

theorem setXzr_setPc (n : RegNum) (value : UInt64) (regs : RegisterFile) (pc : Address) :
    { regs with pc }.setXzr n value = { regs.setXzr n value with pc } := by
  unfold RegisterFile.setXzr
  split <;> rfl

/-- The registers after both instructions, where the second still finds the operands of
    the first. -/
theorem mulAdd_dataProc2 (regs : RegisterFile) {sf : Bool} {rd rn rm ra rb : RegNum}
    (signed : Bool) (rt : RegNum) (general : rd ≠ 31) (apartA : ra ≠ rd) (apartB : rb ≠ rd)
    (dividend : operand sf (regs.xzr ra) = operand sf (regs.xzr rn))
    (divisor : operand sf (regs.xzr rb) = operand sf (regs.xzr rm)) :
    let q := quotient signed (operand sf (regs.xzr rn)) (operand sf (regs.xzr rm))
    Compute.mulAdd (Compute.dataProc2 regs sf (.division signed) rd rn rm) sf true rt rd rb ra =
      (regs.setXzr rd (result sf q)).setXzr rt
        (result sf (operand sf (regs.xzr rn) - q * operand sf (regs.xzr rm))) := by
  intro q
  have number : rd.toNat < 31 := by
    have below : rd.toNat < 32 := rd.isLt
    have other : rd.toNat ≠ 31 := fun last => general (BitVec.eq_of_toNat_eq last)
    omega
  have heldQ : (regs.setXzr rd (result sf q)).xzr rd = result sf q := by
    rw [RegisterFile.xzr_setXzr, if_pos ⟨rfl, number⟩]
  have heldA : (regs.setXzr rd (result sf q)).xzr ra = regs.xzr ra := by
    rw [RegisterFile.xzr_setXzr, if_neg fun both => apartA both.1.symm]
  have heldB : (regs.setXzr rd (result sf q)).xzr rb = regs.xzr rb := by
    rw [RegisterFile.xzr_setXzr, if_neg fun both => apartB both.1.symm]
  simp only [Compute.mulAdd, Compute.dataProc2, dataProc2_division, mulAdd, if_true]
  rw [heldA, heldB, heldQ, dividend, divisor, operand_result]

theorem runInstructions_division (sf signed : Bool) (rd rn rm rt ra rb : RegNum) (cpu : Cpu σ) :
    runInstructions env cntfrq pc
        [.dataProc2 sf (.division signed) rd rn rm, .mulAdd sf true rt rd rb ra] cpu =
      (.left, (cpu.withRegisters fun _ => Compute.mulAdd
        (Compute.dataProc2 cpu.context.registers sf (.division signed) rd rn rm)
          sf true rt rd rb ra).setPc (pc + 8)) := by
  have next : pc + 4 + 4 = pc + 8 := UInt64.add_assoc pc 4 4
  have divides := runInstructions_compute env cntfrq pc
    (.dataProc2 sf (.division signed) rd rn rm) rfl
    (fun regs pc => setXzr_setPc rd _ regs pc) [.mulAdd sf true rt rd rb ra] cpu cpu.pc
  have subtracts := runInstructions_compute env cntfrq (pc + 4) (.mulAdd sf true rt rd rb ra) rfl
    (fun regs pc => setXzr_setPc rt _ regs pc) []
    (cpu.withRegisters fun regs => Compute.dataProc2 regs sf (.division signed) rd rn rm) (pc + 4)
  exact divides.trans (next ▸ subtracts)

/-- A division by `rm` leaves the quotient of the words that the form sees of `rn` and
    `rm`, or zero if it is by zero. When `rd` then is multiplied with a register that
    still holds the divisor, and the product subtracted from one that still holds the
    dividend, the difference is the remainder, and all of the dividend if the division
    was by zero. The difference may as well be taken of the whole registers, and be cut
    off at the end. -/
theorem division_leaves_remainder (sf signed : Bool) (rd rn rm : RegNum) (cpu : Cpu σ) :
    let regs := cpu.context.registers
    let a := operand sf (regs.xzr rn)
    let b := operand sf (regs.xzr rm)
    let q := quotient signed a b
    execute env cntfrq pc (.dataProc2 sf (.division signed) rd rn rm) cpu =
        .ok .next (cpu.withRegisters fun _ => regs.setXzr rd (result sf q)) ∧
      (signed → a = BitVec.intMin _ → b = -1#_ → q = a) ∧
      ∀ rt ra rb, rd ≠ 31 → ra ≠ rd → rb ≠ rd →
        operand sf (regs.xzr ra) = a → operand sf (regs.xzr rb) = b →
        ∃ r,
          runInstructions env cntfrq pc
              [.dataProc2 sf (.division signed) rd rn rm, .mulAdd sf true rt rd rb ra] cpu =
            (.left, (cpu.withRegisters fun _ =>
              (regs.setXzr rd (result sf q)).setXzr rt (result sf r)).setPc (pc + 8)) ∧
          r = operand sf (regs.xzr ra - result sf q * regs.xzr rb) ∧
          a = q * b + r ∧
          (b = 0 → q = 0 ∧ r = a) ∧
          (b ≠ 0 → IsRemainder signed a b r) := by
  intro regs a b q
  refine ⟨execute_division env cntfrq pc sf signed rd rn rm cpu, ?_, ?_⟩
  · intro isSigned least minusOne
    simp only [q, isSigned, least, minusOne]
    exact quotient_intMin _
  · intro rt ra rb general apartA apartB dividend divisor
    have whole : operand sf (regs.xzr ra - result sf q * regs.xzr rb) = a - q * b := by
      rw [operand_sub_mul, dividend, divisor, operand_result]
    refine ⟨a - q * b, ?_, whole.symm, ?_, ?_, isRemainder_sub signed⟩
    · rw [runInstructions_division,
        mulAdd_dataProc2 regs signed rt general apartA apartB dividend divisor]
    · rw [BitVec.add_comm]
      exact (BitVec.sub_add_cancel a (q * b)).symm
    · intro zero
      have none : q = 0 := if_pos zero
      exact ⟨none, by simp [none]⟩

end

/-- W0 holds -7 and W1 holds 2, both below upper halves that no division of words may
    see. -/
def dividedWords : RegisterFile :=
  (RegisterFile.setXzr {} 0 0x12345678FFFFFFF9).setXzr 1 0xFFFFFFFF00000002

/-- `sdiv w2, w0, w1` and `msub w3, w2, w1, w0` leave -3 and -1. -/
theorem minus_seven_by_two_leaves_minus_one :
    let env := Tracer.environment { boundaryLimit := 1 }
    let cpu : Cpu Tracer := { context.registers := dividedWords, env := {} }
    runInstructions env 0 0x1000 [decode 0x1AC10C02, decode 0x1B018043] cpu =
        (.left, (cpu.withRegisters fun regs =>
          (regs.setXzr 2 0xFFFFFFFD).setXzr 3 0xFFFFFFFF).setPc 0x1008) ∧
      IsRemainder true (-7#32) 2#32 (-1#32) := by
  intro env cpu
  have divide : decode 0x1AC10C02 = .dataProc2 false .sdiv 2 0 1 := by decide +kernel
  have multiply : decode 0x1B018043 = .mulAdd false true 3 2 1 0 := by decide +kernel
  have dividend : operand false (dividedWords.xzr 0) = -7#_ := by decide +kernel
  have divisor : operand false (dividedWords.xzr 1) = 2#_ := by decide +kernel
  have divided : quotient true (-7#(dataSize false)) 2#_ = -3#_ := by decide +kernel
  obtain ⟨-, -, remains⟩ := division_leaves_remainder env 0 0x1000 false true 2 0 1 cpu
  simp only [cpu, dividend, divisor, divided] at remains
  obtain ⟨r, ran, left, -, -, remainder⟩ :=
    remains 3 0 1 (by decide) (by decide) (by decide) dividend divisor
  have minusOne : r = -1#_ := left.trans (by decide +kernel)
  subst minusOne
  rw [divide, multiply]
  exact ⟨ran, remainder (by decide +kernel)⟩

end GuestMachine.A64
