import GuestMachine.Cpu.Trace
import GuestMachine.Proofs.A64.RegisterWrites

/-! # Flags and conditions

A subtraction that sets the flags compares its operands: each condition code then
holds just if the operands are in the relation that its name says, at either
width. An addition that sets the flags reports on the sum. Both hold for an
immediate operand and for a register that is shifted first.
-/

namespace GuestMachine.A64

/-- The sixteen condition codes. -/
inductive Condition where
  | eq
  | ne
  /-- Unsigned, higher or same. -/
  | hs
  | lo
  /-- The difference is negative. -/
  | mi
  | pl
  /-- The signed difference overflows. -/
  | vs
  | vc
  | hi
  | ls
  /-- Signed, greater or equal. -/
  | ge
  | lt
  | gt
  | le
  | al
  | nv
  deriving Repr, DecidableEq

namespace Condition

def code : Condition → BitVec 4
  | eq => 0
  | ne => 1
  | hs => 2
  | lo => 3
  | mi => 4
  | pl => 5
  | vs => 6
  | vc => 7
  | hi => 8
  | ls => 9
  | ge => 10
  | lt => 11
  | gt => 12
  | le => 13
  | al => 14
  | nv => 15

end Condition

/-- When the condition holds, by the table of the architecture. -/
def Condition.holds (cond : Condition) (flags : Flags) : Bool :=
  match cond with
  | eq => flags.zero
  | ne => !flags.zero
  | hs => flags.carry
  | lo => !flags.carry
  | mi => flags.negative
  | pl => !flags.negative
  | vs => flags.overflow
  | vc => !flags.overflow
  | hi => flags.carry && !flags.zero
  | ls => !(flags.carry && !flags.zero)
  | ge => flags.negative == flags.overflow
  | lt => !(flags.negative == flags.overflow)
  | gt => flags.negative == flags.overflow && !flags.zero
  | le => !(flags.negative == flags.overflow && !flags.zero)
  | al | nv => true

/-- A signed number of `w` bits. -/
def InRange (w : Nat) (value : Int) : Prop :=
  -2 ^ (w - 1) ≤ value ∧ value < 2 ^ (w - 1)

instance (w : Nat) (value : Int) : Decidable (InRange w value) :=
  inferInstanceAs (Decidable (_ ∧ _))

/-- What the condition says of two words that are compared. -/
def Condition.compares (cond : Condition) (x y : BitVec w) : Bool :=
  match cond with
  | eq => x = y
  | ne => x ≠ y
  | hs => y.toNat ≤ x.toNat
  | lo => x.toNat < y.toNat
  | mi => (x - y).msb
  | pl => !(x - y).msb
  | vs => ¬InRange w (x.toInt - y.toInt)
  | vc => InRange w (x.toInt - y.toInt)
  | hi => y.toNat < x.toNat
  | ls => x.toNat ≤ y.toNat
  | ge => y.toInt ≤ x.toInt
  | lt => x.toInt < y.toInt
  | gt => y.toInt < x.toInt
  | le => x.toInt ≤ y.toInt
  | al | nv => true

section

variable (x y : BitVec w)

theorem fst_addSub_add : (addSub false x y).1 = x + y := by
  apply BitVec.eq_of_toNat_eq
  simp [addSub, addWithCarry]

theorem fst_addSub_sub : (addSub true x y).1 = x - y := by
  have := y.isLt
  apply BitVec.eq_of_toNat_eq
  simp only [addSub, addWithCarry, if_true, BitVec.toNat_ofNat, BitVec.toNat_not, BitVec.toNat_sub,
    Bool.toNat_true]
  congr 1
  omega

/-- The sum overflows just if its sign is not that of either operand. -/
theorem overflow_xor (s : BitVec w) :
    ((x ^^^ s) &&& (y ^^^ s)).msb = (x.msb == y.msb && s.msb != x.msb) := by
  simp only [BitVec.msb_and, BitVec.msb_xor]
  cases x.msb <;> cases y.msb <;> cases s.msb <;> rfl

theorem saddOverflow_eq_decide :
    x.saddOverflow y = decide (¬InRange w (x.toInt + y.toInt)) := by
  simp only [BitVec.saddOverflow, InRange]
  grind

theorem ssubOverflow_eq_decide :
    x.ssubOverflow y = decide (¬InRange w (x.toInt - y.toInt)) := by
  simp only [BitVec.ssubOverflow, InRange]
  grind

theorem snd_addSub_add :
    (addSub false x y).2 =
      { negative := (x + y).msb
        zero := x + y == 0
        carry := 2 ^ w ≤ x.toNat + y.toNat
        overflow := ¬InRange w (x.toInt + y.toInt) } := by
  have sum := fst_addSub_add x y
  simp only [addSub, addWithCarry, Bool.false_eq_true, if_false] at sum ⊢
  simp only [sum, overflow_xor, ← saddOverflow_eq_decide, BitVec.saddOverflow_eq]
  simp [bne]

theorem snd_addSub_sub (positive : 0 < w) :
    (addSub true x y).2 =
      { negative := (x - y).msb
        zero := x = y
        carry := y.toNat ≤ x.toNat
        overflow := ¬InRange w (x.toInt - y.toInt) } := by
  have difference := fst_addSub_sub x y
  have := y.isLt
  simp only [addSub, addWithCarry, if_true] at difference ⊢
  simp only [difference, overflow_xor, ← ssubOverflow_eq_decide, BitVec.ssubOverflow_eq]
  have total : 2 ^ w ≤ x.toNat + (~~~y).toNat + true.toNat ↔ y.toNat ≤ x.toNat := by
    simp only [BitVec.toNat_not, Bool.toNat_true]
    omega
  have zero : (x - y == 0) = decide (x = y) := by
    rw [Bool.eq_iff_iff]
    simp [BitVec.sub_eq_iff_eq_add]
  simp only [total, zero, BitVec.msb_not, positive, decide_true, Bool.true_and]
  congr 1
  cases x.msb <;> cases y.msb <;> cases (x - y).msb <;> rfl

/-- The sign of a difference is right unless the difference overflows. -/
theorem msb_sub_eq_overflow :
    ((x - y).msb == decide (¬InRange w (x.toInt - y.toInt))) = decide (y.toInt ≤ x.toInt) := by
  by_cases fits : InRange w (x.toInt - y.toInt)
  · have inside : ¬x.ssubOverflow y := by simpa [ssubOverflow_eq_decide] using fits
    have difference := BitVec.toInt_sub_of_not_ssubOverflow inside
    simp [BitVec.msb_eq_toInt, fits, difference]
    grind
  · have outside : x.ssubOverflow y := by simpa [ssubOverflow_eq_decide] using fits
    simp only [BitVec.ssubOverflow_eq, BitVec.msb_eq_toInt (x := x), BitVec.msb_eq_toInt (x := y)]
      at outside
    simp only [fits, not_false_eq_true, decide_true]
    grind

theorem satisfy_code (flags : Flags) (cond : Condition) :
    flags.satisfy cond.code = cond.holds flags := by
  cases cond <;> rfl

/-- The condition that holds after `x` and `y` were compared is the relation of the two. -/
theorem satisfy_addSub_sub (positive : 0 < w) (cond : Condition) :
    (addSub true x y).2.satisfy cond.code = cond.compares x y := by
  have unsigned : x = y ↔ x.toNat = y.toNat := BitVec.toNat_inj.symm
  have signed : x = y ↔ x.toInt = y.toInt := BitVec.toInt_inj.symm
  rw [satisfy_code, snd_addSub_sub x y positive]
  cases cond with
  | ge => exact msb_sub_eq_overflow x y
  | lt | gt | le =>
      simp only [Condition.holds, Condition.compares, msb_sub_eq_overflow]
      grind
  | ne | lo | vc | hi | ls =>
      simp only [Condition.holds, Condition.compares]
      grind
  | _ => rfl

end

theorem ofWord_toWord (flags : Flags) : Flags.ofWord flags.toWord = flags := by
  obtain ⟨negative, zero, carry, overflow⟩ := flags
  cases negative <;> cases zero <;> cases carry <;> cases overflow <;> rfl

/-- The operands of an instruction that sets the flags for a sum or difference. -/
inductive Operands where
  | immediate (rn : RegNum) (imm : UInt64)
  | register (rn rm : RegNum) (shift : ShiftType) (amount : BitVec 6)

namespace Operands

/-- The sum or difference of these operands, written to `rd`. Without a register
    to write this is a comparison. -/
def instruction (operands : Operands) (sf sub : Bool) (rd : RegNum) : Instruction :=
  match operands with
  | immediate rn imm => .addSubImm sf sub true rd rn imm
  | register rn rm shift amount => .addSubReg sf sub true rd rn rm shift amount

def left (operands : Operands) (sf : Bool) (regs : RegisterFile) : BitVec (dataSize sf) :=
  match operands with
  | immediate rn _ => operand sf (regs.xsp rn)
  | register rn .. => operand sf (regs.xzr rn)

def right (operands : Operands) (sf : Bool) (regs : RegisterFile) : BitVec (dataSize sf) :=
  match operands with
  | immediate _ imm => operand sf imm
  | register _ rm shift amount => shiftValue shift (operand sf (regs.xzr rm)) amount.toNat

end Operands

section

variable (env : Environment σ) (cntfrq : UInt64) (pc : Address)

/-- What is left is in the flags, wherever the sum goes. -/
theorem execute_operands (operands : Operands) (sf sub : Bool) (rd : RegNum) (cpu : Cpu σ) :
    ∃ after, execute env cntfrq pc (operands.instruction sf sub rd) cpu = .ok .next after ∧
      Flags.ofWord after.context.registers.nzcv =
        (addSub sub (operands.left sf cpu.context.registers)
          (operands.right sf cpu.context.registers)).2 := by
  have kept (regs : RegisterFile) (flags : Flags) (value : UInt64) :
      Flags.ofWord ({ regs with nzcv := flags.toWord }.setXzr rd value).nzcv = flags := by
    rw [← putRegister_generalOrZero, nzcv_putRegister, ofWord_toWord]
  cases operands with
  | immediate rn imm => exact ⟨_, rfl, kept ..⟩
  | register rn rm shift amount => exact ⟨_, rfl, kept ..⟩

/-- Condition codes after a subtraction that sets the flags, such as a comparison,
    say what their names do of its operands, for branches and for selections, as
    long as the flags stay what they are. An addition leaves in the flags the sign
    of the sum, whether it is zero, and whether it is out of range as a sum of
    unsigned or of signed numbers. -/
theorem flags_tell (operands : Operands) (sf : Bool) (rd : RegNum) (cpu : Cpu σ) :
    let x := operands.left sf cpu.context.registers
    let y := operands.right sf cpu.context.registers
    (∃ after, execute env cntfrq pc (operands.instruction sf true rd) cpu = .ok .next after ∧
      ∀ (later : Cpu σ) (cond : Condition),
        later.context.registers.nzcv = after.context.registers.nzcv →
        (∀ pc offset, execute env cntfrq pc (.branchCond cond.code offset) later =
          .ok (if cond.compares x y then .jump (displace pc offset) else .endBlock) later) ∧
        ∀ pc sf op rd rn rm, execute env cntfrq pc (.condSelect sf op rd rn rm cond.code) later =
          .ok .next (later.withRegisters fun regs => regs.setXzr rd (result sf
            (if cond.compares x y then operand sf (regs.xzr rn)
            else condSelectElse op (operand sf (regs.xzr rm)))))) ∧
      ∃ after, execute env cntfrq pc (operands.instruction sf false rd) cpu = .ok .next after ∧
        Flags.ofWord after.context.registers.nzcv =
          { negative := (x + y).msb
            zero := x + y = 0
            carry := 2 ^ dataSize sf ≤ x.toNat + y.toNat
            overflow := ¬InRange (dataSize sf) (x.toInt + y.toInt) } := by
  intro x y
  have positive : 0 < dataSize sf := by cases sf <;> decide
  constructor
  · obtain ⟨after, executed, flags⟩ := execute_operands env cntfrq pc operands sf true rd cpu
    refine ⟨after, executed, ?_⟩
    intro later cond same
    have holds : (Flags.ofWord later.context.registers.nzcv).satisfy cond.code =
        cond.compares x y := by
      rw [same, flags]
      exact satisfy_addSub_sub x y positive cond
    constructor
    · intro pc offset
      simp only [← holds]
      rfl
    · intro pc sf op rd rn rm
      simp only [← holds]
      rfl
  · obtain ⟨after, executed, flags⟩ := execute_operands env cntfrq pc operands sf false rd cpu
    exact ⟨after, executed, flags.trans (snd_addSub_add x y)⟩

end

/-- `cmp w1, w2` of the least 32-bit number and 1: less as signed numbers, higher
    as unsigned ones. -/
theorem flags_tell_least_number :
    let env := Tracer.environment { boundaryLimit := 1 }
    let cpu : Cpu Tracer :=
      { context.registers := (RegisterFile.setXzr {} 1 0x80000000).setXzr 2 1, env := {} }
    ∃ after, execute env 0 0x1000 (decode 0x6B02003F) cpu = .ok .next after ∧
      execute env 0 0x1004 (.branchCond Condition.lt.code 8) after =
        .ok (.jump 0x100C) after ∧
      execute env 0 0x1004 (.branchCond Condition.lo.code 8) after = .ok .endBlock after := by
  intro env cpu
  have comparison : decode 0x6B02003F =
      (Operands.register 1 2 .lsl 0).instruction false true 31 := by decide +kernel
  have ⟨⟨after, executed, tell⟩, _⟩ :=
    flags_tell env 0 0x1000 (.register 1 2 .lsl 0) false 31 cpu
  refine ⟨after, ?_, ?_, ?_⟩
  · simpa only [comparison] using executed
  · exact (tell after .lt rfl).1 0x1004 8
  · exact (tell after .lo rfl).1 0x1004 8

end GuestMachine.A64
