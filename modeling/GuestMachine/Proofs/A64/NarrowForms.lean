import GuestMachine.Cpu.Trace
import GuestMachine.Proofs.A64.RegisterWrites

/-! # 32-bit forms

A 32-bit form of an instruction that computes, or compares and branches, sees the
low halves of the registers it names and clears the upper half of the register
it writes. So whatever two cores hold in their upper halves, it does the same on
both. Number 31 names the zero register in most places and the stack pointer in
some.
-/

namespace GuestMachine.A64

/-- The 32-bit forms of the data-processing and compare-and-branch instructions. -/
def Instruction.isNarrow : Instruction → Bool
  | .moveWide sf .. | .addSubImm sf .. | .addSubReg sf .. | .logicalImm sf .. | .logicalReg sf ..
  | .bitfield sf .. | .condSelect sf .. | .mulAdd sf .. | .dataProc2 sf .. | .compareBranch sf .. =>
      !sf
  | _ => false

/-- The register that a data-processing instruction writes. Sums and logical
    operations with an immediate may write the stack pointer, unless they set
    the flags. -/
def Instruction.destination? : Instruction → Option Register
  | .addSubImm _ _ setFlags rd .. => some (if setFlags then generalOrZero rd else generalOrStack rd)
  | .logicalImm _ op rd .. => some (if op = .ands then generalOrZero rd else generalOrStack rd)
  | .moveWide _ _ rd .. | .addSubReg _ _ _ rd .. | .logicalReg _ _ _ rd .. | .bitfield _ _ rd ..
  | .condSelect _ _ rd .. | .mulAdd _ _ rd .. | .dataProc2 _ _ rd .. => some (generalOrZero rd)
  | _ => none

/-- The general registers and the stack pointer have the same low halves, and
    the flags are the same. -/
structure LowAlike (left right : RegisterFile) : Prop where
  general : ∀ n (inside : n < 31), left.x[n].toUInt32 = right.x[n].toUInt32
  sp : left.sp.toUInt32 = right.sp.toUInt32
  nzcv : left.nzcv = right.nzcv

theorem operand_eq_of_low {a b : UInt64} (low : a.toUInt32 = b.toUInt32) :
    operand false a = operand false b :=
  congrArg UInt32.toBitVec low

namespace LowAlike

variable {left right : RegisterFile}

theorem operand_xzr (alike : LowAlike left right) (n : RegNum) :
    operand false (left.xzr n) = operand false (right.xzr n) := by
  unfold RegisterFile.xzr
  split
  · rename_i inside
    exact operand_eq_of_low (alike.general n.toNat inside)
  · rfl

theorem operand_xsp (alike : LowAlike left right) (n : RegNum) :
    operand false (left.xsp n) = operand false (right.xsp n) := by
  unfold RegisterFile.xsp
  split
  · rename_i inside
    exact operand_eq_of_low (alike.general n.toNat inside)
  · exact operand_eq_of_low alike.sp

end LowAlike

/-- Two cores get the same flags and, in the register that is written, the same
    value, which is 32 bits wide. All else stays as it was on each of them. -/
structure WritesAlike (written : Option Register) (c c' : Cpu σ) (d d' : Cpu τ) : Prop where
  nzcv : c'.context.registers.nzcv = d'.context.registers.nzcv
  value : ∀ reg ∈ written, ∃ value : UInt32,
    c'.context.get64 reg = .ok value.toUInt64 ∧ d'.context.get64 reg = .ok value.toUInt64
  left : ChangesOnly written c c'
  right : ChangesOnly written d d'

theorem writesAlike_put {reg : Register} (sound : IsDestination reg) (flags : UInt32)
    (value : UInt32) (c : Cpu σ) (d : Cpu τ) :
    WritesAlike (some reg) c (c.withRegisters (putRegister reg flags value.toUInt64)) d
      (d.withRegisters (putRegister reg flags value.toUInt64)) where
  nzcv := by simp [Cpu.withRegisters]
  value := by
    intro reg' written
    cases written
    have kept : (if reg = .xzr then 0 else value.toUInt64) =
        (if reg = .xzr then 0 else value).toUInt64 := by
      split <;> rfl
    exact ⟨_, (get64_putRegister sound flags _ c).trans (congrArg _ kept),
      (get64_putRegister sound flags _ d).trans (congrArg _ kept)⟩
  left := changesOnly_putRegister reg flags _ c
  right := changesOnly_putRegister reg flags _ d

theorem writesAlike_none {c : Cpu σ} {d : Cpu τ}
    (alike : LowAlike c.context.registers d.context.registers) : WritesAlike none c c d d where
  nzcv := alike.nzcv
  value := nofun
  left := .refl c
  right := .refl d

section

variable {c : Cpu σ} {d : Cpu τ}

/-- Both go on in the same way, and write alike. -/
def DoAlike (written : Option Register) (c : Cpu σ) (x : EStateM.Result CpuError (Cpu σ) Flow)
    (d : Cpu τ) (y : EStateM.Result CpuError (Cpu τ) Flow) : Prop :=
  ∃ flow c' d', x = .ok flow c' ∧ y = .ok flow d' ∧ WritesAlike written c c' d d'

/-- A computation whose flags and value come from low halves. -/
theorem compute_doAlike {reg : Register} (sound : IsDestination reg)
    {f : RegisterFile → RegisterFile} (flags : RegisterFile → UInt32)
    (value : RegisterFile → BitVec 32)
    (puts : ∀ regs, putRegister reg (flags regs) (result false (value regs)) regs = f regs)
    (sameFlags : flags c.context.registers = flags d.context.registers)
    (sameValue : value c.context.registers = value d.context.registers) :
    DoAlike (some reg) c (compute f c) d (compute f d) := by
  refine ⟨.next, c.withRegisters f, d.withRegisters f, rfl, rfl, ?_⟩
  have left : c.withRegisters f = c.withRegisters
      (putRegister reg (flags d.context.registers) (result false (value d.context.registers))) := by
    simp only [Cpu.withRegisters, ← puts, sameFlags, sameValue]
  have right : d.withRegisters f = d.withRegisters
      (putRegister reg (flags d.context.registers) (result false (value d.context.registers))) := by
    simp only [Cpu.withRegisters, ← puts]
  rw [left, right]
  exact writesAlike_put sound _ (UInt32.ofBitVec (value d.context.registers)) c d

theorem setXzr_doAlike (alike : LowAlike c.context.registers d.context.registers) (rd : RegNum)
    (value : RegisterFile → BitVec 32)
    (sameValue : value c.context.registers = value d.context.registers) :
    DoAlike (some (generalOrZero rd)) c
      (compute (fun regs => regs.setXzr rd (result false (value regs))) c) d
      (compute (fun regs => regs.setXzr rd (result false (value regs))) d) :=
  compute_doAlike (isDestination_generalOrZero rd) (·.nzcv) value
    (fun regs => putRegister_generalOrZero rd regs.nzcv _ regs) alike.nzcv sameValue

theorem setXsp_doAlike (alike : LowAlike c.context.registers d.context.registers) (rd : RegNum)
    (value : RegisterFile → BitVec 32)
    (sameValue : value c.context.registers = value d.context.registers) :
    DoAlike (some (generalOrStack rd)) c
      (compute (fun regs => regs.setXsp rd (result false (value regs))) c) d
      (compute (fun regs => regs.setXsp rd (result false (value regs))) d) :=
  compute_doAlike (isDestination_generalOrStack rd) (·.nzcv) value
    (fun regs => putRegister_generalOrStack rd regs.nzcv _ regs) alike.nzcv sameValue

theorem flagged_doAlike (rd : RegNum) (outcome : RegisterFile → BitVec 32 × Flags)
    (same : outcome c.context.registers = outcome d.context.registers) :
    DoAlike (some (generalOrZero rd)) c
      (compute (fun regs => { regs with nzcv := (outcome regs).2.toWord }.setXzr rd
        (result false (outcome regs).1)) c) d
      (compute (fun regs => { regs with nzcv := (outcome regs).2.toWord }.setXzr rd
        (result false (outcome regs).1)) d) :=
  compute_doAlike (isDestination_generalOrZero rd) (fun regs => (outcome regs).2.toWord)
    (fun regs => (outcome regs).1) (fun regs => putRegister_generalOrZero rd _ _ regs)
    (congrArg (fun out => out.2.toWord) same) (congrArg Prod.fst same)

/-- A value with the flags that `ands` sets for it. -/
def tested (value : BitVec 32) : BitVec 32 × Flags :=
  (value, { negative := value.msb, zero := value == 0, carry := false, overflow := false })

theorem execute_doAlike (left : Environment σ) (right : Environment τ) (cntfrq : UInt64)
    (pc : Address) {instruction : Instruction} (narrow : instruction.isNarrow)
    (alike : LowAlike c.context.registers d.context.registers) :
    DoAlike instruction.destination? c (execute left cntfrq pc instruction c)
      d (execute right cntfrq pc instruction d) := by
  have zero := alike.operand_xzr
  have stack := alike.operand_xsp
  have half {sf : Bool} (narrow : (!sf) = true) : sf = false := by simpa using narrow
  cases instruction with
  | moveWide sf op rd imm16 hw =>
      obtain rfl := half narrow
      apply setXzr_doAlike alike rd fun regs =>
        moveWide op (operand false (regs.xzr rd)) imm16 hw.toNat
      simp only [zero]
  | addSubImm sf sub setFlags rd rn imm =>
      obtain rfl := half narrow
      let sum (regs : RegisterFile) :=
        addSub sub (operand false (regs.xsp rn)) (operand false imm)
      have same : sum c.context.registers = sum d.context.registers := by simp only [sum, stack]
      cases setFlags with
      | true => exact flagged_doAlike rd sum same
      | false => exact setXsp_doAlike alike rd (fun regs => (sum regs).1) (congrArg Prod.fst same)
  | addSubReg sf sub setFlags rd rn rm shift amount =>
      obtain rfl := half narrow
      let sum (regs : RegisterFile) := addSub sub (operand false (regs.xzr rn))
        (shiftValue shift (operand false (regs.xzr rm)) amount.toNat)
      have same : sum c.context.registers = sum d.context.registers := by simp only [sum, zero]
      cases setFlags with
      | true => exact flagged_doAlike rd sum same
      | false => exact setXzr_doAlike alike rd (fun regs => (sum regs).1) (congrArg Prod.fst same)
  | logicalImm sf op rd rn imm =>
      obtain rfl := half narrow
      let outcome (regs : RegisterFile) :=
        logical op (operand false (regs.xzr rn)) (operand false imm)
      have same : outcome c.context.registers = outcome d.context.registers := by
        simp only [outcome, zero]
      cases op with
      | ands =>
          exact flagged_doAlike rd (fun regs => tested (outcome regs).1)
            (congrArg (fun out => tested out.1) same)
      | _ => exact setXsp_doAlike alike rd (fun regs => (outcome regs).1) (congrArg Prod.fst same)
  | logicalReg sf op invert rd rn rm shift amount =>
      obtain rfl := half narrow
      let outcome (regs : RegisterFile) :=
        let shifted := shiftValue shift (operand false (regs.xzr rm)) amount.toNat
        logical op (operand false (regs.xzr rn)) (if invert then ~~~shifted else shifted)
      have same : outcome c.context.registers = outcome d.context.registers := by
        simp only [outcome, zero]
      cases op with
      | ands =>
          exact flagged_doAlike rd (fun regs => tested (outcome regs).1)
            (congrArg (fun out => tested out.1) same)
      | _ => exact setXzr_doAlike alike rd (fun regs => (outcome regs).1) (congrArg Prod.fst same)
  | bitfield sf op rd rn immr imms =>
      obtain rfl := half narrow
      apply setXzr_doAlike alike rd fun regs => bitfieldMove op (operand false (regs.xzr rd))
        (operand false (regs.xzr rn)) immr.toNat imms.toNat
      simp only [zero]
  | condSelect sf op rd rn rm cond =>
      obtain rfl := half narrow
      apply setXzr_doAlike alike rd fun regs =>
        if (Flags.ofWord regs.nzcv).satisfy cond then operand false (regs.xzr rn)
        else condSelectElse op (operand false (regs.xzr rm))
      simp only [zero, alike.nzcv]
  | mulAdd sf sub rd rn rm ra =>
      obtain rfl := half narrow
      apply setXzr_doAlike alike rd fun regs => mulAdd sub (operand false (regs.xzr ra))
        (operand false (regs.xzr rn)) (operand false (regs.xzr rm))
      simp only [zero]
  | dataProc2 sf op rd rn rm =>
      obtain rfl := half narrow
      apply setXzr_doAlike alike rd fun regs => dataProc2 op (operand false (regs.xzr rn))
        (operand false (regs.xzr rm))
      simp only [zero]
  | compareBranch sf nonzero rt offset =>
      obtain rfl := half narrow
      refine ⟨_, c, d, rfl, ?_, writesAlike_none alike⟩
      simp only [zero]
      rfl
  | _ => exact absurd narrow Bool.false_ne_true

end

/-- A 32-bit form ignores the upper halves and clears that of its destination. On
    two cores that differ in upper halves, whatever surrounds them, it takes the
    same branch, sets the same flags and writes the same 32 bits, and it changes
    nothing but its destination and the flags. -/
theorem execute_narrow (left : Environment σ) (right : Environment τ) (cntfrq : UInt64)
    (pc : Address) {instruction : Instruction} (narrow : instruction.isNarrow) {c : Cpu σ}
    {d : Cpu τ} (alike : LowAlike c.context.registers d.context.registers) :
    ∃ flow c' d',
      execute left cntfrq pc instruction c = .ok flow c' ∧
      execute right cntfrq pc instruction d = .ok flow d' ∧
      c'.context.registers.nzcv = d'.context.registers.nzcv ∧
      (∀ reg ∈ instruction.destination?, ∃ value : UInt32,
        c'.context.get64 reg = .ok value.toUInt64 ∧ d'.context.get64 reg = .ok value.toUInt64) ∧
      ChangesOnly instruction.destination? c c' ∧
      ChangesOnly instruction.destination? d d' := by
  obtain ⟨flow, c', d', here, there, same⟩ := execute_doAlike left right cntfrq pc narrow alike
  exact ⟨flow, c', d', here, there, same.nzcv, same.value, same.left, same.right⟩

/-- Registers whose upper halves are `high`: W2 holds 5 and W3 holds 0x50. -/
def withUpperHalves (high : UInt64) : RegisterFile :=
  let regs : RegisterFile := { x := Vector.replicate 31 high, sp := high }
  (regs.setXzr 2 (high + 5)).setXzr 3 (high + 0x50)

/-- `subs w1, w2, w3, lsr #4`, with upper halves and without. -/
theorem execute_narrow_subtraction :
    let env := Tracer.environment { boundaryLimit := 1 }
    let c : Cpu Tracer := { context := { registers := withUpperHalves 0x700000000 }, env := {} }
    let d : Cpu Tracer := { context := { registers := withUpperHalves 0 }, env := {} }
    (decode 0x6B431041).isNarrow ∧ LowAlike c.context.registers d.context.registers ∧
      ∃ flow c' d',
        execute env 0 0x1000 (decode 0x6B431041) c = .ok flow c' ∧
        execute env 0 0x1000 (decode 0x6B431041) d = .ok flow d' ∧
        c'.context.registers.nzcv = d'.context.registers.nzcv ∧
        (∀ reg ∈ (decode 0x6B431041).destination?, ∃ value : UInt32,
          c'.context.get64 reg = .ok value.toUInt64 ∧
          d'.context.get64 reg = .ok value.toUInt64) ∧
        ChangesOnly (decode 0x6B431041).destination? c c' ∧
        ChangesOnly (decode 0x6B431041).destination? d d' := by
  have narrow : (decode 0x6B431041).isNarrow := by decide +kernel
  have alike : LowAlike (withUpperHalves 0x700000000) (withUpperHalves 0) :=
    { general := by decide +kernel, sp := rfl, nzcv := rfl }
  exact ⟨narrow, alike, execute_narrow _ _ 0 0x1000 narrow alike⟩

end GuestMachine.A64
