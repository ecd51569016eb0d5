import GuestMachine.A64.Execute

/-! # Registers that a computation writes

An instruction that only computes writes one register, and the flags if it is
one that sets them. Number 31 names the zero register in most places, and the
stack pointer in some; either way all else stays as it was.
-/

namespace GuestMachine.A64

def Cpu.withRegisters (cpu : Cpu σ) (f : RegisterFile → RegisterFile) : Cpu σ :=
  { cpu with context := { cpu.context with registers := f cpu.context.registers } }

def generalOrZero (n : RegNum) : Register :=
  if n.toNat < 31 then .x n.toNat else .xzr

def generalOrStack (n : RegNum) : Register :=
  if n.toNat < 31 then .x n.toNat else .sp

/-- Nothing is changed but the given register and the flags. -/
structure ChangesOnly (written : Option Register) (before after : Cpu σ) : Prop where
  general : ∀ n (inside : n < 31), written ≠ some (.x n) →
    after.context.registers.x[n] = before.context.registers.x[n]
  sp : written ≠ some .sp → after.context.registers.sp = before.context.registers.sp
  pc : after.context.registers.pc = before.context.registers.pc
  v : after.context.registers.v = before.context.registers.v
  fpcr : after.context.registers.fpcr = before.context.registers.fpcr
  fpsr : after.context.registers.fpsr = before.context.registers.fpsr
  tpidrEl0 : after.context.tpidrEl0 = before.context.tpidrEl0
  tpidrroEl0 : after.context.tpidrroEl0 = before.context.tpidrroEl0
  env : after.env = before.env

theorem ChangesOnly.refl (cpu : Cpu σ) : ChangesOnly none cpu cpu := by
  constructor <;> intros <;> rfl

/-- Set the flags, and a register if it is a general one or the stack pointer. -/
def putRegister (reg : Register) (flags : UInt32) (value : UInt64) (regs : RegisterFile) :
    RegisterFile :=
  match reg with
  | .x n =>
      if h : n < 31 then { regs with nzcv := flags, x := regs.x.set n value }
      else { regs with nzcv := flags }
  | .sp => { regs with nzcv := flags, sp := value }
  | _ => { regs with nzcv := flags }

theorem putRegister_generalOrZero (rd : RegNum) (flags : UInt32) (value : UInt64)
    (regs : RegisterFile) :
    putRegister (generalOrZero rd) flags value regs =
      { regs with nzcv := flags }.setXzr rd value := by
  unfold generalOrZero RegisterFile.setXzr
  by_cases inside : rd.toNat < 31
  · simp [putRegister, inside]
  · simp [putRegister, inside]

theorem putRegister_generalOrStack (rd : RegNum) (flags : UInt32) (value : UInt64)
    (regs : RegisterFile) :
    putRegister (generalOrStack rd) flags value regs =
      { regs with nzcv := flags }.setXsp rd value := by
  unfold generalOrStack RegisterFile.setXsp
  by_cases inside : rd.toNat < 31
  · simp [putRegister, inside]
  · simp [putRegister, inside]

theorem changesOnly_putRegister (reg : Register) (flags : UInt32) (value : UInt64) (cpu : Cpu σ) :
    ChangesOnly (some reg) cpu (cpu.withRegisters (putRegister reg flags value)) := by
  cases reg with
  | x m =>
      by_cases inside : m < 31
      · constructor
        case general =>
          intro n below other
          have apart : m ≠ n := fun same => other (congrArg (some ∘ Register.x) same)
          simp [Cpu.withRegisters, putRegister, inside, Vector.getElem_set_ne, apart]
        all_goals simp [Cpu.withRegisters, putRegister, inside]
      · constructor <;> intros <;> simp [Cpu.withRegisters, putRegister, inside]
  | sp =>
      constructor
      case sp =>
        intro other
        exact absurd rfl other
      all_goals intros; rfl
  | _ => constructor <;> intros <;> rfl

@[simp] theorem nzcv_putRegister (reg : Register) (flags : UInt32) (value : UInt64)
    (regs : RegisterFile) : (putRegister reg flags value regs).nzcv = flags := by
  unfold putRegister
  repeat' split
  all_goals rfl

/-- The registers an instruction may write. -/
def IsDestination : Register → Prop
  | .x n => n < 31
  | .xzr | .sp => True
  | _ => False

theorem isDestination_generalOrZero (n : RegNum) : IsDestination (generalOrZero n) := by
  unfold generalOrZero
  split
  · assumption
  · trivial

theorem isDestination_generalOrStack (n : RegNum) : IsDestination (generalOrStack n) := by
  unfold generalOrStack
  split
  · assumption
  · trivial

theorem get64_putRegister {reg : Register} (sound : IsDestination reg) (flags : UInt32)
    (value : UInt64) (cpu : Cpu σ) :
    (cpu.withRegisters (putRegister reg flags value)).context.get64 reg =
      .ok (if reg = .xzr then 0 else value) := by
  cases reg with
  | x n =>
      have inside : n < 31 := sound
      simp [Cpu.withRegisters, putRegister, ThreadContext.get64, inside]
  | xzr => rfl
  | sp => rfl
  | _ => exact sound.elim

end GuestMachine.A64
