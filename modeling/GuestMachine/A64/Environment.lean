import GuestMachine.Cpu.Registers
import GuestMachine.Memory.Width

/-! # The world around a core

Everything guest code can reach besides its own registers, as a table of hooks
over a state `σ` of the caller's choosing. The same executor then runs against
a whole console, a bare memory or a state that records its calls.
-/

namespace GuestMachine.A64

/-- The registers of the running thread together with the outside state. -/
structure Cpu (σ : Type) where
  context : ThreadContext
  env : σ

/-- A guest computation. -/
abbrev Exec (σ : Type) := Operation CpuError (Cpu σ)

structure Environment (σ : Type) where
  /-- Fetch an instruction word, if `addr` holds code. -/
  readCode : (addr : Address) → σ → Option (BitVec 32) × σ
  read : (w : Width) → (addr : Address) → σ → BitVec w.bits × σ
  /-- Store, and say whether memory took it. -/
  write : (w : Width) → (addr : Address) → BitVec w.bits → σ → Bool × σ
  exclusiveRead : (w : Width) → (pc addr : Address) → EStateM CpuError σ (BitVec w.bits)
  /-- Store-exclusive, and whether it was committed. -/
  exclusiveWrite : (w : Width) → (pc addr : Address) → BitVec w.bits → EStateM CpuError σ Bool
  clearExclusive : σ → σ
  /-- Supervisor call. The PC already points past the instruction, and the
      service may change any register. -/
  callSupervisor : (number : UInt32) → Exec σ Unit
  raise : (pc : Address) → Exception → EStateM CpuError σ Unit
  dataCache : (pc : Address) → DataCacheOp → (addr : Address) → EStateM CpuError σ Unit
  instructionCache : (pc : Address) → InstructionCacheOp → (addr : Address) → EStateM CpuError σ Unit
  instructionBarrier : (pc : Address) → EStateM CpuError σ Unit
  /-- An instruction outside the subset. -/
  fallback : (pc : Address) → (opcode : UInt32) → EStateM CpuError σ Unit
  counter : σ → UInt64 × σ
  /-- Code ranges that others changed since the last call. -/
  takeInvalidations : σ → List (Address × UInt64) × σ
  /-- Halt requests since the last call. -/
  takeHalts : σ → UInt32 × σ

namespace Exec

/-- Run a hook that cannot fail. -/
def hook (f : σ → α × σ) : Exec σ α := fun cpu =>
  let (a, env) := f cpu.env
  .ok a { cpu with env }

/-- Run a hook that may fail. -/
def tryHook (f : EStateM CpuError σ α) : Exec σ α := fun cpu =>
  match f cpu.env with
  | .ok a env => .ok a { cpu with env }
  | .error e env => .error e { cpu with env }

/-- Access a register by name. -/
def onContext (action : ContextM α) : Exec σ α :=
  action.within Cpu.context (fun cpu context => { cpu with context }) id

def registers : Exec σ RegisterFile := fun cpu =>
  .ok cpu.context.registers cpu

def context : Exec σ ThreadContext := fun cpu =>
  .ok cpu.context cpu

def modifyRegisters (f : RegisterFile → RegisterFile) : Exec σ Unit := fun cpu =>
  .ok () { cpu with context := { cpu.context with registers := f cpu.context.registers } }

def modifyContext (f : ThreadContext → ThreadContext) : Exec σ Unit := fun cpu =>
  .ok () { cpu with context := f cpu.context }

end Exec

end GuestMachine.A64
