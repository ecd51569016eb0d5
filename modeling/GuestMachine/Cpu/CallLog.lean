import GuestMachine.Cpu.Core

/-! # A minimal operating system

Enough to run cores without a kernel: it notes every supervisor call and
returns the number of the call to the guest. Three numbers are special, one
that fails and two by which guest code halts its own core.
-/

namespace GuestMachine

open A64

structure CallLog where
  /-- Calls in order, with the core that made each. -/
  calls : Array (CoreIndex × UInt32) := #[]
  ticks : UInt64 := 0
  /-- Halt lines by core index; of several cores with one index the newest
      leads. -/
  lines : List (CoreIndex × Nat) := []

namespace CallLog

/-- A call that fails with the fault of a register that does not exist. -/
def failingCall : UInt32 := 0xFF

/-- A call by which guest code asks its own core to give control back. -/
def breakCall : UInt32 := 0xFE

/-- A call by which guest code stops its own core. -/
def stopCall : UInt32 := 0xFD

/-- Ask the newest core with this index to halt. -/
def haltCore (core : CoreIndex) (reason : HaltReason) (machine : Machine CallLog) :
    Machine CallLog :=
  match machine.os.lines.lookup core with
  | some line => machine.mapBoard (·.requestHalt line reason.bit)
  | none => machine

/-- Return a number to the guest. -/
def reply (number : UInt32) : Exec (Machine CallLog) Unit :=
  Exec.onContext (ContextM.set64 (.x 0) number.toUInt64)

def serviceCall (core : CoreIndex) (number : UInt32) : Exec (Machine CallLog) Unit := do
  Exec.hook fun machine =>
    ((), machine.mapOs fun log => { log with calls := log.calls.push (core, number) })
  if number = failingCall then
    let _ ← fun cpu => match cpu.context.get64 (.x 31) with
      | .ok value => .ok value cpu
      | .error e => .error e cpu
  if number = breakCall then Exec.hook fun machine => ((), haltCore core .breakLoop machine)
  if number = stopCall then Exec.hook fun machine => ((), haltCore core .stopped machine)
  reply number

def operatingSystem : OperatingSystem CallLog where
  serviceCall := serviceCall
  ticks machine := machine.os.ticks

end CallLog

end GuestMachine
