import GuestMachine.Cpu.Halt
import GuestMachine.Cpu.Translator
import GuestMachine.Memory.Access

/-! # Traced runs

The translator over plain memory, with a record of everything guest code asks
of its surroundings. There is no kernel here: supervisor calls do nothing but
halt the run or let it go on, by number, and what the machine does not handle
either fails or, for a lenient tracer, is ignored.
-/

namespace GuestMachine

open A64

/-- One request of guest code to its surroundings. -/
inductive TraceEvent where
  | fetch (addr : Address) (word : Option (BitVec 32))
  | read (w : Width) (addr : Address) (value : Nat)
  | write (w : Width) (addr : Address) (value : Nat) (stored : Bool)
  | exclusiveRead (w : Width) (addr : Address) (value : Nat)
  | exclusiveWrite (w : Width) (addr : Address) (value : Nat) (stored : Bool)
  | clearExclusive
  | counter
  | supervisorCall (number : UInt32) (pc : Address)
  | raised (pc : Address) (event : Exception)
  | cache (pc : Address) (op : CacheOp) (addr : Address)
  | barrier (pc : Address)
  | undefined (pc : Address) (opcode : UInt32)
  deriving Repr, DecidableEq

structure TraceSettings where
  core : CoreIndex := 0
  /-- What the system counter reads. -/
  counter : UInt64 := 0
  /-- Block boundaries after which the run is halted. -/
  boundaryLimit : Nat
  /-- Ignore what is not handled. -/
  lenient : Bool := false
  deriving Repr, DecidableEq

structure Tracer where
  memory : AddressSpace := {}
  events : Array TraceEvent := #[]
  /-- Address and size of the last exclusive read. -/
  reservation : Option (Address × Width) := none
  halts : UInt32 := 0
  /-- Ranges to report at the next block boundary. -/
  ranges : List (Address × UInt64) := []
  boundaries : Nat := 0

namespace Tracer

def record (tracer : Tracer) (event : TraceEvent) : Tracer :=
  { tracer with events := tracer.events.push event }

def requestHalt (tracer : Tracer) (bits : UInt32) : Tracer :=
  { tracer with halts := tracer.halts ||| bits }

/-- The halt bit that ends a run at its limit. -/
def stepBit : UInt32 := 1

/-- Record an event, and fail with `error` unless lenient. -/
def unhandled (settings : TraceSettings) (event : TraceEvent) (error : CpuError) :
    EStateM CpuError Tracer Unit := fun tracer =>
  let tracer := tracer.record event
  if settings.lenient then .ok () tracer else .error error tracer

/-- Supervisor call 0xFFFF stops the core, one from 0x8000 on goes on, and any
    other halts. -/
def callSupervisor (settings : TraceSettings) (number : UInt32) : Exec Tracer Unit := fun cpu =>
  let tracer := cpu.env.record (.supervisorCall number cpu.pc)
  if number = 0xFFFF then .error (.coreStopped settings.core) { cpu with env := tracer }
  else if 0x8000 ≤ number then .ok () { cpu with env := tracer }
  else .ok () { cpu with env := tracer.requestHalt HaltReason.supervisorCall.bit }

def exclusiveRead (settings : TraceSettings) (w : Width) (pc addr : Address) :
    EStateM CpuError Tracer (BitVec w.bits) := fun tracer =>
  if w = .quad ∧ !settings.lenient then .error (.exclusiveAccess128 pc) tracer
  else
    let value := tracer.memory.load w addr
    .ok value
      ({ tracer with reservation := some (addr, w) }.record (.exclusiveRead w addr value.toNat))

/-- A plain store, if the last exclusive read was of the same bytes. -/
def exclusiveWrite (settings : TraceSettings) (w : Width) (pc addr : Address)
    (value : BitVec w.bits) : EStateM CpuError Tracer Bool := fun tracer =>
  if w = .quad ∧ !settings.lenient then .error (.exclusiveAccess128 pc) tracer
  else
    let (stored, memory) :=
      if tracer.reservation = some (addr, w) then tracer.memory.store w addr value
      else (false, tracer.memory)
    .ok stored ({ tracer with memory, reservation := none }.record
      (.exclusiveWrite w addr value.toNat stored))

def environment (settings : TraceSettings) : Environment Tracer where
  readCode addr tracer :=
    let memory := tracer.memory
    let word := if memory.isExecutable addr then some (memory.load .word addr) else none
    (word, tracer.record (.fetch addr word))
  read w addr tracer :=
    let value := tracer.memory.load w addr
    (value, tracer.record (.read w addr value.toNat))
  write w addr value tracer :=
    let (stored, memory) := tracer.memory.store w addr value
    (stored, { tracer with memory }.record (.write w addr value.toNat stored))
  exclusiveRead := exclusiveRead settings
  exclusiveWrite := exclusiveWrite settings
  clearExclusive tracer := { tracer with reservation := none }.record .clearExclusive
  callSupervisor := callSupervisor settings
  raise pc event tracer :=
    if event = .yield then .ok () (tracer.record (.raised pc event))
    else unhandled settings (.raised pc event) (.unhandledException pc event) tracer
  dataCache pc op addr :=
    unhandled settings (.cache pc (.data op) addr) (.cacheOperation pc (.data op) addr)
  instructionCache pc op addr tracer := .ok () (tracer.record (.cache pc (.instruction op) addr))
  instructionBarrier pc :=
    unhandled settings (.barrier pc) (.instructionSynchronizationBarrier pc)
  fallback pc opcode :=
    unhandled settings (.undefined pc opcode) (.unimplementedInstruction pc opcode)
  counter tracer := (settings.counter, tracer.record .counter)
  takeInvalidations tracer :=
    let tracer := { tracer with boundaries := tracer.boundaries + 1 }
    let tracer :=
      if settings.boundaryLimit < tracer.boundaries then tracer.requestHalt stepBit else tracer
    (tracer.ranges, { tracer with ranges := [] })
  takeHalts tracer := (tracer.halts, { tracer with halts := 0 })

/-- A new run keeps memory, reservation and what is pending. -/
def restart (tracer : Tracer) : Tracer :=
  { tracer with events := #[], boundaries := 0 }

end Tracer

end GuestMachine
