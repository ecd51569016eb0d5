import GuestMachine.Cpu.Board
import GuestMachine.Cpu.Translator

/-! # Execution cores

A core runs guest code in bursts. While a burst lasts, every access, exclusive
and supervisor call goes to the board or to the operating system; the burst
ends at a block boundary with a halt reason, or with a fault, which stops the
core for good.
-/

namespace GuestMachine

open A64

/-- The board together with the state of an operating system. -/
structure Machine (κ : Type) where
  board : Board
  os : κ

namespace Machine

def mapBoard (machine : Machine κ) (f : Board → Board) : Machine κ :=
  { machine with board := f machine.board }

def mapOs (machine : Machine κ) (f : κ → κ) : Machine κ :=
  { machine with os := f machine.os }

/-- Run a board operation with an answer. -/
def onBoard (machine : Machine κ) (f : Board → α × Board) : α × Machine κ :=
  let (a, board) := f machine.board
  (a, { machine with board })

end Machine

/-- What a core needs from an operating system. A failing service call is a
    fault of the engine; failures that the guest should see go into its
    registers. -/
structure OperatingSystem (κ : Type) where
  serviceCall : (core : CoreIndex) → (number : UInt32) → Exec (Machine κ) Unit
  /-- Host ticks at the console's clock rate. -/
  ticks : Machine κ → UInt64

inductive CoreState where
  | idle
  /-- For good. -/
  | stopped
  deriving Repr, DecidableEq

def CoreState.name : CoreState → String
  | idle => "Idle"
  | stopped => "Stopped"

structure Core where
  index : CoreIndex
  /-- Its halt line on the board. -/
  line : Nat
  monitor : Option MonitorHandle
  context : ThreadContext := {}
  cache : BlockCache := {}
  maxBlockInstructions : Nat
  state : CoreState := .idle

inductive BurstResult where
  | halted (reason : HaltReason)
  | faulted (error : CpuError)
  | outOfRounds
  deriving Repr, DecidableEq

namespace Core

/-- Build core `index` of the board's manager and give it a halt line. A handle
    that does not name the manager's live monitor wires it to none. -/
def create (board : Board) (handle : Option MonitorHandle) (index : CoreIndex)
    (maxBlockInstructions : Nat) : Except CpuError (Core × Board) :=
  if maxCores ≤ index then .error (.invalidCoreIndex index)
  else
    let (line, halts) := board.halts.addLine
    let manager := { board.manager with bus := board.manager.bus.register index }
    .ok ({ index, line, monitor := handle.filter board.manager.owns, maxBlockInstructions },
      { board with halts, manager })

/-- Take the core off the bus. -/
def destroy (core : Core) (board : Board) : Board :=
  { board with manager := { board.manager with bus := board.manager.bus.unregister core.index } }

/-- Its exclusive instructions reach a live monitor. -/
def hasMonitor (core : Core) (board : Board) : Bool :=
  (core.monitor.bind board.manager.monitorOf?).isSome

/-- Ask the core to give control back at its next block boundary. -/
def halt (core : Core) (board : Board) (reason : HaltReason) : Board :=
  board.requestHalt core.line reason.bit

/-- Drop translated code that shares a byte with the range. -/
def invalidate (core : Core) (addr : Address) (size : UInt64) : Core :=
  { core with cache := core.cache.invalidate addr size }

def clearCache (core : Core) : Core :=
  { core with cache := BlockCache.empty }

/-- All that the thread on this core owns. -/
def saveContext (core : Core) : ThreadContext := core.context

/-- Put a saved thread on this core. -/
def loadContext (core : Core) (context : ThreadContext) : Core :=
  { core with context }

/-- Answer a hook on the board, without failure. -/
def succeed (f : Board → α × Board) : EStateM CpuError (Machine κ) α := fun machine =>
  let (a, machine) := machine.onBoard f
  .ok a machine

/-- What an event does to the core that raises it: giving up the time slice
    halts it, signalling others does nothing, all else is a fault. -/
def raiseEvent (core : Core) (pc : Address) (event : Exception) :
    EStateM CpuError (Machine κ) Unit :=
  match event with
  | .yield | .waitForEvent =>
      succeed fun board => ((), board.requestHalt core.line HaltReason.breakLoop.bit)
  | .sendEvent | .sendEventLocal => pure ()
  | event => throw (.unhandledException pc event)

def environment (os : OperatingSystem κ) (core : Core) : Environment (Machine κ) where
  readCode addr machine :=
    let memory := machine.board.memory
    (if memory.isExecutable addr then some (memory.load .word addr) else none, machine)
  read w addr machine := (machine.board.memory.load w addr, machine)
  write w addr value machine :=
    machine.onBoard fun board => board.coreStore core.index core.monitor w addr value
  exclusiveRead w pc addr :=
    if w = .quad then throw (.exclusiveAccess128 pc)
    else succeed fun board => board.coreExclusiveRead core.index core.monitor w addr
  exclusiveWrite w pc addr value :=
    if w = .quad then throw (.exclusiveAccess128 pc)
    else succeed fun board => board.coreExclusiveWrite core.index core.monitor w addr value
  clearExclusive machine :=
    machine.mapBoard fun board => board.clearExclusive core.index core.monitor
  callSupervisor number := do
    os.serviceCall core.index number
    Exec.hook fun machine =>
      ((), machine.mapBoard (·.requestHalt core.line HaltReason.supervisorCall.bit))
  raise := core.raiseEvent
  dataCache pc op addr := throw (.cacheOperation pc (.data op) addr)
  instructionCache pc op addr := throw (.cacheOperation pc (.instruction op) addr)
  instructionBarrier pc := throw (.instructionSynchronizationBarrier pc)
  fallback pc opcode := throw (.unimplementedInstruction pc opcode)
  counter machine := (counterOfTicks (os.ticks machine), machine)
  takeInvalidations machine :=
    machine.onBoard fun board => (board.atBlockBoundary core.line).takeInvalidations core.index
  takeHalts machine := machine.onBoard (·.takeHalts core.line)

def translatorConfig (core : Core) : TranslatorConfig :=
  { cntfrq := counterFrequency, maxBlockInstructions := core.maxBlockInstructions }

/-- Name the result of a run, request again what has to wait, and stop the core
    if it has to be. -/
def finish (core : Core) (machine : Machine κ) (result : RunResult) :
    BurstResult × Core × Machine κ :=
  match result with
  | .outOfRounds => (.outOfRounds, core, machine)
  | .faulted error => (.faulted error, { core with state := .stopped }, machine)
  | .halted bits =>
      match HaltReason.ofBits bits with
      | .error error => (.faulted error, { core with state := .stopped }, machine)
      | .ok (reason, again) =>
          let state := if reason = .stopped then .stopped else core.state
          (.halted reason, { core with state },
            machine.mapBoard (·.requestHalt core.line again))

/-- Run guest code from the current PC, for at most `rounds` blocks. The core
    starts without a reservation. A stopped core does not run. -/
def execute (os : OperatingSystem κ) (rounds : Nat) (core : Core) (machine : Machine κ) :
    BurstResult × Core × Machine κ :=
  if core.state = .stopped then (.faulted (.coreStopped core.index), core, machine)
  else
    let machine := machine.mapBoard fun board => board.clearExclusive core.index core.monitor
    let (ranges, machine) := machine.onBoard (·.takeInvalidations core.index)
    let session : Session (Machine κ) :=
      { cpu := { context := core.context, env := machine }
        cache := core.cache.invalidateAll ranges }
    let (result, session) :=
      Translator.run (core.environment os) core.translatorConfig rounds session
    { core with context := session.cpu.context, cache := session.cache }.finish
      session.cpu.env result

end Core

end GuestMachine
