import GuestMachine.Cpu.Counter
import GuestMachine.Cpu.Halt
import GuestMachine.Cpu.Manager

/-! # The board

The hardware that cores and operating system share: guest memory, the CPU
manager with its monitor and bus, the halt lines and the clock. Every store
that guest code can observe goes through here, so that reservations are broken
and translated code is invalidated in one place.
-/

namespace GuestMachine

/-- Periodic request for busy cores to give control back. -/
structure Preemption where
  /-- Host ticks from one request to the next. -/
  period : UInt64
  next : UInt64
  deriving Repr, DecidableEq

/-- Host time in ticks of the console's clock. -/
structure Clock where
  now : UInt64 := 0
  preemption : Option Preemption := none
  deriving Repr, DecidableEq, Inhabited

namespace Clock

/-- Let `ticks` pass, up to the end of time. -/
def pass (clock : Clock) (ticks : UInt64) : Clock :=
  { clock with now := saturatingAdd clock.now ticks }

/-- Whether a preemption is due, after which the next one is a period away. -/
def takePreemption (clock : Clock) : Bool × Clock :=
  match clock.preemption with
  | none => (false, clock)
  | some p =>
      if p.next ≤ clock.now then
        (true, { clock with preemption := some { p with next := saturatingAdd clock.now p.period } })
      else (false, clock)

end Clock

structure Board where
  memory : AddressSpace := {}
  manager : CpuManager := {}
  halts : HaltLines := {}
  clock : Clock := {}
  deriving Inhabited

namespace Board

/-- Run a store through the monitor that `handle` names, or directly if it
    names none. -/
def storeThrough (board : Board) (handle : Option MonitorHandle)
    (guarded : ExclusiveMonitor → Bool × AddressSpace × ExclusiveMonitor)
    (direct : Bool × AddressSpace) : Bool × Board :=
  match handle.bind board.manager.monitorOf? with
  | some monitor =>
      let (stored, memory, monitor) := guarded monitor
      (stored, { board with memory, manager := board.manager.setMonitor monitor })
  | none => (direct.1, { board with memory := direct.2 })

/-- Queue a range on every core. -/
def publish (board : Board) (addr : Address) (size : UInt64) : Board :=
  { board with manager := { board.manager with bus := board.manager.bus.publish addr size } }

/-- A plain store by a core. A store that begins on an executable page is
    published. -/
def coreStore (board : Board) (core : CoreIndex) (handle : Option MonitorHandle) (w : Width)
    (addr : Address) (value : BitVec w.bits) : Bool × Board :=
  let store := fun memory : AddressSpace => memory.store w addr value
  let (stored, board) := board.storeThrough handle
    (fun monitor => monitor.guardedStore board.memory core addr w.size store)
    (store board.memory)
  if stored && board.memory.isExecutable addr then (stored, board.publish addr w.size)
  else (stored, board)

/-- A store by the operating system on the guest's behalf. It is published if
    its first or last byte is on an executable page. -/
def externalStore (board : Board) (handle : Option MonitorHandle) (addr : Address)
    (data : List UInt8) : Bool × Board :=
  let size := UInt64.ofNat data.length
  let store := fun memory : AddressSpace => memory.writeBlock addr data
  let (stored, board) := board.storeThrough handle
    (fun monitor => monitor.externalStore board.memory addr size store)
    (store board.memory)
  let last := saturatingAdd addr (size - 1)
  if stored && !data.isEmpty
      && (board.memory.isExecutable addr || board.memory.isExecutable last) then
    (stored, board.publish addr size)
  else (stored, board)

/-- Load-exclusive by a core; a plain load without a monitor. -/
def coreExclusiveRead (board : Board) (core : CoreIndex) (handle : Option MonitorHandle) (w : Width)
    (addr : Address) : BitVec w.bits × Board :=
  match handle.bind board.manager.monitorOf? with
  | some monitor =>
      let (value, monitor) := monitor.exclusiveRead board.memory w core addr
      (value, { board with manager := board.manager.setMonitor monitor })
  | none => (board.memory.load w addr, board)

/-- Store-exclusive by a core, which fails without a monitor. A committed
    store that begins on an executable page is published. -/
def coreExclusiveWrite (board : Board) (core : CoreIndex) (handle : Option MonitorHandle)
    (w : Width) (addr : Address) (value : BitVec w.bits) : Bool × Board :=
  match handle.bind board.manager.monitorOf? with
  | some monitor =>
      let (committed, memory, monitor) := monitor.exclusiveWrite board.memory w core addr value
      let board := { board with memory, manager := board.manager.setMonitor monitor }
      if committed && memory.isExecutable addr then (committed, board.publish addr w.size)
      else (committed, board)
  | none => (false, board)

def clearExclusive (board : Board) (core : CoreIndex) (handle : Option MonitorHandle) : Board :=
  match handle.bind board.manager.monitorOf? with
  | some monitor => { board with manager := board.manager.setMonitor (monitor.clear core) }
  | none => board

/-- The ranges waiting for `core`, which are then gone. -/
def takeInvalidations (board : Board) (core : CoreIndex) :
    List (Address × UInt64) × Board :=
  let (ranges, bus) := board.manager.bus.take core
  (ranges, { board with manager := { board.manager with bus } })

def requestHalt (board : Board) (line : Nat) (bits : UInt32) : Board :=
  { board with halts := board.halts.request line bits }

def takeHalts (board : Board) (line : Nat) : UInt32 × Board :=
  let (bits, halts) := board.halts.take line
  (bits, { board with halts })

/-- Host ticks that one translated block takes. -/
def blockTicks : UInt64 := 100

/-- A busy core is between two blocks: time has passed, and a preemption may
    have become due for it. -/
def atBlockBoundary (board : Board) (line : Nat) : Board :=
  let (due, clock) := (board.clock.pass blockTicks).takePreemption
  let board := { board with clock }
  if due then board.requestHalt line HaltReason.breakLoop.bit else board

end Board

end GuestMachine
