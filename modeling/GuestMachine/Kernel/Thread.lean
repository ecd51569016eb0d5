import GuestMachine.Cpu.Registers

/-! # Guest threads

A thread is known by its saved registers while it is not on a core. Where it
waits is the scheduler's business.
-/

namespace GuestMachine

inductive ThreadState where
  /-- Not started yet. -/
  | created
  /-- Handed to the scheduler. -/
  | started
  /-- Gone for good; the object stays while a handle names it. -/
  | terminated
  deriving Repr, DecidableEq

namespace ThreadState

def all : List ThreadState := [created, started, terminated]

def name : ThreadState → String
  | created => "Created"
  | started => "Started"
  | terminated => "Terminated"

end ThreadState

structure ThreadParams where
  processId : ProcessId
  entry : Address
  argument : UInt64
  stackTop : Address
  priority : UInt32
  idealCore : Int32
  /-- Bit `c` allows core `c`. -/
  coreMask : UInt64
  /-- First byte of its thread-local slot. -/
  tlsAddress : Address
  deriving Repr, DecidableEq

structure GuestThread where
  id : ThreadId
  processId : ProcessId
  entry : Address
  stackTop : Address
  idealCore : Int32
  coreMask : UInt64
  tlsAddress : Address
  state : ThreadState := .created
  priority : UInt32
  /-- The registers to load when the thread gets a core. -/
  context : ThreadContext
  deriving Repr, DecidableEq

namespace GuestThread

def initialContext (entry : Address) (argument : UInt64) (stackTop tls : Address) :
    ThreadContext :=
  { registers := ({ pc := entry, sp := stackTop } : RegisterFile).setXzr 0 argument
    tpidrroEl0 := tls }

def ofParams (id : ThreadId) (params : ThreadParams) : GuestThread :=
  { id
    processId := params.processId
    entry := params.entry
    stackTop := params.stackTop
    idealCore := params.idealCore
    coreMask := params.coreMask
    tlsAddress := params.tlsAddress
    priority := params.priority
    context := initialContext params.entry params.argument params.stackTop params.tlsAddress }

def setState (thread : GuestThread) (state : ThreadState) : GuestThread :=
  { thread with state }

def setPriority (thread : GuestThread) (priority : UInt32) : GuestThread :=
  { thread with priority }

def saveContext (thread : GuestThread) (context : ThreadContext) : GuestThread :=
  { thread with context }

/-- Overwrite a general register of the saved context. There are 31 of them;
    another index changes nothing. -/
def setRegister (thread : GuestThread) (index : Nat) (value : UInt64) : GuestThread :=
  let registers := thread.context.registers
  { thread with
    context := { thread.context with
      registers := { registers with x := registers.x.setIfInBounds index value } } }

end GuestThread

end GuestMachine
