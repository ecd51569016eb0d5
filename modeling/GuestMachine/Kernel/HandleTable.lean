import GuestMachine.Basic
import GuestMachine.Error
import GuestMachine.Operation

/-! # Handle tables

A process names kernel objects by handles. Handle 0 is never issued, and
neither is one from the pseudo-handles on.
-/

namespace GuestMachine

/-- What a handle can name. -/
inductive KernelObject where
  | process (pid : ProcessId)
  | thread (id : ThreadId)
  deriving Repr, DecidableEq

/-- Names the calling process in every handle table. -/
def currentProcessHandle : Handle := 0xFFFF8000

/-- Names the calling thread in every handle table. -/
def currentThreadHandle : Handle := 0xFFFF8001

structure HandleTable where
  /-- Open handles, newest first. -/
  entries : List (Handle × KernelObject) := []
  /-- Where the search for the next handle starts. -/
  next : Handle := 1
  deriving Repr, DecidableEq, Inhabited

namespace HandleTable

/-- Most handles a process can have open. -/
def capacity : Nat := 1024

def size (table : HandleTable) : Nat :=
  table.entries.length

def isEmpty (table : HandleTable) : Bool :=
  table.entries.isEmpty

/-- The object that an open handle names. -/
def get? (table : HandleTable) (handle : Handle) : Option KernelObject :=
  table.entries.lookup handle

def isOpen (table : HandleTable) (handle : Handle) : Bool :=
  (table.get? handle).isSome

/-- The handle may be issued. -/
def isFree (table : HandleTable) (handle : Handle) : Bool :=
  handle != 0 && handle < currentProcessHandle && !table.isOpen handle

/-- The handle tried after a handle that cannot be issued. The search starts
    over at 1 when it reaches the pseudo-handles. -/
def following (handle : Handle) : Handle :=
  if currentProcessHandle ≤ handle + 1 then 1 else handle + 1

/-- The first free handle from `handle` on. Every failed attempt but the first
    meets a different open handle, so `attempts` need not exceed their number by
    more than two. -/
def firstFree (table : HandleTable) : (attempts : Nat) → (handle : Handle) → Handle
  | 0, handle => handle
  | attempts + 1, handle =>
      if table.isFree handle then handle else table.firstFree attempts (following handle)

def get (table : HandleTable) (handle : Handle) : Except KernelError KernelObject :=
  match table.get? handle with
  | some object => .ok object
  | none => .error (.invalidHandle handle)

end HandleTable

/-- An operation on a handle table. -/
abbrev HandleM := Operation KernelError HandleTable

namespace HandleM

open HandleTable

/-- Open a handle to `object`. -/
def add (object : KernelObject) : HandleM Handle := do
  if capacity ≤ (← get).size then throw .resourceLimit
  else
    modify fun table => { table with next := table.firstFree (table.size + 2) table.next }
    let handle := (← get).next
    modify fun table => { entries := (handle, object) :: table.entries, next := handle + 1 }
    return handle

/-- Close a handle; the object it named. -/
def close (handle : Handle) : HandleM KernelObject := do
  let object ← Operation.ofExcept ((← get).get handle)
  modify fun table => { table with entries := table.entries.filter (·.1 != handle) }
  return object

end HandleM

namespace HandleTable

/-- The handle and the table after `HandleM.add`. -/
def add (table : HandleTable) (object : KernelObject) :
    Except KernelError (Handle × HandleTable) :=
  (HandleM.add object).outcome table

/-- The object and the table after `HandleM.close`. -/
def close (table : HandleTable) (handle : Handle) :
    Except KernelError (KernelObject × HandleTable) :=
  (HandleM.close handle).outcome table

def references (table : HandleTable) (object : KernelObject) : Bool :=
  table.entries.any (·.2 == object)

end HandleTable

end GuestMachine
