import GuestMachine.Kernel.HandleTable
import GuestMachine.Memory.Access

/-! # Processes

What a process owns: its handles, its threads, the heap it grows and shrinks,
and the thread-local slots of its threads. Memory is worked on beside the process.
-/

namespace GuestMachine

open Layout

inductive ProcessState where
  /-- Loaded, but no thread has been started. -/
  | created
  | running
  | exited
  deriving Repr, DecidableEq

namespace ProcessState

def all : List ProcessState := [created, running, exited]

def name : ProcessState → String
  | created => "Created"
  | running => "Running"
  | exited => "Exited"

end ProcessState

structure ProcessParams where
  titleId : UInt64
  name : String
  codeBase : Address
  codeSize : UInt64
  /-- The core of threads that do not ask for one. -/
  idealCore : Int32
  /-- Bit `c` allows core `c`. -/
  coreMask : UInt64
  deriving Repr, DecidableEq

structure GuestProcess extends ProcessParams where
  pid : ProcessId
  state : ProcessState := .created
  handles : HandleTable := {}
  heapSize : UInt64 := 0
  /-- Whether each thread-local slot is in use, in address order. -/
  tlsSlots : List Bool := []
  /-- Threads that have not terminated, in order of creation. -/
  threads : List ThreadId := []
  deriving Repr, DecidableEq

namespace GuestProcess

/-- Processes are numbered from here; smaller numbers belong to the system. -/
def firstPid : ProcessId := 0x51

def ofParams (pid : ProcessId) (params : ProcessParams) : GuestProcess :=
  { params with pid }

def addThread (process : GuestProcess) (id : ThreadId) : GuestProcess :=
  { process with threads := process.threads ++ [id] }

def removeThread (process : GuestProcess) (id : ThreadId) : GuestProcess :=
  { process with threads := process.threads.filter (· != id) }

def tlsCapacity : Nat := (tlsSize / tlsEntrySize).toNat

/-- First byte of a thread-local slot. -/
def tlsAddress (slot : Nat) : Address :=
  tlsBase + UInt64.ofNat slot * tlsEntrySize

/-- The slot that holds `addr`, if it is not below all slots. -/
def tlsSlotOf? (addr : Address) : Option Nat :=
  if addr < tlsBase then none else some ((addr - tlsBase) / tlsEntrySize).toNat

/-- The lowest slot that is not in use. -/
def freeTlsSlot (process : GuestProcess) : Nat :=
  process.tlsSlots.findIdx (!·)

/-- Give back the slot that holds `addr`. An address outside the slots handed
    out so far is ignored. -/
def freeTls (process : GuestProcess) (addr : Address) : GuestProcess :=
  match tlsSlotOf? addr with
  | some slot => { process with tlsSlots := process.tlsSlots.set slot false }
  | none => process

end GuestProcess

/-- An operation on a process. -/
abbrev ProcessM := Operation KernelError GuestProcess

namespace ProcessM

def onHandles (action : HandleM α) : ProcessM α :=
  action.within GuestProcess.handles (fun process handles => { process with handles }) id

def addHandle (object : KernelObject) : ProcessM Handle :=
  onHandles (HandleM.add object)

def closeHandle (handle : Handle) : ProcessM KernelObject :=
  onHandles (HandleM.close handle)

end ProcessM

/-- An operation on a process and the memory that it is in. -/
abbrev ProcessMemoryM := Operation KernelError (GuestProcess × AddressSpace)

namespace ProcessMemoryM

open GuestProcess

def onMemory (action : MemoryM α) : ProcessMemoryM α :=
  action.within Prod.snd (fun (process, _) memory => (process, memory)) .memory

def modifyProcess (f : GuestProcess → GuestProcess) : ProcessMemoryM Unit :=
  modify fun (process, memory) => (f process, memory)

/-- Grow or shrink the heap to `size` bytes. Growing maps fresh pages behind
    the old end, shrinking unmaps the tail. -/
def setHeapSize (size : UInt64) : ProcessMemoryM Unit := do
  if size % heapAlignment ≠ 0 then throw (.invalidSize size)
  else if Layout.heapSize < size then throw (.memory .outOfMemory)
  else
    let current := (← get).1.heapSize
    if current < size then
      onMemory (MemoryM.map (heapBase + current) (size - current) PageFlags.rw)
    else if size < current then
      onMemory (MemoryM.unmap (heapBase + size) (current - size))
    modifyProcess fun process => { process with heapSize := size }

/-- Take the lowest free slot, filled with zeros, and map its page if it is the
    first slot there. A slot behind those on the list is free as well, so the
    list does not grow before the slot is taken. -/
def allocateTls : ProcessMemoryM Address := do
  let (process, memory) ← get
  let slot := process.freeTlsSlot
  if tlsCapacity ≤ slot then throw .resourceLimit
  else
    let addr := tlsAddress slot
    let page := pageAlignDown addr
    if !memory.isMapped page then
      onMemory (MemoryM.map page (UInt64.ofNat pageSize) PageFlags.rw)
    onMemory (MemoryM.write addr (List.replicate tlsEntrySize.toNat 0))
    modifyProcess fun process => { process with
      tlsSlots :=
        if slot < process.tlsSlots.length then process.tlsSlots.set slot true
        else process.tlsSlots ++ [true] }
    return addr

end ProcessMemoryM

namespace GuestProcess

/-- The handle and the process after `ProcessM.addHandle`. -/
def addHandle (process : GuestProcess) (object : KernelObject) :
    Except KernelError (Handle × GuestProcess) :=
  (ProcessM.addHandle object).outcome process

/-- The object and the process after `ProcessM.closeHandle`. -/
def closeHandle (process : GuestProcess) (handle : Handle) :
    Except KernelError (KernelObject × GuestProcess) :=
  (ProcessM.closeHandle handle).outcome process

/-- Process and memory after `ProcessMemoryM.setHeapSize`. -/
def setHeapSize (process : GuestProcess) (memory : AddressSpace) (size : UInt64) :
    Except KernelError (GuestProcess × AddressSpace) :=
  (ProcessMemoryM.setHeapSize size).result (process, memory)

/-- The address, process and memory after `ProcessMemoryM.allocateTls`. -/
def allocateTls (process : GuestProcess) (memory : AddressSpace) :
    Except KernelError (Address × GuestProcess × AddressSpace) :=
  ProcessMemoryM.allocateTls.outcome (process, memory)

end GuestProcess

end GuestMachine
