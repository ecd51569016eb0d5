import GuestMachine.Cpu.Core
import GuestMachine.Kernel.GuestTime
import GuestMachine.Kernel.ObjectTable
import GuestMachine.Kernel.Process
import GuestMachine.Kernel.Scheduler
import GuestMachine.Kernel.Thread

/-! # Kernel state

The process and thread tables, the scheduler, and which thread each core runs.
A supervisor call that gives up its core leaves a switch request, which the run
loop serves once the thread's registers are saved. All operations here are on
the kernel alone, or on the kernel and memory where a process needs pages.
-/

namespace GuestMachine

/-- What a core does with its thread after a supervisor call. -/
inductive SwitchRequest where
  /-- To the back of its queue. -/
  | yield
  /-- Wait for a tick. -/
  | sleep (deadline : UInt64)
  | exit
  deriving Repr, DecidableEq

/-- Why the guest gave up. -/
structure BreakInfo where
  reason : UInt64
  info1 : UInt64
  info2 : UInt64
  deriving Repr, DecidableEq

structure Kernel where
  /-- The monitor that stores on the guest's behalf go through. -/
  monitor : Option MonitorHandle := none
  time : GuestTime := {}
  processes : ObjectTable GuestProcess := { firstId := GuestProcess.firstPid }
  threads : ObjectTable GuestThread := { firstId := 1 }
  scheduler : Scheduler := {}
  /-- The thread that each core runs. -/
  current : Vector (Option ThreadId) maxCores := Vector.replicate maxCores none
  switches : Vector (Option SwitchRequest) maxCores := Vector.replicate maxCores none
  /-- Halt lines of the cores to stop when the application exits. -/
  lines : List Nat := []
  application : Option ProcessId := none
  exited : Bool := false
  breakInfo : Option BreakInfo := none
  /-- Number of cores threads may be put on. -/
  coreCount : Nat := maxCores
  traceCalls : Bool := false

namespace Kernel

instance : Inhabited Kernel := ⟨{}⟩

/-- A kernel for `cores` cores, of which there are at least one and at most
    four. -/
def create (cores : Nat) (traceCalls : Bool) (monitor : Option MonitorHandle) : Kernel :=
  { monitor, coreCount := max 1 (min cores maxCores), traceCalls }

/-- Affinity mask of all cores. -/
def allCoresMask (kernel : Kernel) : UInt64 :=
  UInt64.ofNat (2 ^ kernel.coreCount - 1)

def applicationProcess? (kernel : Kernel) : Option GuestProcess :=
  kernel.application.bind kernel.processes.find?

/-- Create the application process, of which there is only one. -/
def createApplication (kernel : Kernel) (params : ProcessParams) :
    Except KernelError (ProcessId × Kernel) :=
  if kernel.application.isSome then .error (.invalidState "application process already exists")
  else
    let pid := kernel.processes.nextId
    .ok (pid, { kernel with
      processes := kernel.processes.insert (GuestProcess.ofParams pid params)
      application := some pid })

def getProcess (kernel : Kernel) (pid : ProcessId) : Except KernelError GuestProcess :=
  match kernel.processes.get? pid with
  | some process => .ok process
  | none => .error (.processNotFound pid)

/-- Change a process that someone holds, listed or not. -/
def modifyProcess (kernel : Kernel) (pid : ProcessId) (f : GuestProcess → GuestProcess) : Kernel :=
  { kernel with processes := kernel.processes.modify pid f }

/-- Write a process back that was worked on, if that changed it. -/
def writeBack (kernel : Kernel) (pid : ProcessId) (before after : GuestProcess) : Kernel :=
  if after = before then kernel else kernel.modifyProcess pid fun _ => after

/-- Change a process if it is listed. -/
def modifyListed (kernel : Kernel) (pid : ProcessId) (f : GuestProcess → GuestProcess) : Kernel :=
  if (kernel.processes.get? pid).isSome then kernel.modifyProcess pid f else kernel

def getThread (kernel : Kernel) (id : ThreadId) : Except KernelError GuestThread :=
  match kernel.threads.get? id with
  | some thread => .ok thread
  | none => .error (.invalidThreadId id)

/-- Change a thread that someone holds, listed or not. -/
def modifyThread (kernel : Kernel) (id : ThreadId) (f : GuestThread → GuestThread) : Kernel :=
  { kernel with threads := kernel.threads.modify id f }

def liveCount (kernel : Kernel) : Nat :=
  (kernel.threads.entries.filter fun (_, thread) => thread.state != .terminated).length

/-- The affinity mask of a thread on `core`, which has to be a core of this
    kernel that the process may use. -/
def coreMaskFor (kernel : Kernel) (process : GuestProcess) (core : Int32) :
    Except KernelError UInt64 :=
  let mask : UInt64 := 1 <<< UInt64.ofNat core.toNatClampNeg
  if core < 0 ∨ kernel.coreCount ≤ core.toNatClampNeg then .error (.invalidCoreId core)
  else if process.coreMask &&& mask = 0 then .error (.invalidCoreId core)
  else .ok mask

/-- A process gives up what it keeps for a thread. -/
def forgetThread (kernel : Kernel) (thread : GuestThread) : Kernel :=
  kernel.modifyListed thread.processId fun process =>
    (process.freeTls thread.tlsAddress).removeThread thread.id

/-- Undo the creation of a thread that was never started. -/
def destroyThread (kernel : Kernel) (thread : GuestThread) : Kernel :=
  let kernel := kernel.forgetThread thread
  { kernel with threads := kernel.threads.remove thread.id }

/-- Retire a thread that has left its core for good. It stays on the list as
    long as a handle names it. -/
def terminateThread (kernel : Kernel) (thread : GuestThread) : Kernel :=
  let kernel := kernel.modifyThread thread.id (·.setState .terminated)
  let kernel := { kernel with scheduler := (kernel.scheduler.remove thread.id).2 }
  let kernel := kernel.forgetThread thread
  match kernel.processes.get? thread.processId with
  | some process =>
      if process.handles.references (.thread thread.id) then kernel
      else { kernel with threads := kernel.threads.remove thread.id }
  | none => kernel

/-- A handle of `process` to `object` was closed. A terminated thread that no
    handle names any more goes off the list. -/
def releaseObject (kernel : Kernel) (process : GuestProcess) (object : KernelObject) : Kernel :=
  match object with
  | .process _ => kernel
  | .thread id =>
      match kernel.threads.get? id with
      | some thread =>
          if thread.state = .terminated ∧ !process.handles.references object then
            { kernel with threads := kernel.threads.remove id }
          else kernel
      | none => kernel

/-- The number of the thread that `core` runs. -/
def currentId? (kernel : Kernel) (core : CoreIndex) : Option ThreadId :=
  kernel.current[core]?.join

/-- Record what `core` runs. No thread has number 0, which stands for none. -/
def setCurrent (kernel : Kernel) (core : CoreIndex) (id : Option ThreadId) : Kernel :=
  { kernel with current := kernel.current.setIfInBounds core (id.filter (· != 0)) }

def currentThread (kernel : Kernel) (core : CoreIndex) : Except KernelError GuestThread :=
  match kernel.currentId? core with
  | some id => kernel.getThread id
  | none => .error (.invalidState ("no thread on core " ++ toString core))

/-- The process of the thread that `core` runs, or the application process if
    the core runs none. -/
def currentProcess (kernel : Kernel) (core : CoreIndex) : Except KernelError GuestProcess :=
  match kernel.currentThread core with
  | .ok thread => kernel.getProcess thread.processId
  | .error _ =>
      match kernel.applicationProcess? with
      | some process => .ok process
      | none => .error (.invalidState "no application process")

/-- The thread that a handle names for a caller on `core`. -/
def resolveThread (kernel : Kernel) (core : CoreIndex) (handle : Handle) :
    Except KernelError GuestThread := do
  if handle = currentThreadHandle then kernel.currentThread core
  else
    let process ← kernel.currentProcess core
    match ← process.handles.get handle with
    | .thread id => kernel.getThread id
    | .process _ => .error (.invalidHandle handle)

/-- The process that a handle names for a caller on `core`. -/
def resolveProcess (kernel : Kernel) (core : CoreIndex) (handle : Handle) :
    Except KernelError GuestProcess := do
  let process ← kernel.currentProcess core
  if handle = currentProcessHandle then return process
  else
    match ← process.handles.get handle with
    | .process pid => kernel.getProcess pid
    | .thread _ => .error (.invalidHandle handle)

def requestSwitch (kernel : Kernel) (core : CoreIndex) (request : SwitchRequest) : Kernel :=
  { kernel with switches := kernel.switches.setIfInBounds core (some request) }

/-- The request left on `core`, which is then gone. -/
def takeSwitch (kernel : Kernel) (core : CoreIndex) : Option SwitchRequest × Kernel :=
  (kernel.switches[core]?.join,
    { kernel with switches := kernel.switches.setIfInBounds core none })

end Kernel

/-- An operation on the kernel alone. -/
abbrev KernelStateM := Operation KernelError Kernel

/-- Hand a created thread to the scheduler. The first one to start sets its
    process running. -/
def KernelStateM.startThread (thread : GuestThread) : KernelStateM Unit := do
  if thread.state ≠ .created then
    throw (.invalidState ("thread " ++ toString thread.id.toNat ++ " is not startable ("
      ++ thread.state.name ++ ")"))
  else
    (SchedulerM.add thread.id thread.priority thread.coreMask).within Kernel.scheduler
      (fun kernel scheduler => { kernel with scheduler }) id
    modify (·.modifyThread thread.id (·.setState .started))
    modify fun kernel => kernel.modifyListed thread.processId fun process =>
      if process.state = .created then { process with state := .running } else process

/-- Change the priority that the scheduler has for a thread. -/
def KernelStateM.setPriority (thread : GuestThread) (priority : UInt32) : KernelStateM Unit :=
  (SchedulerM.setPriority thread.id priority).within Kernel.scheduler
    (fun kernel scheduler => { kernel with scheduler }) id

/-- An operation on the kernel and on memory. -/
abbrev KernelMemoryM := Operation KernelError (Kernel × AddressSpace)

namespace KernelMemoryM

/-- Work on a process and memory. -/
def onProcess (process : GuestProcess) (action : ProcessMemoryM α) : KernelMemoryM α :=
  action.within (fun (_, memory) => (process, memory))
    (fun (kernel, _) (after, memory) => (kernel.writeBack process.pid process after, memory)) id

/-- Create a thread of a process, pinned to its ideal core and not started. -/
def createThread (process : GuestProcess) (entry : Address) (argument : UInt64)
    (stackTop : Address) (priority : UInt32) (idealCore : Int32) : KernelMemoryM ThreadId := do
  let _ ← Operation.ofExcept (Priority.ofWord priority)
  let coreMask ← Operation.ofExcept ((← get).1.coreMaskFor process idealCore)
  let (tlsAddress, process) ← onProcess process do
    let addr ← ProcessMemoryM.allocateTls
    return (addr, (← get).1)
  let id := (← get).1.threads.nextId
  let thread := GuestThread.ofParams id
    { processId := process.pid, entry, argument, stackTop, priority, idealCore, coreMask
      tlsAddress }
  modify fun (kernel, memory) =>
    ({ kernel with threads := kernel.threads.insert thread }, memory)
  modify fun (kernel, memory) =>
    (kernel.modifyProcess process.pid fun _ => process.addThread id, memory)
  return id

end KernelMemoryM

namespace Kernel

/-- The kernel after `KernelStateM.startThread`. -/
def startThread (kernel : Kernel) (thread : GuestThread) : Except KernelError Kernel :=
  (KernelStateM.startThread thread).result kernel

/-- The thread's number, the kernel and memory after `KernelMemoryM.createThread`. -/
def createThread (kernel : Kernel) (memory : AddressSpace) (process : GuestProcess) (entry : Address)
    (argument : UInt64) (stackTop : Address) (priority : UInt32) (idealCore : Int32) :
    Except KernelError (ThreadId × Kernel × AddressSpace) :=
  (KernelMemoryM.createThread process entry argument stackTop priority idealCore).outcome
    (kernel, memory)

end Kernel

end GuestMachine
