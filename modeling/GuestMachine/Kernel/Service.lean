import GuestMachine.Kernel.Control
import GuestMachine.Kernel.Info
import GuestMachine.Kernel.MemoryInfo
import GuestMachine.Kernel.ResultCode

/-! # Supervisor calls

The services that guest code can call by number. Arguments come in `X0` to
`X5`; the result code goes to `W0` and an output value to `X1`. A refusal is the
guest's problem and never stops the core.
-/

namespace GuestMachine

open A64

inductive Service where
  | setHeapSize
  | queryMemory
  | exitProcess
  | createThread
  | startThread
  | exitThread
  | sleepThread
  | getThreadPriority
  | setThreadPriority
  | getCurrentProcessorNumber
  | closeHandle
  | getSystemTick
  | getProcessId
  | getThreadId
  | break
  | outputDebugString
  | getInfo
  deriving Repr, DecidableEq

namespace Service

def all : List Service :=
  [setHeapSize, queryMemory, exitProcess, createThread, startThread, exitThread, sleepThread,
    getThreadPriority, setThreadPriority, getCurrentProcessorNumber, closeHandle, getSystemTick,
    getProcessId, getThreadId, .break, outputDebugString, getInfo]

def number : Service → UInt32
  | setHeapSize => 0x01
  | queryMemory => 0x06
  | exitProcess => 0x07
  | createThread => 0x08
  | startThread => 0x09
  | exitThread => 0x0A
  | sleepThread => 0x0B
  | getThreadPriority => 0x0C
  | setThreadPriority => 0x0D
  | getCurrentProcessorNumber => 0x10
  | closeHandle => 0x16
  | getSystemTick => 0x1E
  | getProcessId => 0x24
  | getThreadId => 0x25
  | .break => 0x26
  | outputDebugString => 0x27
  | getInfo => 0x29

def name : Service → String
  | setHeapSize => "SetHeapSize"
  | queryMemory => "QueryMemory"
  | exitProcess => "ExitProcess"
  | createThread => "CreateThread"
  | startThread => "StartThread"
  | exitThread => "ExitThread"
  | sleepThread => "SleepThread"
  | getThreadPriority => "GetThreadPriority"
  | setThreadPriority => "SetThreadPriority"
  | getCurrentProcessorNumber => "GetCurrentProcessorNumber"
  | closeHandle => "CloseHandle"
  | getSystemTick => "GetSystemTick"
  | getProcessId => "GetProcessId"
  | getThreadId => "GetThreadId"
  | .break => "Break"
  | outputDebugString => "OutputDebugString"
  | getInfo => "GetInfo"

def ofNumber? (number : UInt32) : Option Service :=
  all.find? (·.number == number)

/-- The name of a service number, also of one without a service. -/
def nameOf (number : UInt32) : String :=
  ((ofNumber? number).map name).getD "Unknown"

end Service

namespace Service

/-- The ideal core that stands for the default of the process. -/
def processDefaultCore : Int32 := -2

/-- Resize the heap; its first address. -/
def resizeHeap (core : CoreIndex) (size : UInt64) : KernelM Address := do
  let process ← KernelM.ask (·.currentProcess core)
  KernelM.onKernelMemory (KernelMemoryM.onProcess process (ProcessMemoryM.setHeapSize size))
  return Layout.heapBase

/-- Write the description of the memory around `addr` to `buffer`. -/
def describeMemory (buffer addr : Address) : KernelM Unit := fun machine =>
  let info := MemoryInfo.query machine.board.memory addr
  match machine.writeGuest buffer info.encode with
  | (true, machine) => .ok () machine
  | (false, machine) => .error (.invalidAddress buffer) machine

/-- Create a thread of the calling process, and open a handle to it. Without
    room for the handle the thread is taken back. -/
def newThread (core : CoreIndex) (entry : Address) (argument : UInt64) (stackTop : Address)
    (priority : UInt32) (idealCore : Int32) : KernelM Handle := do
  let _ ← KernelM.ask fun _ => Priority.ofWord priority
  let process ← KernelM.ask (·.currentProcess core)
  let idealCore := if idealCore = processDefaultCore then process.idealCore else idealCore
  let id ← KernelM.onKernelMemory
    (KernelMemoryM.createThread process entry argument stackTop priority idealCore)
  let kernel := (← get).os
  match kernel.processes.find? process.pid, kernel.threads.find? id with
  | some process, some thread =>
      (KernelM.onProcess process.pid process (ProcessM.addHandle (.thread id))).undoneBy
        (KernelM.update (·.destroyThread thread))
  | _, _ => throw (.invalidThreadId id)

def start (core : CoreIndex) (handle : Handle) : KernelM Unit := do
  let thread ← KernelM.ask (·.resolveThread core handle)
  KernelM.onKernel (KernelStateM.startThread thread)

def threadPriority (core : CoreIndex) (handle : Handle) : KernelM UInt64 := do
  let thread ← KernelM.ask (·.resolveThread core handle)
  return thread.priority.toUInt64

/-- Change a thread's priority, also in the scheduler if it has been started. -/
def changePriority (core : CoreIndex) (handle : Handle) (priority : UInt32) : KernelM Unit := do
  let _ ← KernelM.ask fun _ => Priority.ofWord priority
  let thread ← KernelM.ask (·.resolveThread core handle)
  if thread.state = .started then
    KernelM.onKernel (KernelStateM.setPriority thread priority)
  KernelM.update (·.modifyThread thread.id (·.setPriority priority))

def close (core : CoreIndex) (handle : Handle) : KernelM Unit := do
  let process ← KernelM.ask (·.currentProcess core)
  let (object, process) ← KernelM.onProcess process.pid process do
    let object ← ProcessM.closeHandle handle
    return (object, ← get)
  KernelM.update (·.releaseObject process object)

def processNumber (core : CoreIndex) (handle : Handle) : KernelM UInt64 := do
  let process ← KernelM.ask (·.resolveProcess core handle)
  return process.pid

def threadNumber (core : CoreIndex) (handle : Handle) : KernelM UInt64 := do
  let thread ← KernelM.ask (·.resolveThread core handle)
  return thread.id

/-- Longest message that is read. -/
def maxMessage : UInt64 := 0x1000

/-- A message for the host's log: it has to be readable, and that is all the
    guest learns. -/
def readMessage (addr : Address) (length : UInt64) : KernelM Unit := fun machine =>
  match machine.board.memory.read addr (min length maxMessage).toNat with
  | .ok _ => .ok () machine
  | .error _ => .error (.invalidAddress addr) machine

def information (core : CoreIndex) (number : UInt32) (handle : Handle) (index : UInt64) :
    KernelM UInt64 := do
  let process ← KernelM.ask (·.resolveProcess core handle)
  let machine ← get
  KernelM.ask fun _ => InfoKind.ask number process machine.board.memory index

/-- Bit of a break's reason that says to report it only. -/
def notificationBit : UInt64 := 0x80000000

def argument (n : Nat) : Exec (Machine Kernel) UInt64 := fun cpu =>
  match cpu.context.get64 (.x n) with
  | .ok value => .ok value cpu
  | .error e => .error e cpu

def setWord (value : UInt32) : Exec (Machine Kernel) Unit :=
  Exec.onContext (ContextM.set32 (.w 0) value)

def setDouble (n : Nat) (value : UInt64) : Exec (Machine Kernel) Unit :=
  Exec.onContext (ContextM.set64 (.x n) value)

/-- Run a kernel operation and hand over its outcome. -/
def attempt (action : KernelM α) : Exec (Machine Kernel) (Except KernelError α) := fun cpu =>
  match action cpu.env with
  | .ok a env => .ok (.ok a) { cpu with env }
  | .error e env => .ok (.error e) { cpu with env }

/-- Change the machine without a result for the guest. -/
def silently (f : Machine Kernel → Machine Kernel) : Exec (Machine Kernel) Unit := fun cpu =>
  .ok () { cpu with env := f cpu.env }

/-- Answer with a result code alone. -/
def answer (action : KernelM Unit) : Exec (Machine Kernel) Unit := do
  match ← attempt action with
  | .ok () => setWord ResultCode.success.raw
  | .error e => setWord (ResultCode.ofError e).raw

/-- Answer with a result code, and on success with a value. -/
def answerWith (action : KernelM UInt64) : Exec (Machine Kernel) Unit := do
  match ← attempt action with
  | .ok value =>
      setWord ResultCode.success.raw
      setDouble 1 value
  | .error e => setWord (ResultCode.ofError e).raw

/-- Serve a call by the thread on `core`. -/
def serve (core : CoreIndex) : Service → Exec (Machine Kernel) Unit
  | setHeapSize => do
      let size ← argument 1
      answerWith (resizeHeap core size)
  | queryMemory => do
      let buffer ← argument 0
      let addr ← argument 2
      answerWith (do describeMemory buffer addr; return 0)
  | exitProcess => silently Machine.exitProcess
  | createThread => do
      let entry ← argument 1
      let arg ← argument 2
      let stackTop ← argument 3
      let priority ← argument 4
      let idealCore ← argument 5
      answerWith (do
        let handle ←
          newThread core entry arg stackTop priority.toUInt32 idealCore.toUInt32.toInt32
        return handle.toUInt64)
  | startThread => do
      let handle ← argument 0
      answer (start core handle.toUInt32)
  | exitThread => silently (·.mapOs (·.requestSwitch core .exit))
  | sleepThread => do
      let ns ← argument 0
      silently fun machine =>
        let request :=
          if 0 < ns.toInt64 then SwitchRequest.sleep (machine.deadlineAfter ns) else .yield
        machine.mapOs (·.requestSwitch core request)
  | getThreadPriority => do
      let handle ← argument 1
      answerWith (threadPriority core handle.toUInt32)
  | setThreadPriority => do
      let handle ← argument 0
      let priority ← argument 1
      answer (changePriority core handle.toUInt32 priority.toUInt32)
  | getCurrentProcessorNumber => setWord (UInt32.ofNat core)
  | closeHandle => do
      let handle ← argument 0
      answer (close core handle.toUInt32)
  | getSystemTick => do
      let counter ← Exec.hook fun machine => (Machine.counter machine, machine)
      setDouble 0 counter
  | getProcessId => do
      let handle ← argument 1
      answerWith (processNumber core handle.toUInt32)
  | getThreadId => do
      let handle ← argument 1
      answerWith (threadNumber core handle.toUInt32)
  | .break => do
      let reason ← argument 0
      let info1 ← argument 1
      let info2 ← argument 2
      if reason &&& notificationBit ≠ 0 then setWord ResultCode.success.raw
      else
        silently fun machine =>
          (machine.mapOs fun kernel =>
            { kernel with breakInfo := some { reason, info1, info2 } }).exitProcess
  | outputDebugString => do
      let addr ← argument 0
      let length ← argument 1
      answer (readMessage addr length)
  | getInfo => do
      let number ← argument 1
      let handle ← argument 2
      let index ← argument 3
      answerWith (information core number.toUInt32 handle.toUInt32 index)

end Service

namespace Kernel

/-- Serve a supervisor call by number. A number without a service is answered
    as such. -/
def serviceCall (core : CoreIndex) (number : UInt32) : Exec (Machine Kernel) Unit :=
  match Service.ofNumber? number with
  | some service => service.serve core
  | none => Service.setWord ResultCode.notImplemented.raw

/-- The kernel as the cores see it. -/
def operatingSystem : OperatingSystem Kernel where
  serviceCall := serviceCall
  ticks := Machine.ticks

end Kernel

end GuestMachine
