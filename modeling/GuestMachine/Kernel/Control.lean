import GuestMachine.Kernel.State

/-! # Kernel control of the machine

Where the kernel reaches beyond its own state: it stops cores, and it writes to
guest memory on the guest's behalf.
-/

namespace GuestMachine

namespace Machine

/-- Stop every attached core for good, once. -/
def shutdown (machine : Machine Kernel) : Machine Kernel :=
  if machine.os.exited then machine
  else
    let stop := fun board line => Board.requestHalt board line HaltReason.stopped.bit
    { board := machine.os.lines.foldl stop machine.board
      os := { machine.os with exited := true } }

/-- The application is over: mark its process, and stop all cores. -/
def exitProcess (machine : Machine Kernel) : Machine Kernel :=
  let machine := match machine.os.application with
    | some pid =>
        machine.mapOs (·.modifyProcess pid fun process => { process with state := .exited })
    | none => machine
  machine.shutdown

/-- Store on the guest's behalf, and say whether memory took it. -/
def writeGuest (machine : Machine Kernel) (addr : Address) (data : List UInt8) :
    Bool × Machine Kernel :=
  machine.onBoard fun board => board.externalStore machine.os.monitor addr data

def ticks (machine : Machine Kernel) : UInt64 :=
  machine.os.time.ticks machine.board.clock.now

def counter (machine : Machine Kernel) : UInt64 :=
  machine.os.time.counter machine.board.clock.now

def deadlineAfter (machine : Machine Kernel) (ns : UInt64) : UInt64 :=
  machine.os.time.deadlineAfter machine.board.clock.now ns

end Machine

/-- A kernel operation on the whole machine. -/
abbrev KernelM := Operation KernelError (Machine Kernel)

namespace KernelM

def ask (f : Kernel → Except KernelError α) : KernelM α := fun machine =>
  match f machine.os with
  | .ok a => .ok a machine
  | .error e => .error e machine

def update (f : Kernel → Kernel) : KernelM Unit := fun machine =>
  .ok () (machine.mapOs f)

def onKernel (action : KernelStateM α) : KernelM α :=
  action.within Machine.os (fun machine os => { machine with os }) id

def onKernelMemory (action : KernelMemoryM α) : KernelM α :=
  action.within (fun machine => (machine.os, machine.board.memory))
    (fun machine (os, memory) => { board := { machine.board with memory }, os }) id

/-- Work on a process alone. -/
def onProcess (pid : ProcessId) (process : GuestProcess) (action : ProcessM α) : KernelM α :=
  action.within (fun _ => process)
    (fun machine after => machine.mapOs (·.writeBack pid process after)) id

end KernelM

/-- The thread's number and the machine after `KernelMemoryM.createThread`. -/
def Machine.createThread (machine : Machine Kernel) (process : GuestProcess) (entry : Address)
    (argument : UInt64) (stackTop : Address) (priority : UInt32) (idealCore : Int32) :
    Except KernelError (ThreadId × Machine Kernel) :=
  (KernelM.onKernelMemory
    (KernelMemoryM.createThread process entry argument stackTop priority idealCore)).outcome machine

end GuestMachine
