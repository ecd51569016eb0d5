import GuestMachine.Kernel.Service

/-! # Scheduling steps

One step of the run loop on one core: keep the current thread or pick one, run
it for a burst, and serve what the burst asked for. A thread's registers live
in the core while it runs and in the thread while it does not.
-/

namespace GuestMachine

/-- What a step came to. -/
inductive StepResult where
  /-- A thread ran. -/
  | ran
  /-- No thread may run on this core. -/
  | idle
  /-- The core has been stopped. -/
  | finished
  | faulted (error : CpuError)
  /-- The burst did not end within its rounds. -/
  | outOfRounds
  deriving Repr, DecidableEq

namespace Core

/-- Take the next thread for this core off the scheduler, after those whose
    sleep is over have woken, and load its registers. -/
def pick (core : Core) (machine : Machine Kernel) : Option GuestThread × Core × Machine Kernel :=
  let (_, scheduler) := machine.os.scheduler.wakeExpired machine.ticks
  let (next, scheduler) := scheduler.next core.index
  let machine := machine.mapOs fun kernel => { kernel with scheduler }
  match next.bind machine.os.threads.get? with
  | some thread =>
      (some thread, core.loadContext thread.context,
        machine.mapOs (·.setCurrent core.index (some thread.id)))
  | none => (none, core, machine)

/-- The thread that this core goes on with, or else the next one. -/
def current (core : Core) (machine : Machine Kernel) : Option GuestThread × Core × Machine Kernel :=
  match machine.os.currentId? core.index with
  | some id => (machine.os.threads.get? id, core, machine)
  | none => core.pick machine

/-- Save the registers of the thread, which leaves the core. -/
def release (core : Core) (id : ThreadId) (kernel : Kernel) : Kernel :=
  (kernel.modifyThread id (·.saveContext core.saveContext)).setCurrent core.index none

/-- Save the thread and put it behind its peers. -/
def giveWay (core : Core) (id : ThreadId) (kernel : Kernel) : Kernel :=
  let kernel := core.release id kernel
  { kernel with scheduler := kernel.scheduler.yield id }

/-- Save the thread and let it sleep. -/
def park (core : Core) (id : ThreadId) (deadline : UInt64) (kernel : Kernel) : Kernel :=
  let kernel := core.release id kernel
  { kernel with scheduler := kernel.scheduler.sleep id deadline }

/-- Retire the thread. With the last one the application is over. -/
def retire (core : Core) (thread : GuestThread) (machine : Machine Kernel) : Machine Kernel :=
  let machine := machine.mapOs fun kernel =>
    (kernel.setCurrent core.index none).terminateThread thread
  if machine.os.scheduler.threadCount = 0 then machine.exitProcess else machine

/-- Serve the request that a supervisor call left, if there is one. -/
def serveSwitch (core : Core) (thread : GuestThread) (machine : Machine Kernel) : Machine Kernel :=
  let (request, os) := machine.os.takeSwitch core.index
  let machine := { machine with os }
  match request with
  | none => machine
  | some .yield => machine.mapOs (core.giveWay thread.id)
  | some (.sleep deadline) => machine.mapOs (core.park thread.id deadline)
  | some .exit => core.retire thread machine

/-- One step, with a burst of at most `rounds` blocks. -/
def step (rounds : Nat) (core : Core) (machine : Machine Kernel) :
    StepResult × Core × Machine Kernel :=
  if machine.os.exited then (.finished, core, machine)
  else
    match core.current machine with
    | (none, core, machine) => (.idle, core, machine.mapOs (·.setCurrent core.index none))
    | (some thread, core, machine) =>
        match core.execute Kernel.operatingSystem rounds machine with
        | (.outOfRounds, core, machine) => (.outOfRounds, core, machine)
        | (.faulted error, core, machine) => (.faulted error, core, machine)
        | (.halted .supervisorCall, core, machine) => (.ran, core, core.serveSwitch thread machine)
        | (.halted .breakLoop, core, machine) =>
            (.ran, core, machine.mapOs (core.giveWay thread.id))
        | (.halted .stopped, core, machine) =>
            (.finished, core, machine.mapOs (core.release thread.id))

end Core

end GuestMachine
