import GuestMachine.Kernel.Service
import GuestMachine.Proofs.Board.ServedBoards
import GuestMachine.Proofs.Kernel.KernelOperations

/-! # What a supervisor call can do

Whatever the number and the registers, a call comes down to one of a few
changes of the kernel, or to none. What registers and memory get out of it is
not covered here.
-/

namespace GuestMachine

open A64

/-- The kernel's part in the end of the application. -/
def Kernel.endApplication (kernel : Kernel) : Kernel :=
  let kernel := match kernel.application with
    | some pid => kernel.modifyProcess pid fun process => { process with state := .exited }
    | none => kernel
  { kernel with exited := true }

/-- A thread of the process is created, in some memory and with some
    parameters. -/
def Kernel.Creates (kernel : Kernel) (process : GuestProcess) (id : ThreadId) (made : Kernel) :
    Prop :=
  ∃ memory memory' entry argument stackTop priority idealCore,
    kernel.createThread memory process entry argument stackTop priority idealCore =
      .ok (id, made, memory')

/-- What a supervisor call by the thread on `core` can make of a kernel. -/
inductive Kernel.Served (core : CoreIndex) (kernel : Kernel) : Kernel → Prop where
  | unchanged : Served core kernel kernel
  | resized {process : GuestProcess} (heapSize : UInt64)
      (found : kernel.currentProcess core = .ok process) :
      Served core kernel (kernel.modifyProcess process.pid fun _ => { process with heapSize })
  /-- A thread is created, but not known afterwards. -/
  | created {process : GuestProcess} {id : ThreadId} {made : Kernel}
      (found : kernel.currentProcess core = .ok process)
      (creates : kernel.Creates process id made) :
      Served core kernel made
  /-- A thread is created, and a handle to it opened. -/
  | opened {process holder holder' : GuestProcess} {id : ThreadId} {made : Kernel} {handle : Handle}
      (found : kernel.currentProcess core = .ok process) (creates : kernel.Creates process id made)
      (holds : made.processes.find? process.pid = some holder)
      (opens : holder.addHandle (.thread id) = .ok (handle, holder')) :
      Served core kernel (made.modifyProcess holder'.pid fun _ => holder')
  /-- A thread is created and taken back, as there is no room for a handle. -/
  | takenBack {process : GuestProcess} {id : ThreadId} {made : Kernel} {thread : GuestThread}
      (found : kernel.currentProcess core = .ok process) (creates : kernel.Creates process id made)
      (known : made.threads.find? id = some thread) :
      Served core kernel (made.destroyThread thread)
  | started {handle : Handle} {thread : GuestThread} {after : Kernel}
      (found : kernel.resolveThread core handle = .ok thread)
      (starts : kernel.startThread thread = .ok after) :
      Served core kernel after
  | requested (request : SwitchRequest) : Served core kernel (kernel.requestSwitch core request)
  /-- A thread that is scheduled gets another priority. -/
  | prioritised {handle : Handle} {thread : GuestThread} {priority : UInt32} {scheduler : Scheduler}
      (found : kernel.resolveThread core handle = .ok thread) (state : thread.state = .started)
      (changes : kernel.scheduler.setPriority thread.id priority = .ok scheduler) :
      Served core kernel
        ({ kernel with scheduler }.modifyThread thread.id (·.setPriority priority))
  /-- A thread that is not scheduled gets another priority. -/
  | prioritisedIdle {handle : Handle} {thread : GuestThread} (priority : UInt32)
      (found : kernel.resolveThread core handle = .ok thread) (state : thread.state ≠ .started) :
      Served core kernel (kernel.modifyThread thread.id (·.setPriority priority))
  | closed {handle : Handle} {process process' : GuestProcess} {object : KernelObject}
      (found : kernel.currentProcess core = .ok process)
      (closes : process.closeHandle handle = .ok (object, process')) :
      Served core kernel
        ((kernel.modifyProcess process'.pid fun _ => process').releaseObject process' object)
  /-- The application is over, perhaps with a reason given. -/
  | exited (breakInfo : Option BreakInfo) :
      Served core kernel (({ kernel with breakInfo } : Kernel).endApplication)

/-- The kernel was changed as a call by the thread on `core` changes it, and the
    board is as a call may leave it. -/
structure Follows (core : CoreIndex) (before after : Machine Kernel) : Prop where
  os : Kernel.Served core before.os after.os
  board : Board.Served before.board after.board

namespace Follows

variable {core : CoreIndex} {machine after : Machine Kernel}

theorem refl (machine : Machine Kernel) : Follows core machine machine :=
  ⟨.unchanged, .refl machine.board⟩

theorem of_os {os : Kernel} (served : Kernel.Served core machine.os os) :
    Follows core machine { machine with os } :=
  ⟨served, .refl machine.board⟩

end Follows

theorem Machine.shutdown_served (machine : Machine Kernel) :
    Board.Served machine.board machine.shutdown.board := by
  rw [shutdown]
  split
  · exact .refl machine.board
  · generalize machine.os.lines = lines
    generalize machine.board = board
    induction lines generalizing board with
    | nil => exact .refl board
    | cons line rest ih => exact (Board.Served.requestHalt board line .stopped).trans (ih _)

theorem Machine.shutdown_os (machine : Machine Kernel) :
    machine.shutdown.os = { machine.os with exited := true } := by
  rw [shutdown]
  split
  · rename_i exited
    rw [← exited]
  · rfl

theorem Machine.exitProcess_os (machine : Machine Kernel) :
    machine.exitProcess.os = machine.os.endApplication := by
  rw [exitProcess, shutdown_os, Kernel.endApplication]
  cases machine.os.application <;> rfl

theorem Machine.exitProcess_served (machine : Machine Kernel) :
    Board.Served machine.board machine.exitProcess.board := by
  rw [exitProcess]
  cases machine.os.application with
  | none => exact machine.shutdown_served
  | some pid => exact (machine.mapOs _).shutdown_served

namespace Service

variable {core : CoreIndex} {α : Type}

/-- Whatever its outcome, the operation does no more than a call may do. -/
def Performs (core : CoreIndex) (action : KernelM α) : Prop :=
  ∀ machine, Follows core machine (outcomeState (action machine))

theorem bind_ask {f : Kernel → Except KernelError α} {g : α → KernelM β} {machine : Machine Kernel}
    (accepted : ∀ a, f machine.os = .ok a → Follows core machine (outcomeState (g a machine))) :
    Follows core machine (outcomeState ((KernelM.ask f >>= g) machine)) := by
  cases asked : f machine.os with
  | error e =>
      have refused : KernelM.ask f machine = .error e machine := by rw [KernelM.ask, asked]
      rw [Operation.bind_of_error refused]
      exact .refl machine
  | ok a =>
      rw [KernelM.ask_bind_of_ok asked]
      exact accepted a asked

/-- What is made of the answer does not matter. -/
theorem Performs.map {action : KernelM α} (performs : Performs core action) (f : α → β) :
    Performs core (do let a ← action; return f a) := by
  intro machine
  have outcome := performs machine
  cases acted : action machine with
  | ok a after =>
      rw [acted] at outcome
      rw [Operation.bind_of_ok acted]
      exact outcome
  | error e after =>
      rw [acted] at outcome
      rw [Operation.bind_of_error acted]
      exact outcome

theorem ask_performs (f : Kernel → Except KernelError α) : Performs core (KernelM.ask f) := by
  intro machine
  rw [KernelM.ask]
  cases f machine.os <;> exact .refl machine

theorem resizeHeap_performs (size : UInt64) : Performs core (resizeHeap core size) := by
  intro machine
  refine bind_ask fun process found => ?_
  have runs := KernelM.run_setHeapSize process size machine
  cases resized : process.setHeapSize machine.board.memory size with
  | error e =>
      rw [resized] at runs
      rw [Operation.bind_of_error runs]
      exact .refl machine
  | ok changed =>
      obtain ⟨process', memory⟩ := changed
      rw [resized] at runs
      rw [Operation.bind_of_ok runs]
      cases GuestProcess.setHeapSize_eq_ok resized
      refine ⟨?_, .setMemory machine.board memory⟩
      change Kernel.Served core machine.os (machine.os.writeBack _ _ _)
      rw [Kernel.writeBack]
      split
      · exact .unchanged
      · exact .resized size found

theorem describeMemory_performs (buffer addr : Address) :
    Performs core (describeMemory buffer addr) := by
  intro machine
  have follows (data : List UInt8) : Follows core machine (machine.writeGuest buffer data).2 :=
    ⟨.unchanged, .externalStore machine.board ..⟩
  rw [describeMemory]
  split
  · rename_i written
    have outcome := follows (MemoryInfo.query machine.board.memory addr).encode
    rw [written] at outcome
    exact outcome
  · rename_i refused
    have outcome := follows (MemoryInfo.query machine.board.memory addr).encode
    rw [refused] at outcome
    exact outcome

theorem newThread_performs (entry : Address) (argument : UInt64) (stackTop : Address)
    (priority : UInt32) (idealCore : Int32) :
    Performs core (newThread core entry argument stackTop priority idealCore) := by
  intro machine
  refine bind_ask fun _ _ => bind_ask fun process found => ?_
  generalize (if idealCore = processDefaultCore then process.idealCore else idealCore) = ideal
  have runs := KernelM.run_createThread process entry argument stackTop priority ideal machine
  cases create : machine.os.createThread machine.board.memory process entry argument stackTop
      priority ideal with
  | error e =>
      rw [create] at runs
      dsimp only
      rw [Operation.bind_of_error runs]
      exact .refl machine
  | ok result =>
      obtain ⟨id, made, memory⟩ := result
      rw [create] at runs
      have creates : machine.os.Creates process id made := ⟨_, _, _, _, _, _, _, create⟩
      have remapped : Board.Served machine.board { machine.board with memory } := .setMemory ..
      dsimp only
      rw [Operation.bind_of_ok runs, Operation.get_bind]
      dsimp only
      cases holds : made.processes.find? process.pid with
      | none => exact ⟨.created found creates, remapped⟩
      | some holder =>
          cases known : made.threads.find? id with
          | none => exact ⟨.created found creates, remapped⟩
          | some thread =>
              dsimp only
              rw [KernelM.run_undoneBy (KernelM.onProcess_atomic _ _ (ProcessM.addHandle_atomic _)),
                KernelM.run_addHandle]
              cases opens : holder.addHandle (.thread id) with
              | error e => exact ⟨.takenBack found creates known, remapped⟩
              | ok added =>
                  refine ⟨?_, remapped⟩
                  change Kernel.Served core machine.os (made.modifyProcess holder.pid fun _ => added.2)
                  rw [← GuestProcess.addHandle_pid opens]
                  exact .opened found creates holds opens

theorem start_performs (handle : Handle) : Performs core (start core handle) := by
  intro machine
  refine bind_ask fun thread found => ?_
  rw [KernelM.run_startThread]
  cases starts : machine.os.startThread thread with
  | error e => exact .refl machine
  | ok os => exact .of_os (.started found starts)

theorem changePriority_performs (handle : Handle) (priority : UInt32) :
    Performs core (changePriority core handle priority) := by
  intro machine
  refine bind_ask fun _ _ => bind_ask fun thread found => ?_
  dsimp only
  split
  · rename_i state
    have runs := KernelM.run_setPriority thread priority machine
    cases changes : machine.os.scheduler.setPriority thread.id priority with
    | error e =>
        rw [changes] at runs
        rw [Operation.bind_of_error runs]
        exact .refl machine
    | ok scheduler =>
        rw [changes] at runs
        rw [Operation.bind_of_ok runs]
        exact .of_os (.prioritised found state changes)
  · rename_i state
    exact .of_os (.prioritisedIdle priority found state)

theorem close_performs (handle : Handle) : Performs core (close core handle) := by
  intro machine
  refine bind_ask fun process found => ?_
  have runs := KernelM.run_closeHandle process.pid process handle machine
  cases closes : process.closeHandle handle with
  | error e =>
      rw [closes] at runs
      rw [Operation.bind_of_error runs]
      exact .refl machine
  | ok closed =>
      obtain ⟨object, process'⟩ := closed
      rw [closes] at runs
      rw [Operation.bind_of_ok runs]
      rw [← GuestProcess.closeHandle_pid closes]
      exact .of_os (.closed found closes)

theorem threadPriority_performs (handle : Handle) : Performs core (threadPriority core handle) :=
  (ask_performs _).map _

theorem processNumber_performs (handle : Handle) : Performs core (processNumber core handle) :=
  (ask_performs _).map _

theorem threadNumber_performs (handle : Handle) : Performs core (threadNumber core handle) :=
  (ask_performs _).map _

theorem readMessage_performs (addr : Address) (length : UInt64) :
    Performs core (readMessage addr length) := by
  intro machine
  rw [readMessage]
  split <;> exact .refl machine

theorem information_performs (number : UInt32) (handle : Handle) (index : UInt64) :
    Performs core (information core number handle index) :=
  fun machine => bind_ask fun process _ =>
    ask_performs (fun _ => InfoKind.ask number process machine.board.memory index) machine

/-- The call is served, and does no more than a call may do. -/
def Serves (core : CoreIndex) (call : Exec (Machine Kernel) Unit) : Prop :=
  ∀ cpu, ∃ after, call cpu = .ok () after ∧ Follows core cpu.env after.env

theorem run_argument {n : Nat} (small : n < 31) (cpu : Cpu (Machine Kernel)) :
    argument n cpu = .ok (cpu.context.registers.xzr (BitVec.ofNat 5 n)) cpu := by
  have number : (BitVec.ofNat 5 n).toNat = n := Nat.mod_eq_of_lt (by omega)
  simp [argument, ThreadContext.get64, RegisterFile.xzr, number, small]

theorem bind_argument {n : Nat} (small : n < 31) {f : UInt64 → Exec (Machine Kernel) Unit}
    (serves : ∀ value, Serves core (f value)) : Serves core (argument n >>= f) := by
  intro cpu
  obtain ⟨after, served, follows⟩ := serves (cpu.context.registers.xzr (BitVec.ofNat 5 n)) cpu
  exact ⟨after, (Operation.bind_of_ok (run_argument small cpu)).trans served, follows⟩

theorem setWord_serves (value : UInt32) : Serves core (setWord value) :=
  fun cpu => ⟨_, rfl, .refl cpu.env⟩

theorem silently_serves {f : Machine Kernel → Machine Kernel}
    (follows : ∀ machine, Follows core machine (f machine)) : Serves core (silently f) :=
  fun cpu => ⟨_, rfl, follows cpu.env⟩

theorem answer_serves {action : KernelM Unit} (performs : Performs core action) :
    Serves core (answer action) := by
  intro cpu
  have outcome := performs cpu.env
  change ∃ after, EStateM.bind (attempt action) _ cpu = _ ∧ _
  rw [EStateM.bind.eq_1, attempt]
  cases acted : action cpu.env with
  | ok a machine =>
      rw [acted] at outcome
      exact ⟨_, rfl, outcome⟩
  | error e machine =>
      rw [acted] at outcome
      exact ⟨_, rfl, outcome⟩

theorem answerWith_serves {action : KernelM UInt64} (performs : Performs core action) :
    Serves core (answerWith action) := by
  intro cpu
  have outcome := performs cpu.env
  change ∃ after, EStateM.bind (attempt action) _ cpu = _ ∧ _
  rw [EStateM.bind.eq_1, attempt]
  cases acted : action cpu.env with
  | ok a machine =>
      rw [acted] at outcome
      exact ⟨_, rfl, outcome⟩
  | error e machine =>
      rw [acted] at outcome
      exact ⟨_, rfl, outcome⟩

theorem serve_serves (service : Service) : Serves core (serve core service) := by
  cases service with
  | setHeapSize =>
      exact bind_argument (by decide) fun _ => answerWith_serves (resizeHeap_performs _)
  | queryMemory =>
      exact bind_argument (by decide) fun _ => bind_argument (by decide) fun _ =>
        answerWith_serves ((describeMemory_performs _ _).map _)
  | exitProcess =>
      exact silently_serves fun machine =>
        ⟨by rw [Machine.exitProcess_os]; exact .exited machine.os.breakInfo,
          machine.exitProcess_served⟩
  | createThread =>
      refine bind_argument (by decide) fun _ => bind_argument (by decide) fun _ => ?_
      refine bind_argument (by decide) fun _ => bind_argument (by decide) fun _ => ?_
      exact bind_argument (by decide) fun _ => answerWith_serves
        ((newThread_performs _ _ _ _ _).map _)
  | startThread => exact bind_argument (by decide) fun _ => answer_serves (start_performs _)
  | exitThread => exact silently_serves fun machine => .of_os (.requested .exit)
  | sleepThread =>
      exact bind_argument (by decide) fun _ => silently_serves fun machine => .of_os (.requested _)
  | getThreadPriority =>
      exact bind_argument (by decide) fun _ => answerWith_serves (threadPriority_performs _)
  | setThreadPriority =>
      exact bind_argument (by decide) fun _ => bind_argument (by decide) fun _ =>
        answer_serves (changePriority_performs _ _)
  | getCurrentProcessorNumber => exact setWord_serves _
  | closeHandle => exact bind_argument (by decide) fun _ => answer_serves (close_performs _)
  | getSystemTick => exact fun cpu => ⟨_, rfl, .refl cpu.env⟩
  | getProcessId =>
      exact bind_argument (by decide) fun _ => answerWith_serves (processNumber_performs _)
  | getThreadId =>
      exact bind_argument (by decide) fun _ => answerWith_serves (threadNumber_performs _)
  | «break» =>
      refine bind_argument (by decide) fun reason => bind_argument (by decide) fun info1 => ?_
      refine bind_argument (by decide) fun info2 => ?_
      split
      · exact setWord_serves _
      · refine silently_serves fun machine => ⟨?_, (machine.mapOs _).exitProcess_served⟩
        rw [Machine.exitProcess_os]
        exact .exited (some { reason, info1, info2 })
  | outputDebugString =>
      exact bind_argument (by decide) fun _ => bind_argument (by decide) fun _ =>
        answer_serves (readMessage_performs _ _)
  | getInfo =>
      refine bind_argument (by decide) fun _ => bind_argument (by decide) fun _ => ?_
      exact bind_argument (by decide) fun _ => answerWith_serves (information_performs _ _ _)

end Service

/-- Whatever the number, the call is served, and does no more than a call by the
    thread on `core` may do. -/
theorem Kernel.serviceCall_serves (core : CoreIndex) (number : UInt32) :
    Service.Serves core (Kernel.serviceCall core number) := by
  rw [Kernel.serviceCall]
  split
  · exact Service.serve_serves _
  · exact Service.setWord_serves _

/-- No call takes a halt request or makes a reservation. -/
theorem Kernel.servesBoard : operatingSystem.ServesBoard := by
  intro core number cpu
  obtain ⟨after, served, follows⟩ := serviceCall_serves core number cpu
  change Board.Served cpu.env.board (outcomeState (serviceCall core number cpu)).env.board
  rw [served]
  exact follows.board

/-- So a core can rely on it that its requests wait for it, -/
theorem Kernel.onlyAsks (index : CoreIndex) (line : Nat) : operatingSystem.OnlyAsks index line :=
  servesBoard.onlyAsks index line

/-- and that reservations are those its own instructions made. -/
theorem Kernel.reservesNothing : operatingSystem.ReservesNothing :=
  servesBoard.reservesNothing

end GuestMachine
