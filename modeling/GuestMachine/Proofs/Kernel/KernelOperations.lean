import GuestMachine.Kernel.Control
import GuestMachine.Proofs.Kernel.ObjectTables
import GuestMachine.Proofs.Kernel.ThreadLocals
import GuestMachine.Proofs.Scheduler.Queues

/-! # Operations on the kernel

Creating a thread, starting it and changing its priority either happen or leave
kernel and memory as they were. What they come to is one equation for each, and
so is what is written back of a process that was worked on.
-/

namespace GuestMachine

open Operation

namespace Kernel

theorem writeBack_self (kernel : Kernel) (pid : ProcessId) (process : GuestProcess) :
    kernel.writeBack pid process process = kernel :=
  if_pos rfl

/-- Of what is written back and then once more, the second stays. -/
theorem writeBack_processes (kernel : Kernel) (pid : ProcessId) (process after : GuestProcess) :
    ∃ processes, kernel.writeBack pid process after = { kernel with processes } ∧
      ∀ last, (processes.modify pid fun _ => last) = kernel.processes.modify pid fun _ => last := by
  rw [writeBack]
  split
  · exact ⟨kernel.processes, rfl, fun _ => rfl⟩
  · exact ⟨_, rfl, fun last => ObjectTable.modify_modify_const kernel.processes pid after last⟩

end Kernel

namespace KernelStateM

theorem onScheduler_atomic {action : SchedulerM α} (atomic : Atomic action) :
    Atomic (action.within Kernel.scheduler (fun kernel scheduler => { kernel with scheduler }) id) :=
  atomic.within id fun _ => rfl

theorem startThread_atomic (thread : GuestThread) : Atomic (startThread thread) := by
  rw [startThread]
  split
  · exact throw_atomic _
  · exact (onScheduler_atomic (SchedulerM.add_atomic _ _ _)).bind_accepted fun _ =>
      (modify_accepted _).bind fun _ => modify_accepted _

theorem setPriority_atomic (thread : GuestThread) (priority : UInt32) :
    Atomic (setPriority thread priority) :=
  onScheduler_atomic (SchedulerM.setPriority_atomic _ _)

end KernelStateM

theorem Kernel.startThread_eq (kernel : Kernel) (thread : GuestThread) :
    kernel.startThread thread = (do
      if thread.state ≠ .created then
        .error (.invalidState ("thread " ++ toString thread.id.toNat ++ " is not startable ("
          ++ thread.state.name ++ ")"))
      else
        let scheduler ← kernel.scheduler.add thread.id thread.priority thread.coreMask
        let kernel := { kernel with scheduler }.modifyThread thread.id (·.setState .started)
        return kernel.modifyListed thread.processId fun process =>
          if process.state = .created then { process with state := .running } else process) := by
  rw [startThread, KernelStateM.startThread, result_eq]
  by_cases underway : thread.state ≠ .created
  · rw [if_pos underway, if_pos underway]
    rfl
  · rw [if_neg underway, if_neg underway, outcome_bind, outcome_within, mapError_id,
      Scheduler.add, result_eq]
    cases (SchedulerM.add thread.id thread.priority thread.coreMask).outcome kernel.scheduler <;> rfl

namespace KernelMemoryM

theorem onProcess_atomic (process : GuestProcess) {action : ProcessMemoryM α}
    (atomic : Atomic action) : Atomic (onProcess process action) := by
  intro (kernel, memory) e after refused
  rw [onProcess, within] at refused
  split at refused
  · cases refused
  · rename_i stopped
    cases refused
    cases atomic _ _ _ stopped
    dsimp only
    rw [Kernel.writeBack_self]

theorem createThread_atomic (process : GuestProcess) (entry : Address) (argument : UInt64)
    (stackTop : Address) (priority : UInt32) (idealCore : Int32) :
    Atomic (createThread process entry argument stackTop priority idealCore) := by
  refine .ofExcept_bind fun _ _ => .get_bind fun _ => .ofExcept_bind fun _ _ => ?_
  refine (onProcess_atomic process ?_).bind_accepted fun _ => ?_
  · exact ProcessMemoryM.allocateTls_atomic.bind_accepted fun _ =>
      get_accepted.bind fun _ => pure_accepted _
  · exact get_accepted.bind fun _ => (modify_accepted _).bind fun _ =>
      (modify_accepted _).bind fun _ => pure_accepted _

end KernelMemoryM

theorem Kernel.createThread_eq (kernel : Kernel) (memory : AddressSpace) (process : GuestProcess)
    (entry : Address) (argument : UInt64) (stackTop : Address) (priority : UInt32)
    (idealCore : Int32) :
    kernel.createThread memory process entry argument stackTop priority idealCore = (do
      let _ ← Priority.ofWord priority
      let coreMask ← kernel.coreMaskFor process idealCore
      let (tlsAddress, held, memory) ← process.allocateTls memory
      let id := kernel.threads.nextId
      let thread := GuestThread.ofParams id
        { processId := held.pid, entry, argument, stackTop, priority, idealCore, coreMask
          tlsAddress }
      let kernel := { kernel with threads := kernel.threads.insert thread }
      return (id, kernel.modifyProcess held.pid fun _ => held.addThread id, memory)) := by
  rw [createThread, KernelMemoryM.createThread, outcome_ofExcept_bind]
  cases Priority.ofWord priority with
  | error e => rfl
  | ok level =>
      change Operation.outcome (get >>= _) _ = _
      rw [outcome_get_bind, outcome_ofExcept_bind]
      cases kernel.coreMaskFor process idealCore with
      | error e => rfl
      | ok coreMask =>
          dsimp only [Except.bind]
          rw [outcome_bind, KernelMemoryM.onProcess, outcome_within, mapError_id, outcome_bind,
            ← GuestProcess.allocateTls]
          cases allocated : process.allocateTls memory with
          | error e => rfl
          | ok taken =>
              obtain ⟨tlsAddress, held, memory'⟩ := taken
              obtain ⟨_, _, takes⟩ := GuestProcess.TakesSlot.of_allocateTls allocated
              obtain ⟨tlsSlots, rfl⟩ := takes.same
              obtain ⟨processes, back, last⟩ :=
                kernel.writeBack_processes process.pid process { process with tlsSlots }
              change (Except.map _ (Except.ok (_, _, memory'))).bind _ = _
              dsimp only [Except.map, Except.bind]
              rw [back]
              change Except.ok (_, Kernel.modifyProcess _ _ _, _) =
                Except.ok (_, Kernel.modifyProcess _ _ _, _)
              rw [modifyProcess, modifyProcess, last]

namespace KernelM

theorem ask_atomic (f : Kernel → Except KernelError α) : Atomic (ask f) := by
  intro machine e after refused
  rw [ask] at refused
  split at refused
  · cases refused
  · cases refused
    rfl

theorem ask_bind_of_ok {f : Kernel → Except KernelError α} {machine : Machine Kernel} {a : α}
    (asked : f machine.os = .ok a) (next : α → KernelM β) :
    (ask f >>= next) machine = next a machine :=
  bind_of_ok (by rw [ask, asked])

theorem update_accepted (f : Kernel → Kernel) : Accepted (update f) :=
  fun machine => ⟨(), machine.mapOs f, rfl⟩

theorem onKernel_atomic {action : KernelStateM α} (atomic : Atomic action) :
    Atomic (onKernel action) :=
  atomic.within id fun _ => rfl

theorem onKernelMemory_atomic {action : KernelMemoryM α} (atomic : Atomic action) :
    Atomic (onKernelMemory action) :=
  atomic.within id fun _ => rfl

theorem onProcess_atomic (pid : ProcessId) (process : GuestProcess) {action : ProcessM α}
    (atomic : Atomic action) : Atomic (onProcess pid process action) := by
  intro machine e after refused
  rw [onProcess, within] at refused
  split at refused
  · cases refused
  · rename_i stopped
    cases refused
    cases atomic _ _ _ stopped
    rw [Machine.mapOs, Kernel.writeBack_self]

/-- Resizing the heap of a process, with what is written back of it. -/
theorem run_setHeapSize (process : GuestProcess) (size : UInt64) (machine : Machine Kernel) :
    onKernelMemory (KernelMemoryM.onProcess process (ProcessMemoryM.setHeapSize size)) machine =
      match process.setHeapSize machine.board.memory size with
      | .ok (after, memory) =>
          .ok () { board := { machine.board with memory }
                   os := machine.os.writeBack process.pid process after }
      | .error e => .error e machine := by
  rw [(onKernelMemory_atomic
      (KernelMemoryM.onProcess_atomic process (ProcessMemoryM.setHeapSize_atomic size))).run_eq,
    onKernelMemory, outcome_within, mapError_id, KernelMemoryM.onProcess, outcome_within,
    mapError_id, GuestProcess.setHeapSize, result_eq]
  cases (ProcessMemoryM.setHeapSize size).outcome (process, machine.board.memory) <;> rfl

theorem run_createThread (process : GuestProcess) (entry : Address) (argument : UInt64)
    (stackTop : Address) (priority : UInt32) (idealCore : Int32) (machine : Machine Kernel) :
    onKernelMemory
        (KernelMemoryM.createThread process entry argument stackTop priority idealCore) machine =
      match machine.os.createThread machine.board.memory process entry argument stackTop priority
        idealCore with
      | .ok (id, os, memory) => .ok id { board := { machine.board with memory }, os }
      | .error e => .error e machine := by
  rw [(onKernelMemory_atomic
      (KernelMemoryM.createThread_atomic process entry argument stackTop priority idealCore)).run_eq,
    onKernelMemory, outcome_within, mapError_id, Kernel.createThread]
  cases (KernelMemoryM.createThread process entry argument stackTop priority idealCore).outcome
    (machine.os, machine.board.memory) <;> rfl

theorem run_startThread (thread : GuestThread) (machine : Machine Kernel) :
    onKernel (KernelStateM.startThread thread) machine =
      match machine.os.startThread thread with
      | .ok os => .ok () { machine with os }
      | .error e => .error e machine := by
  rw [(onKernel_atomic (KernelStateM.startThread_atomic thread)).run_eq, onKernel, outcome_within,
    mapError_id, Kernel.startThread, result_eq]
  cases (KernelStateM.startThread thread).outcome machine.os <;> rfl

theorem run_setPriority (thread : GuestThread) (priority : UInt32) (machine : Machine Kernel) :
    onKernel (KernelStateM.setPriority thread priority) machine =
      match machine.os.scheduler.setPriority thread.id priority with
      | .ok scheduler => .ok () { machine with os := { machine.os with scheduler } }
      | .error e => .error e machine := by
  rw [(onKernel_atomic (KernelStateM.setPriority_atomic thread priority)).run_eq, onKernel,
    outcome_within, mapError_id, KernelStateM.setPriority, outcome_within, mapError_id,
    Scheduler.setPriority, result_eq]
  cases (SchedulerM.setPriority thread.id priority).outcome machine.os.scheduler <;> rfl

theorem run_addHandle (pid : ProcessId) (process : GuestProcess) (object : KernelObject)
    (machine : Machine Kernel) :
    onProcess pid process (ProcessM.addHandle object) machine =
      match process.addHandle object with
      | .ok (handle, after) => .ok handle (machine.mapOs (·.modifyProcess pid fun _ => after))
      | .error e => .error e machine := by
  rw [(onProcess_atomic pid process (ProcessM.addHandle_atomic object)).run_eq, onProcess,
    outcome_within, mapError_id, ← GuestProcess.addHandle]
  cases added : process.addHandle object with
  | error e => rfl
  | ok opened =>
      simp only [Except.map, settle, Machine.mapOs, Kernel.writeBack,
        if_neg (GuestProcess.addHandle_ne added)]

theorem run_closeHandle (pid : ProcessId) (process : GuestProcess) (handle : Handle)
    (machine : Machine Kernel) :
    onProcess pid process
        (do let object ← ProcessM.closeHandle handle; return (object, ← get)) machine =
      match process.closeHandle handle with
      | .ok (object, after) =>
          .ok (object, after) (machine.mapOs (·.modifyProcess pid fun _ => after))
      | .error e => .error e machine := by
  have atomic : Atomic (do let object ← ProcessM.closeHandle handle; return (object, ← get)) :=
    (ProcessM.closeHandle_atomic handle).bind_accepted fun _ =>
      get_accepted.bind fun _ => pure_accepted _
  rw [(onProcess_atomic pid process atomic).run_eq, onProcess, outcome_within, mapError_id,
    outcome_bind, ← GuestProcess.closeHandle]
  cases closed : process.closeHandle handle with
  | error e => rfl
  | ok gone =>
      change Operation.settle machine (Except.ok (gone, _)) = _
      simp only [settle, Machine.mapOs, Kernel.writeBack,
        if_neg (GuestProcess.closeHandle_ne closed)]

/-- Clean up after an operation that is refused as a whole. -/
theorem run_undoneBy {action : KernelM α} (atomic : Atomic action) (f : Kernel → Kernel)
    (machine : Machine Kernel) :
    action.undoneBy (update f) machine =
      match action machine with
      | .ok a after => .ok a after
      | .error e _ => .error e (machine.mapOs f) := by
  rw [undoneBy]
  cases acted : action machine with
  | ok a after => rfl
  | error e after =>
      cases atomic machine e after acted
      rfl

end KernelM

end GuestMachine
