import GuestMachine.Proofs.Kernel.NewThreads
import GuestMachine.Proofs.Kernel.Replies
import GuestMachine.Proofs.System.ThreadLedger

/-! # Threads that are only requested

A process that goes on asking for threads opens a handle to each of them. No
thread slot runs out before the handles do. The request after that makes the
thread and takes it back.
-/

namespace GuestMachine

open A64

/-- So many threads were created, and none of them started. -/
structure Kernel.Crowded (machine : Machine Kernel) (pid : ProcessId) (process : GuestProcess)
    (count : Nat) : Prop where
  hosts : machine.os.Hosts pid process
  onCore : machine.os.coreMaskFor process 0 = .ok 1
  threads : machine.os.threads.slots.size = count
  slots : ∀ slot, process.usesSlot slot → slot < count
  pages : ∀ slot < GuestProcess.tlsCapacity, GuestProcess.SlotPageReady machine.board.memory slot

namespace Kernel.Crowded

variable {machine : Machine Kernel} {pid : ProcessId} {process : GuestProcess} {count : Nat}

/-- The lowest slot is free that no thread can have taken. -/
theorem freeTlsSlot_le (crowded : Crowded machine pid process count) :
    process.freeTlsSlot ≤ count := by
  by_contra beyond
  have used := GuestProcess.usesSlot_of_lt_freeTlsSlot (Nat.lt_of_not_le beyond)
  exact Nat.lt_irrefl _ (crowded.slots count used)

/-- It is taken. -/
theorem allocateTls (crowded : Crowded machine pid process count)
    (few : count < GuestProcess.tlsCapacity) :
    ∃ held memory, process.allocateTls machine.board.memory =
        .ok (GuestProcess.tlsAddress process.freeTlsSlot, held, memory) ∧
      process.TakesSlot machine.board.memory process.freeTlsSlot held memory := by
  have below : process.freeTlsSlot < GuestProcess.tlsCapacity :=
    Nat.lt_of_le_of_lt crowded.freeTlsSlot_le few
  obtain ⟨held, memory, allocated, _⟩ :=
    GuestProcess.allocateTls_of_ready below (crowded.pages _ below)
  obtain ⟨slot, same, takes⟩ := GuestProcess.TakesSlot.of_allocateTls allocated
  obtain rfl := GuestProcess.tlsAddress_inj below takes.below same
  exact ⟨held, memory, allocated, takes⟩

/-- One more thread is created. -/
theorem createThread (crowded : Crowded machine pid process count)
    (few : count < GuestProcess.tlsCapacity) (entry : Address) (argument : UInt64)
    (stackTop : Address) {priority : UInt32} {level : Priority}
    (valid : Priority.ofWord priority = .ok level) :
    ∃ id thread holder made memory,
      machine.os.createThread machine.board.memory process entry argument stackTop priority 0 =
        .ok (id, made, memory) ∧
      made.threads.find? id = some thread ∧ holder.handles = process.handles ∧
      Crowded { board := { machine.board with memory }, os := made } pid holder (count + 1) := by
  obtain ⟨held, memory, allocated, takes⟩ := crowded.allocateTls few
  obtain ⟨tlsSlots, rfl⟩ := takes.same
  have room : machine.os.threads.slots.size < 2 ^ 64 := by
    rw [crowded.threads]
    exact Nat.lt_trans few (by decide)
  have create : ∃ id made, machine.os.createThread machine.board.memory process entry argument
      stackTop priority 0 = .ok (id, made, memory) := by
    rw [createThread_eq, valid, crowded.onCore, allocated]
    exact ⟨_, _, rfl⟩
  obtain ⟨id, made, create⟩ := create
  obtain ⟨_, holder, created⟩ := crowded.hosts.created ⟨_, _, _, _, _, _, _, create⟩
  obtain ⟨_, _, _, _, _, _, allocated', rfl, inserted⟩ := createThread_params create
  cases allocated.symm.trans allocated'
  cases crowded.hosts.number
  obtain ⟨found, holds⟩ := crowded.hosts.finds_inserted room inserted
  cases created.hosts.eq_of_find holds
  refine ⟨_, _, ({ process with tlsSlots } : GuestProcess).addThread machine.os.threads.nextId,
    made, memory, create, found, rfl, created.hosts, ?_, ?_, ?_, ?_⟩
  · rw [inserted]
    exact crowded.onCore
  · rw [created.size, crowded.threads]
  · intro slot used
    have either := (takes.uses slot).symm.trans used
    rw [Bool.or_eq_true, beq_iff_eq] at either
    rcases either with rfl | old
    · exact Nat.lt_succ_of_le crowded.freeTlsSlot_le
    · exact Nat.lt_succ_of_lt (crowded.slots slot old)
  · intro slot inside
    rcases takes.clears.flags (GuestProcess.slotPage slot) with kept | ⟨_, _, fresh⟩
    · rw [GuestProcess.SlotPageReady, kept]
      exact crowded.pages slot inside
    · exact .inr fresh

/-- Then a handle is opened, or the thread is taken back. -/
theorem run_newThread (crowded : Crowded machine pid process count)
    (few : count < GuestProcess.tlsCapacity) (core : CoreIndex) (entry : Address)
    (argument : UInt64) (stackTop : Address) {priority : UInt32}
    {level : Priority} (valid : Priority.ofWord priority = .ok level) :
    ∃ id thread holder made, holder.handles = process.handles ∧
      Crowded made pid holder (count + 1) ∧
      Service.newThread core entry argument stackTop priority 0 machine =
        match holder.addHandle (.thread id) with
        | .ok (handle, after) => .ok handle (made.mapOs (·.modifyProcess pid fun _ => after))
        | .error e => .error e (made.mapOs (·.destroyThread thread)) := by
  obtain ⟨id, thread, holder, made, memory, create, found, same, more⟩ :=
    crowded.createThread few entry argument stackTop valid
  refine ⟨id, thread, holder, { board := { machine.board with memory }, os := made }, same, more,
    ?_⟩
  have runs := KernelM.run_createThread process entry argument stackTop priority 0 machine
  rw [create] at runs
  cases crowded.hosts.number
  have core0 : (if (0 : Int32) = Service.processDefaultCore then process.idealCore else 0) = 0 :=
    if_neg (by decide)
  rw [Service.newThread, KernelM.ask_bind_of_ok valid,
    KernelM.ask_bind_of_ok (crowded.hosts.currentProcess_eq core)]
  dsimp only
  rw [core0, Operation.bind_of_ok runs, Operation.get_bind]
  dsimp only
  rw [more.hosts.find, found]
  dsimp only
  rw [KernelM.run_undoneBy (KernelM.onProcess_atomic _ _ (ProcessM.addHandle_atomic _)),
    KernelM.run_addHandle, more.hosts.number]
  cases holder.addHandle (.thread id) <;> rfl

theorem modifyHandles (crowded : Crowded machine pid process count) {handles : HandleTable}
    (wellFormed : handles.WellFormed) :
    Crowded (machine.mapOs (·.modifyProcess pid fun _ => { process with handles })) pid
      { process with handles } count where
  hosts := crowded.hosts.modifyProcess (f := fun _ => _) crowded.hosts.number wellFormed
  onCore := crowded.onCore
  threads := crowded.threads
  slots := crowded.slots
  pages := crowded.pages

end Kernel.Crowded

/-- A thread asks for another one on the first core. -/
def requestThread : ThreadContext :=
  { registers := (({} : RegisterFile).setXzr 1 0x8000000).setXzr 4 44 }

theorem reply_requestThread (machine : Machine Kernel) :
    (Kernel.reply 0 Service.createThread.number requestThread.registers.xzr).run machine =
      (Reply.value (do
        let handle ← Service.newThread 0 0x8000000 0 0 44 0
        return handle.toUInt64)).run machine := rfl

/-- One more request opens one more handle, if there is room for it. -/
theorem Kernel.Crowded.request {machine : Machine Kernel} {pid : ProcessId} {process : GuestProcess}
    {count : Nat} (crowded : Crowded machine pid process count)
    (few : count < GuestProcess.tlsCapacity) (room : process.handles.size < HandleTable.capacity) :
    ∃ process',
      Crowded ((KernelStep.call 0 Service.createThread.number requestThread).perform machine) pid
        process' (count + 1) ∧ process'.handles.size = process.handles.size + 1 := by
  obtain ⟨id, thread, holder, made, same, more, runs⟩ := crowded.run_newThread few 0 0x8000000 0 0
    (show Priority.ofWord 44 = .ok ⟨44, by decide⟩ from rfl)
  have gives := Kernel.serviceCall_gives 0 Service.createThread.number
    { context := requestThread, env := machine }
  obtain ⟨handle, handles, added, _⟩ := HandleTable.add_of_room crowded.hosts.handles room
    (.thread id)
  obtain ⟨_, entries, wellFormed⟩ := HandleTable.add_eq_ok crowded.hosts.handles added
  have opened : holder.addHandle (.thread id) = .ok (handle, { holder with handles }) := by
    rw [GuestProcess.addHandle_eq, same, added]
    rfl
  rw [opened] at runs
  refine ⟨{ holder with handles }, ?_, congrArg List.length entries⟩
  rw [KernelStep.perform, gives]
  change Crowded ((Kernel.reply 0 Service.createThread.number requestThread.registers.xzr).run
    machine).2 pid _ _
  rw [reply_requestThread, Reply.run, Operation.bind_of_ok runs]
  exact more.modifyHandles wellFormed

/-- The host does nothing but to let threads be requested. -/
def requests (count : Nat) : List KernelStep :=
  List.replicate count (.call 0 Service.createThread.number requestThread)

theorem smallApplication_created :
    ({ Kernel.create 1 false none with lines := [] } : Kernel).createApplication smallParams =
      .ok (0x51, smallApplication) := rfl

/-- As many threads are created as handles can be open. -/
theorem Kernel.crowded_requests {count : Nat} (few : count ≤ HandleTable.capacity) :
    ∃ process, Crowded (KernelStep.performAll { board := {}, os := smallApplication }
      (requests count)) 0x51 process count ∧ process.handles.size = count := by
  induction count with
  | zero =>
      obtain ⟨process, hosts, _⟩ := Kernel.createApplication_hosts smallApplication_created
      cases hosts.eq_of_find (show smallApplication.processes.find? 0x51 =
        some (.ofParams 0x51 smallParams) from rfl)
      refine ⟨_, ⟨hosts, rfl, rfl, fun slot used => ?_, fun slot _ => ?_⟩, rfl⟩
      · rw [GuestProcess.usesSlot, GuestProcess.ofParams] at used
        cases used
      · exact .inl (AddressSpace.empty_represents.flags _)
  | succ count ih =>
      obtain ⟨process, crowded, size⟩ := ih (Nat.le_of_succ_le few)
      have fits : count < GuestProcess.tlsCapacity := Nat.lt_of_lt_of_le few (by decide)
      obtain ⟨process', more, size'⟩ := crowded.request fits (by rw [size]; exact few)
      rw [size] at size'
      rw [requests, List.replicate_succ', KernelStep.performAll_append]
      exact ⟨process', more, size'⟩

/-- If all handles are open, the thread is taken back. -/
theorem Kernel.Crowded.refused {machine : Machine Kernel} {pid : ProcessId} {process : GuestProcess}
    {count : Nat} (crowded : Crowded machine pid process count)
    (few : count < GuestProcess.tlsCapacity) (full : process.handles.size = HandleTable.capacity) :
    ∃ left, (Kernel.reply 0 Service.createThread.number requestThread.registers.xzr).run machine =
        (.refused .resourceLimit, left) ∧
      left.os.threads.slots.size = count + 1 := by
  obtain ⟨id, thread, holder, made, same, more, runs⟩ := crowded.run_newThread few 0 0x8000000 0 0
    (show Priority.ofWord 44 = .ok ⟨44, by decide⟩ from rfl)
  have refused : holder.addHandle (.thread id) = .error .resourceLimit := by
    rw [GuestProcess.addHandle_eq, HandleTable.add_eq, same, if_pos (Nat.le_of_eq full.symm)]
    rfl
  rw [refused] at runs
  refine ⟨made.mapOs (·.destroyThread thread), ?_, ?_⟩
  · rw [reply_requestThread, Reply.run, Operation.bind_of_error runs]
  · exact (Kernel.size_destroyThread made.os thread).trans more.threads

end GuestMachine
