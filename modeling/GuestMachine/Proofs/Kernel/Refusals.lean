import GuestMachine.Proofs.Kernel.ThreadRequests

/-! # Refused calls

A supervisor call that is refused leaves the machine as it was. Creating a
thread is the only call that can fail halfway, with the thread made and no room
for a handle to it; then the thread is taken back.
-/

namespace GuestMachine

open A64

namespace KernelM

variable {α β : Type}

/-- What is asked for first changes nothing. -/
theorem ask_bind_eq_error {f : Kernel → Except KernelError α} {next : α → KernelM β}
    {machine after : Machine Kernel} {e : KernelError}
    (refused : (ask f >>= next) machine = .error e after) :
    after = machine ∨ ∃ a, f machine.os = .ok a ∧ next a machine = .error e after := by
  rcases Operation.bind_eq_error refused with stopped | ⟨a, middle, asked, later⟩
  · exact .inl (ask_atomic f machine e after stopped)
  · rw [ask] at asked
    split at asked
    · rename_i accepted
      cases asked
      exact .inr ⟨a, accepted, later⟩
    · cases asked

theorem map_eq_error {action : KernelM α} {f : α → β} {machine after : Machine Kernel}
    {e : KernelError} (refused : (do let a ← action; return f a) machine = .error e after) :
    action machine = .error e after := by
  rcases Operation.bind_eq_error refused with stopped | ⟨_, _, _, later⟩
  · exact stopped
  · cases later

theorem ask_bind_atomic {f : Kernel → Except KernelError α} {next : α → KernelM β}
    (atomic : ∀ a, Operation.Atomic (next a)) : Operation.Atomic (ask f >>= next) := by
  intro machine e after refused
  rcases ask_bind_eq_error refused with same | ⟨a, _, later⟩
  · exact same
  · exact atomic a machine e after later

end KernelM

theorem CpuManager.setMonitor_monitorOf? {manager : CpuManager} {handle : MonitorHandle}
    {monitor : ExclusiveMonitor} (known : manager.monitorOf? handle = some monitor) :
    manager.setMonitor monitor = manager := by
  rw [monitorOf?] at known
  split at known
  · obtain ⟨⟨serial, _⟩, live, rfl⟩ := Option.map_eq_some_iff.mp known
    rw [setMonitor, live]
    cases manager
    cases live
    rfl
  · cases known

namespace ExclusiveMonitor

theorem externalStore_stored (monitor : ExclusiveMonitor) (memory : AddressSpace) (addr : Address)
    (size : UInt64) (store : AddressSpace → Bool × AddressSpace) :
    (monitor.externalStore memory addr size store).1 = (store memory).1 := by
  simp only [externalStore, storeAndBreak]
  split <;> rfl

theorem externalStore_refused (monitor : ExclusiveMonitor) (memory : AddressSpace) (addr : Address)
    (size : UInt64) (store : AddressSpace → Bool × AddressSpace)
    (refused : store memory = (false, memory)) :
    monitor.externalStore memory addr size store = (false, memory, monitor) := by
  simp [externalStore, storeAndBreak, refused]

end ExclusiveMonitor

namespace Board

theorem storeThrough_stored (board : Board) (handle : Option MonitorHandle)
    {guarded : ExclusiveMonitor → Bool × AddressSpace × ExclusiveMonitor}
    {direct : Bool × AddressSpace} (same : ∀ monitor, (guarded monitor).1 = direct.1) :
    (board.storeThrough handle guarded direct).1 = direct.1 := by
  rw [storeThrough]
  split
  · exact same _
  · rfl

theorem storeThrough_refused (board : Board) (handle : Option MonitorHandle)
    {guarded : ExclusiveMonitor → Bool × AddressSpace × ExclusiveMonitor}
    (refused : ∀ monitor, guarded monitor = (false, board.memory, monitor)) :
    board.storeThrough handle guarded (false, board.memory) = (false, board) := by
  rw [storeThrough]
  split
  · rename_i monitor known
    obtain ⟨handle, _, known⟩ := Option.bind_eq_some_iff.mp known
    simp only [refused, CpuManager.setMonitor_monitorOf? known]
  · rfl

theorem externalStore_stored (board : Board) (handle : Option MonitorHandle) (addr : Address)
    (data : List UInt8) :
    (board.externalStore handle addr data).1 = (board.memory.writeBlock addr data).1 := by
  have stored := board.storeThrough_stored handle fun monitor =>
    monitor.externalStore_stored board.memory addr (UInt64.ofNat data.length)
      fun memory => memory.writeBlock addr data
  rw [externalStore]
  dsimp only
  split <;> exact stored

theorem externalStore_refused {board : Board} {handle : Option MonitorHandle} {addr : Address}
    {data : List UInt8} (refused : (board.externalStore handle addr data).1 = false) :
    (board.externalStore handle addr data).2 = board := by
  rw [externalStore_stored] at refused
  have unwritten : board.memory.writeBlock addr data = (false, board.memory) :=
    Prod.ext refused (AddressSpace.writeBlock_refused (Prod.ext refused rfl))
  have through := board.storeThrough_refused handle fun monitor =>
    monitor.externalStore_refused board.memory addr (UInt64.ofNat data.length)
      (fun memory => memory.writeBlock addr data) unwritten
  simp only [externalStore, unwritten, through]
  rfl

end Board

theorem Machine.writeGuest_refused {machine after : Machine Kernel} {addr : Address}
    {data : List UInt8} (refused : machine.writeGuest addr data = (false, after)) :
    after = machine := by
  have same := Board.externalStore_refused (congrArg Prod.fst refused)
  rw [writeGuest, onBoard] at refused
  dsimp only at refused
  rw [same] at refused
  exact (congrArg Prod.snd refused).symm

namespace Service

variable {core : CoreIndex}

open Operation (Atomic)
open KernelM

theorem resizeHeap_atomic (size : UInt64) : Atomic (resizeHeap core size) :=
  ask_bind_atomic fun process => (onKernelMemory_atomic (KernelMemoryM.onProcess_atomic process
    (ProcessMemoryM.setHeapSize_atomic size))).map _

theorem describeMemory_atomic (buffer addr : Address) : Atomic (describeMemory buffer addr) := by
  intro machine e after refused
  rw [describeMemory] at refused
  split at refused
  · cases refused
  · rename_i unwritten
    cases refused
    exact Machine.writeGuest_refused unwritten

theorem start_atomic (handle : Handle) : Atomic (start core handle) :=
  ask_bind_atomic fun thread => onKernel_atomic (KernelStateM.startThread_atomic thread)

theorem threadPriority_atomic (handle : Handle) : Atomic (threadPriority core handle) :=
  (ask_atomic _).map _

theorem changePriority_atomic (handle : Handle) (priority : UInt32) :
    Atomic (changePriority core handle priority) := by
  refine ask_bind_atomic fun _ => ask_bind_atomic fun thread => ?_
  dsimp only
  split
  · exact (onKernel_atomic (KernelStateM.setPriority_atomic thread priority)).bind_accepted
      fun _ => update_accepted _
  · exact (update_accepted _).atomic

theorem close_atomic (handle : Handle) : Atomic (close core handle) := by
  refine ask_bind_atomic fun process => (onProcess_atomic _ process ?_).bind_accepted fun _ =>
    update_accepted _
  exact (ProcessM.closeHandle_atomic handle).bind_accepted fun _ =>
    Operation.get_accepted.bind fun _ => Operation.pure_accepted _

theorem processNumber_atomic (handle : Handle) : Atomic (processNumber core handle) :=
  (ask_atomic _).map _

theorem threadNumber_atomic (handle : Handle) : Atomic (threadNumber core handle) :=
  (ask_atomic _).map _

theorem readMessage_atomic (addr : Address) (length : UInt64) :
    Atomic (readMessage addr length) := by
  intro machine e after refused
  rw [readMessage] at refused
  split at refused
  · cases refused
  · cases refused
    rfl

theorem information_atomic (number : UInt32) (handle : Handle) (index : UInt64) :
    Atomic (information core number handle index) := by
  refine ask_bind_atomic fun process machine e after refused => ?_
  have asks := ask_atomic fun _ =>
    InfoKind.ask number process machine.board.memory index
  exact asks machine e after refused

end Service

/-- A thread of `process` was created and taken back. Its number is used up, and
    the slot that was its own may still be mapped and hold zeros. -/
structure GuestProcess.TakesBack (process : GuestProcess) (before after : Machine Kernel) :
    Prop where
  kernel : after.os =
    { before.os with processes := after.os.processes, threads := after.os.threads }
  processes : ∃ tlsSlots,
    (∀ slot, { process with tlsSlots }.usesSlot slot = process.usesSlot slot) ∧
    ∀ pid, after.os.processes.get? pid =
      (before.os.processes.get? pid).map fun process => { process with tlsSlots }
  listed : ∀ id, after.os.threads.get? id = before.os.threads.get? id
  /-- Also of a thread that is not listed any more. -/
  threads : ∀ id thread, before.os.threads.find? id = some thread →
    after.os.threads.find? id = some thread
  board : after.board = { before.board with memory := after.board.memory }
  memory : ∃ slot, process.usesSlot slot = false ∧
    before.board.memory.ClearsSlot after.board.memory slot

theorem GuestProcess.removeThread_addThread {process : GuestProcess} {id : ThreadId}
    (fresh : id ∉ process.threads) : (process.addThread id).removeThread id = process := by
  have kept : (process.threads ++ [id]).filter (· != id) = process.threads := by
    have others : ∀ other ∈ process.threads, (other != id) = true := by
      intro other member
      exact bne_iff_ne.mpr fun same => fresh (same ▸ member)
    rw [List.filter_append, List.filter_eq_self.mpr others]
    simp
  rw [removeThread, addThread]
  dsimp only
  rw [kept]

theorem GuestProcess.freeTls_addThread (process : GuestProcess) (id : ThreadId) (addr : Address) :
    (process.addThread id).freeTls addr = (process.freeTls addr).addThread id := by
  simp only [freeTls]
  split <;> rfl

namespace Kernel

variable {kernel : Kernel} {pid : ProcessId} {process : GuestProcess}

theorem Hosts.get?_other (hosts : kernel.Hosts pid process) {other : ProcessId}
    (different : other ≠ pid) : kernel.processes.get? other = none := by
  refine Option.eq_none_iff_forall_ne_some.mpr fun process' known => different ?_
  exact hosts.alone other process' (ObjectTable.get?_eq_some_iff.mp known).2

/-- A number that stands for no thread yet is on no list. -/
theorem not_mem_threads_of_fresh {id : ThreadId}
    (consistent : (kernel.threadRecord process id).Consistent)
    (fresh : kernel.threads.find? id = none) : id ∉ process.threads := by
  intro member
  obtain ⟨_, thread, known, _⟩ :=
    consistent.listed_of_owned (List.count_pos_iff.mpr member).ne'
  cases known.symm.trans fresh

/-- What is left of a thread that is destroyed as soon as it is created. -/
theorem destroyThread_of_created {held : GuestProcess} {id : ThreadId} {thread : GuestThread}
    {made : Kernel}
    (inserted : made = ({ kernel with threads := kernel.threads.insert thread } :
      Kernel).modifyProcess pid fun _ => held.addThread id)
    (hosts : made.Hosts pid process) (number : thread.id = id) (owner : thread.processId = pid) :
    made.destroyThread thread =
      { kernel with
        processes := (kernel.processes.modify pid fun _ => held.addThread id).modify pid
          fun process => (process.freeTls thread.tlsAddress).removeThread id
        threads := (kernel.threads.insert thread).remove id } := by
  rw [destroyThread, forgetThread, owner, hosts.modifyListed, inserted, number]
  rfl

theorem Hosts.takesBack {board : Board} (hosts : kernel.Hosts pid process)
    (room : kernel.threads.slots.size < 2 ^ 64)
    (unlisted : kernel.threads.nextId ∉ process.threads)
    {entry : Address} {argument : UInt64} {stackTop : Address} {priority : UInt32}
    {idealCore : Int32} {id : ThreadId} {made : Kernel} {thread : GuestThread}
    {memory : AddressSpace}
    (create : kernel.createThread board.memory process entry argument stackTop priority idealCore =
      .ok (id, made, memory))
    (known : made.threads.find? id = some thread) :
    process.TakesBack { board, os := kernel }
      { board := { board with memory }, os := made.destroyThread thread } := by
  obtain ⟨_, _, created⟩ := hosts.created ⟨_, _, _, _, _, _, _, create⟩
  obtain ⟨slot, held, params, takes, _, owner, tls, rfl, rfl⟩ := createThread_eq_ok create
  have fresh : kernel.threads.find? kernel.threads.nextId = none := ObjectTable.find?_nextId room
  obtain ⟨tlsSlots, freed, uses⟩ := takes.freed
  have left : ((held.addThread kernel.threads.nextId).freeTls
      (GuestProcess.tlsAddress slot)).removeThread kernel.threads.nextId =
        { process with tlsSlots } := by
    rw [GuestProcess.freeTls_addThread, freed]
    exact GuestProcess.removeThread_addThread unlisted
  have last : (kernel.threads.insert (.ofParams kernel.threads.nextId params)).find?
      kernel.threads.nextId = some (.ofParams kernel.threads.nextId params) := by
    rw [ObjectTable.find?_insert room, if_pos rfl]
  cases known.symm.trans last
  cases hosts.number
  rw [destroyThread_of_created rfl created.hosts rfl owner]
  refine ⟨rfl, ⟨tlsSlots, uses, fun other => ?_⟩, fun other => ?_, ?_, rfl, slot, takes.free,
    takes.clears⟩
  · dsimp only
    rw [ObjectTable.get?_modify, ObjectTable.get?_modify, if_pos rfl, GuestThread.ofParams, tls]
    by_cases same : other = process.pid
    · rw [if_pos same, same, hosts.found]
      exact congrArg some left
    · rw [if_neg same, ObjectTable.get?_modify, if_neg same, hosts.get?_other same]
      rfl
  · dsimp only
    rw [ObjectTable.get?_remove, ObjectTable.get?_insert room]
    split
    · rename_i same
      rw [same, ObjectTable.get?_eq_ite, fresh, ite_self]
    · rfl
  · intro other thread earlier
    have old : other ≠ kernel.threads.nextId := by
      rintro rfl
      cases fresh.symm.trans earlier
    dsimp only
    rw [ObjectTable.find?_remove, ObjectTable.find?_insert room, if_neg old]
    exact earlier

end Kernel

theorem Service.newThread_refused {core : CoreIndex} {machine after : Machine Kernel}
    {pid : ProcessId} {process : GuestProcess} (hosts : machine.os.Hosts pid process)
    (room : machine.os.threads.slots.size < 2 ^ 64)
    (consistent : (machine.os.threadRecord process machine.os.threads.nextId).Consistent)
    {entry : Address} {argument : UInt64} {stackTop : Address} {priority : UInt32}
    {idealCore : Int32} {e : KernelError}
    (refused : newThread core entry argument stackTop priority idealCore machine = .error e after) :
    after = machine ∨ process.TakesBack machine after := by
  rcases KernelM.ask_bind_eq_error refused with same | ⟨_, _, refused⟩
  · exact .inl same
  rcases KernelM.ask_bind_eq_error refused with same | ⟨_, found, refused⟩
  · exact .inl same
  cases hosts.currentProcess found
  dsimp only at refused
  generalize (if idealCore = processDefaultCore then process.idealCore else idealCore) = ideal
    at refused
  have runs := KernelM.run_createThread process entry argument stackTop priority ideal machine
  split at runs
  · rename_i id os memory create
    obtain ⟨thread, held, known⟩ := hosts.created ⟨_, _, _, _, _, _, _, create⟩
    -- Nobody had the number of the thread, so no list has it either.
    have unlisted := Kernel.not_mem_threads_of_fresh consistent (ObjectTable.find?_nextId room)
    cases hosts.number
    rw [Operation.bind_of_ok runs, Operation.get_bind] at refused
    dsimp only at refused
    rw [known.object room, known.hosts.find] at refused
    dsimp only at refused
    rw [KernelM.run_undoneBy (KernelM.onProcess_atomic _ _ (ProcessM.addHandle_atomic _)),
      KernelM.run_addHandle] at refused
    cases opens : held.addHandle (.thread id) with
    | ok added =>
        rw [opens] at refused
        cases refused
    | error e =>
        rw [opens] at refused
        cases refused
        exact .inr (hosts.takesBack room unlisted create (known.object room))
  · rw [Operation.bind_of_error runs] at refused
    cases refused
    exact .inl rfl

namespace Reply

/-- A call that is refused has done nothing. -/
def Atomic (reply : Reply) : Prop :=
  ∀ machine e, (reply.run machine).1 = .refused e → (reply.run machine).2 = machine

theorem status_atomic {action : KernelM Unit} (atomic : Operation.Atomic action) :
    (status action).Atomic := by
  intro machine e refused
  rw [run] at refused ⊢
  cases acted : action machine with
  | ok _ after =>
      rw [acted] at refused
      cases refused
  | error e' after => exact atomic machine e' after acted

theorem value_eq_refused {action : KernelM UInt64} {machine : Machine Kernel} {e : KernelError}
    (refused : ((value action).run machine).1 = .refused e) :
    action machine = .error e ((value action).run machine).2 := by
  rw [run] at refused ⊢
  cases acted : action machine with
  | ok _ after =>
      rw [acted] at refused
      cases refused
  | error e' after =>
      rw [acted] at refused
      cases refused
      rfl

theorem value_atomic {action : KernelM UInt64} (atomic : Operation.Atomic action) :
    (value action).Atomic :=
  fun machine e refused => atomic machine e _ (value_eq_refused refused)

theorem number_atomic (read : Machine Kernel → UInt64) : (number read).Atomic :=
  fun _ _ _ => rfl

theorem silent_atomic (change : Machine Kernel → Machine Kernel) : (silent change).Atomic := by
  intro machine e refused
  cases refused

end Reply

namespace Service

theorem reply_atomic (core : CoreIndex) (x : RegNum → UInt64) {service : Service}
    (other : service ≠ createThread) : (service.reply core x).Atomic := by
  cases service with
  | createThread => contradiction
  | setHeapSize => exact Reply.value_atomic (resizeHeap_atomic _)
  | queryMemory => exact Reply.value_atomic ((describeMemory_atomic _ _).map _)
  | exitProcess => exact Reply.silent_atomic _
  | startThread => exact Reply.status_atomic (start_atomic _)
  | exitThread => exact Reply.silent_atomic _
  | sleepThread => exact Reply.silent_atomic _
  | getThreadPriority => exact Reply.value_atomic (threadPriority_atomic _)
  | setThreadPriority => exact Reply.status_atomic (changePriority_atomic _ _)
  | getCurrentProcessorNumber => exact Reply.number_atomic _
  | closeHandle => exact Reply.status_atomic (close_atomic _)
  | getSystemTick => exact Reply.number_atomic _
  | getProcessId => exact Reply.value_atomic (processNumber_atomic _)
  | getThreadId => exact Reply.value_atomic (threadNumber_atomic _)
  | «break» =>
      rw [reply]
      split
      · refine Reply.status_atomic fun _ _ _ refused => ?_
        cases refused
      · exact Reply.silent_atomic _
  | outputDebugString => exact Reply.status_atomic (readMessage_atomic _ _)
  | getInfo => exact Reply.value_atomic (information_atomic _ _ _)

end Service

/-- What a refused call leaves of the machine. -/
theorem Kernel.reply_refused {core : CoreIndex} {number : UInt32} {x : RegNum → UInt64}
    {machine : Machine Kernel} {pid : ProcessId} {process : GuestProcess}
    (hosts : machine.os.Hosts pid process) (room : machine.os.threads.slots.size < 2 ^ 64)
    (consistent : (machine.os.threadRecord process machine.os.threads.nextId).Consistent)
    {e : KernelError} (refused : ((Kernel.reply core number x).run machine).1 = .refused e) :
    ((Kernel.reply core number x).run machine).2 = machine ∨
      number = Service.createThread.number ∧
        process.TakesBack machine ((Kernel.reply core number x).run machine).2 := by
  rw [Kernel.reply] at refused ⊢
  cases found : Service.ofNumber? number with
  | none => exact .inl rfl
  | some service =>
      rw [found] at refused
      by_cases creates : service = .createThread
      · cases creates
        have stopped := KernelM.map_eq_error (Reply.value_eq_refused refused)
        have left := Service.newThread_refused hosts room consistent stopped
        exact left.imp_right fun undone => ⟨(Service.number_of_ofNumber? found).symm, undone⟩
      · exact .inl (Service.reply_atomic core x creates machine e refused)

/-- Take any steps with a new application, and let a core make a supervisor call
    then. If the call has a result code and this is not zero, the machine is as
    it was, but for what is left of a thread that was created and taken back.
    Thread numbers must not have run out. -/
theorem serviceCall_refused {cores : Nat} {traceCalls : Bool} {monitor : Option MonitorHandle}
    {lines : List Nat} {params : ProcessParams} {pid : ProcessId} {kernel : Kernel}
    (created : ({ Kernel.create cores traceCalls monitor with lines } : Kernel).createApplication
      params = .ok (pid, kernel))
    (board : Board) (steps : List KernelStep) {machine : Machine Kernel}
    (reached : KernelStep.performAll { board, os := kernel } steps = machine)
    (room : machine.os.threads.slots.size < 2 ^ 64) (core : CoreIndex) (number : UInt32)
    (context : ThreadContext) {after : Cpu (Machine Kernel)}
    (called : Kernel.serviceCall core number { context, env := machine } = .ok () after)
    (coded : ((Kernel.reply core number context.registers.xzr).run machine).1.isCoded)
    (failed : (after.context.registers.xzr 0).toUInt32 ≠ 0) :
    after.env = machine ∨
      number = Service.createThread.number ∧
        ∃ process, machine.os.applicationProcess? = some process ∧
          process.TakesBack machine after.env := by
  obtain ⟨start, hosts, consistent⟩ := Kernel.createApplication_hosts created
  obtain ⟨process, carried⟩ := KernelStep.performAll_carries steps { board, os := kernel } start hosts
  rw [reached] at carried
  have fresh := (carried.leads (Nat.le_of_lt room) _ (consistent machine.os.threads.nextId)).1
  have gives := Kernel.serviceCall_gives core number { context, env := machine }
  cases gives.symm.trans called
  have told := ((Kernel.reply core number context.registers.xzr).run machine).1.tell_follows context
  cases answer : ((Kernel.reply core number context.registers.xzr).run machine).1 with
  | refused e =>
      refine (Kernel.reply_refused carried.hosts room fresh answer).imp_right ?_
      rintro ⟨number, undone⟩
      exact ⟨number, process, carried.hosts.applicationProcess?_eq, undone⟩
  | _ => exact absurd ((told.success coded).mpr (by simp [answer])) failed

/-- With all handles open one more thread is created and taken back. -/
theorem serviceCall_refused_fullTable :
    ∃ process after, (KernelStep.performAll { board := {}, os := smallApplication }
        (requests HandleTable.capacity)).os.applicationProcess? = some process ∧
      Kernel.serviceCall 0 Service.createThread.number
        { context := requestThread
          env := KernelStep.performAll { board := {}, os := smallApplication }
            (requests HandleTable.capacity) } = .ok () after ∧
      (after.context.registers.xzr 0).toUInt32 = ResultCode.outOfResource.raw ∧
      after.env.os.threads.slots.size = HandleTable.capacity + 1 ∧
      process.TakesBack (KernelStep.performAll { board := {}, os := smallApplication }
        (requests HandleTable.capacity)) after.env := by
  obtain ⟨process, crowded, full⟩ := Kernel.crowded_requests (Nat.le_refl HandleTable.capacity)
  generalize reached : KernelStep.performAll { board := {}, os := smallApplication }
    (requests HandleTable.capacity) = machine at crowded ⊢
  obtain ⟨left, answered, more⟩ := crowded.refused (by decide) full
  have gives := Kernel.serviceCall_gives 0 Service.createThread.number
    { context := requestThread, env := machine }
  rw [Service.Gives, answered] at gives
  have application := crowded.hosts.applicationProcess?_eq
  have code : (((Answer.refused .resourceLimit).tell requestThread).registers.xzr 0).toUInt32 =
      ResultCode.outOfResource.raw := by decide +kernel
  refine ⟨process, _, application, gives, code, more, ?_⟩
  have room : machine.os.threads.slots.size < 2 ^ 64 := by
    rw [crowded.threads]
    decide
  rcases serviceCall_refused smallApplication_created {} (requests HandleTable.capacity) reached
    room 0 _ requestThread gives (by rw [answered]; rfl) (by rw [code]; decide) with
    unchanged | ⟨_, _, found, undone⟩
  · have fewer : left = machine := unchanged
    rw [fewer, crowded.threads] at more
    exact absurd more (Nat.ne_of_lt (Nat.lt_succ_self _))
  · cases found.symm.trans application
    exact undone

end GuestMachine
