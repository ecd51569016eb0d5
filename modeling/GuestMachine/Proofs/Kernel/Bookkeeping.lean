import GuestMachine.Proofs.Kernel.ThreadLocals
import GuestMachine.Proofs.Kernel.ThreadRecords

/-! # Thread bookkeeping of the kernel operations

Each operation that touches one of the five tables is followed through all of
them, so that the records of the threads stay consistent. Undoing half of an
operation is no operation of its own: it only makes up for what went before.
-/

namespace GuestMachine

theorem Priority.toWord_of_ofWord {priority : UInt32} {level : Priority}
    (valid : Priority.ofWord priority = .ok level) : level.toWord = priority := by
  simp only [Priority.ofWord, Priority.ofWord?] at valid
  split at valid
  · rename_i within
    split at within
    · cases within
      cases valid
      exact UInt32.ofNat_toNat
    · cases within
  · cases valid

namespace Kernel

variable {kernel after : Kernel} {pid : ProcessId} {process : GuestProcess} {thread : GuestThread}
  {id : ThreadId}

/-- The record of one thread changes, and no other. -/
def Alters (id : ThreadId) (change : ThreadRecord → ThreadRecord)
    (before after : ThreadId → ThreadRecord) : Prop :=
  ∀ id', after id' = if id' = id then change (before id) else before id'

theorem Alters.self {change : ThreadRecord → ThreadRecord} {before after : ThreadId → ThreadRecord}
    (alters : Alters id change before after) : after id = change (before id) :=
  (alters id).trans (if_pos rfl)

theorem Alters.trans {change change' : ThreadRecord → ThreadRecord}
    {first second third : ThreadId → ThreadRecord} (step : Alters id change first second)
    (next : Alters id change' second third) :
    Alters id (fun record => change' (change record)) first third := by
  intro id'
  rw [next, step.self, step]
  split <;> rfl

theorem Alters.leads {change : ThreadRecord → ThreadRecord} {before after : ThreadId → ThreadRecord}
    (alters : Alters id change before after) (leads : (before id).Leads (change (before id)))
    (id' : ThreadId) : (before id').Leads (after id') := by
  rw [alters]
  split
  · rename_i same
    rwa [same]
  · exact .refl _

section

variable (kernel process)

theorem modifyThread_alters (id : ThreadId) (f : GuestThread → GuestThread) :
    Alters id (fun record => { record with object := record.object.map f })
      (kernel.threadRecord process) ((kernel.modifyThread id f).threadRecord process) := by
  intro id'
  simp only [threadRecord, modifyThread, ObjectTable.find?_modify, ObjectTable.isListed_modify]
  by_cases same : id' = id
  · simp [same]
  · simp [same]

theorem removeThread_alters (id : ThreadId) :
    Alters id (fun record => { record with listed := false }) (kernel.threadRecord process)
      (({ kernel with threads := kernel.threads.remove id } : Kernel).threadRecord process) := by
  intro id'
  simp only [threadRecord, ObjectTable.find?_remove, ObjectTable.isListed_remove]
  by_cases same : id' = id
  · simp [same]
  · simp [same]

theorem insertThread_alters (room : kernel.threads.slots.size < 2 ^ 64) (thread : GuestThread) :
    Alters kernel.threads.nextId
      (fun record => { record with object := some thread, listed := true })
      (kernel.threadRecord process)
      (({ kernel with threads := kernel.threads.insert thread } : Kernel).threadRecord process) := by
  intro id'
  simp only [threadRecord, ObjectTable.find?_insert room, ObjectTable.isListed_insert room]
  by_cases same : id' = kernel.threads.nextId
  · simp [same]
  · simp [same]

theorem unschedule_alters (id : ThreadId) :
    Alters id (fun record => { record with level := none }) (kernel.threadRecord process)
      (({ kernel with scheduler := (kernel.scheduler.remove id).2 } : Kernel).threadRecord
        process) := by
  intro id'
  simp only [threadRecord, Scheduler.priority?_remove]
  by_cases same : id' = id
  · simp [same]
  · simp [same]

theorem own_alters (id : ThreadId) :
    Alters id (fun record => { record with owned := record.owned + 1 })
      (kernel.threadRecord process) (kernel.threadRecord (process.addThread id)) := by
  intro id'
  simp only [threadRecord, GuestProcess.addThread, List.count_append, List.count_singleton]
  by_cases same : id' = id
  · simp [same]
  · simp [same, Ne.symm same]

theorem disown_alters (id : ThreadId) :
    Alters id (fun record => { record with owned := 0 })
      (kernel.threadRecord process) (kernel.threadRecord (process.removeThread id)) := by
  intro id'
  simp only [threadRecord, GuestProcess.removeThread]
  by_cases same : id' = id
  · subst same
    simp [List.count_eq_zero]
  · simp [same, List.count_filter]

end

/-- The application goes on from `process` to `process'`, no thread is lost,
    and unless thread numbers have run out every record leads to the next. -/
structure Carried (pid : ProcessId) (before : Kernel) (process : GuestProcess) (after : Kernel)
    (process' : GuestProcess) : Prop where
  hosts : after.Hosts pid process'
  size : before.threads.slots.size ≤ after.threads.slots.size
  leads : after.threads.slots.size ≤ 2 ^ 64 →
    ∀ id, (before.threadRecord process id).Leads (after.threadRecord process' id)

/-- Whatever the application before, there is one after that it carries over to. -/
def Carries (pid : ProcessId) (before after : Kernel) : Prop :=
  ∀ process, before.Hosts pid process → ∃ process', Carried pid before process after process'

theorem Carried.trans {middle : Kernel} {process' process'' : GuestProcess}
    (first : Carried pid kernel process middle process')
    (next : Carried pid middle process' after process'') :
    Carried pid kernel process after process'' where
  hosts := next.hosts
  size := first.size.trans next.size
  leads room id := (first.leads (next.size.trans room) id).trans (next.leads room id)

theorem Carries.refl (kernel : Kernel) : Carries pid kernel kernel :=
  fun process hosts => ⟨process, hosts, Nat.le_refl _, fun _ _ => .refl _⟩

theorem Carries.trans {middle : Kernel} (first : Carries pid kernel middle)
    (next : Carries pid middle after) : Carries pid kernel after := by
  intro process hosts
  obtain ⟨process', carried⟩ := first process hosts
  obtain ⟨process'', carried'⟩ := next process' carried.hosts
  exact ⟨process'', carried.trans carried'⟩

theorem Carried.andThen {middle : Kernel} {process' : GuestProcess}
    (first : Carried pid kernel process middle process') (next : Carries pid middle after) :
    ∃ process'', Carried pid kernel process after process'' := by
  obtain ⟨process'', carried⟩ := next process' first.hosts
  exact ⟨process'', first.trans carried⟩

/-- Nothing that is on record changes. -/
theorem Carries.of_same (application : after.application = kernel.application)
    (processes : after.processes = kernel.processes) (threads : after.threads = kernel.threads)
    (priorities : ∀ id, after.scheduler.priority? id = kernel.scheduler.priority? id) :
    Carries pid kernel after := by
  intro process hosts
  refine ⟨process, ?_, ?_, ?_⟩
  · constructor
    · rw [application]
      exact hosts.application
    · rw [processes]
      exact hosts.found
    · exact hosts.number
    · rw [processes]
      exact hosts.alone
    · rw [threads]
      exact hosts.own
    · exact hosts.handles
  · rw [threads]
  · intro _ id
    apply ThreadRecord.Leads.of_eq
    simp only [threadRecord, threads, priorities]

theorem Hosts.carried_touched (hosts : kernel.Hosts pid process) (id : ThreadId)
    {f : GuestThread → GuestThread} (number : ∀ thread, (f thread).id = thread.id)
    (owner : ∀ thread, (f thread).processId = thread.processId)
    (state : ∀ thread, (f thread).state = thread.state)
    (priority : ∀ thread, (f thread).priority = thread.priority) :
    Carried pid kernel process (kernel.modifyThread id f) process where
  hosts := hosts.modifyThread id number owner
  size := Nat.le_of_eq (ObjectTable.size_modify ..).symm
  leads _ := (modifyThread_alters kernel process id f).leads (.touched state priority)

theorem Hosts.carried_setRegister (hosts : kernel.Hosts pid process) (id : ThreadId) (index : Nat)
    (value : UInt64) :
    Carried pid kernel process (kernel.modifyThread id (·.setRegister index value)) process :=
  hosts.carried_touched id (fun _ => rfl) (fun _ => rfl) (fun _ => rfl) fun _ => rfl

theorem Hosts.carried_modifyProcess (hosts : kernel.Hosts pid process)
    {f : GuestProcess → GuestProcess} (number : (f process).pid = process.pid)
    (handles : (f process).handles = process.handles)
    (threads : (f process).threads = process.threads) :
    Carried pid kernel process (kernel.modifyProcess pid f) (f process) where
  hosts := hosts.modifyProcess (number.trans hosts.number) (by rw [handles]; exact hosts.handles)
  size := Nat.le_refl _
  leads _ id := by
    apply ThreadRecord.Leads.of_eq
    simp only [threadRecord, handles, threads]
    rfl

theorem endApplication_carries (kernel : Kernel) : Carries pid kernel kernel.endApplication := by
  intro process hosts
  let exit (process : GuestProcess) : GuestProcess := { process with state := .exited }
  have carried : Carried pid kernel process (kernel.modifyProcess pid exit) (exit process) :=
    hosts.carried_modifyProcess rfl rfl rfl
  have ended : kernel.endApplication = { kernel.modifyProcess pid exit with exited := true } := by
    rw [endApplication, hosts.application]
  rw [ended]
  exact carried.andThen (.of_same rfl rfl rfl fun _ => rfl)

/-- What a thread is created with is what the scheduler asks of it. -/
structure Startable (params : ThreadParams) : Prop where
  priority : ∃ level, Priority.ofWord params.priority = .ok level
  coreMask : params.coreMask ≠ 0

theorem coreMaskFor_ne_zero {core : Int32} {mask : UInt64}
    (allowed : kernel.coreMaskFor process core = .ok mask) : mask ≠ 0 := by
  simp only [coreMaskFor] at allowed
  split at allowed
  · cases allowed
  · split at allowed
    · cases allowed
    · rename_i shared
      cases allowed
      intro none
      rw [none, UInt64.and_zero] at shared
      exact shared rfl

/-- What a thread is created with. -/
theorem createThread_params {memory memory' : AddressSpace} {entry : Address} {argument : UInt64}
    {stackTop : Address} {priority : UInt32} {idealCore : Int32} {id : ThreadId} {made : Kernel}
    (create : kernel.createThread memory process entry argument stackTop priority idealCore =
      .ok (id, made, memory')) :
    ∃ level coreMask tlsAddress held, Priority.ofWord priority = .ok level ∧
      kernel.coreMaskFor process idealCore = .ok coreMask ∧
      process.allocateTls memory = .ok (tlsAddress, held, memory') ∧
      id = kernel.threads.nextId ∧
      made = ({ kernel with
        threads := kernel.threads.insert (.ofParams kernel.threads.nextId
          { processId := held.pid, entry, argument, stackTop, priority, idealCore, coreMask
            tlsAddress }) } : Kernel).modifyProcess held.pid
              fun _ => held.addThread kernel.threads.nextId := by
  rw [createThread_eq] at create
  obtain ⟨level, valid, create⟩ := exceptBind_eq_ok create
  obtain ⟨coreMask, allowed, create⟩ := exceptBind_eq_ok create
  obtain ⟨⟨tlsAddress, held, _⟩, allocated, create⟩ := exceptBind_eq_ok create
  cases create
  exact ⟨level, coreMask, tlsAddress, held, valid, allowed, allocated, rfl, rfl⟩

theorem createThread_eq_ok {memory memory' : AddressSpace} {entry : Address} {argument : UInt64}
    {stackTop : Address} {priority : UInt32} {idealCore : Int32} {id : ThreadId} {made : Kernel}
    (create : kernel.createThread memory process entry argument stackTop priority idealCore =
      .ok (id, made, memory')) :
    ∃ slot held params, process.TakesSlot memory slot held memory' ∧ Startable params ∧
      params.processId = process.pid ∧ params.tlsAddress = GuestProcess.tlsAddress slot ∧
      id = kernel.threads.nextId ∧
      made = ({ kernel with
        threads := kernel.threads.insert (.ofParams kernel.threads.nextId params) } :
          Kernel).modifyProcess process.pid fun _ => held.addThread kernel.threads.nextId := by
  obtain ⟨level, coreMask, _, held, valid, allowed, allocated, number, made⟩ :=
    createThread_params create
  obtain ⟨slot, rfl, takes⟩ := GuestProcess.TakesSlot.of_allocateTls allocated
  obtain ⟨tlsSlots, rfl⟩ := takes.same
  have startable : Startable
      { processId := process.pid, entry, argument, stackTop, priority, idealCore, coreMask
        tlsAddress := GuestProcess.tlsAddress slot } :=
    ⟨⟨level, valid⟩, coreMaskFor_ne_zero allowed⟩
  exact ⟨slot, _, _, takes, startable, rfl, rfl, number, made⟩

/-- The new thread is found, and so is what became of its process. -/
theorem Hosts.finds_inserted (hosts : kernel.Hosts pid process)
    (room : kernel.threads.slots.size < 2 ^ 64) {held : GuestProcess} {made : Kernel}
    (inserted : made = ({ kernel with threads := kernel.threads.insert thread } :
      Kernel).modifyProcess pid fun _ => held) :
    made.threads.find? kernel.threads.nextId = some thread ∧
      made.processes.find? pid = some held := by
  subst inserted
  constructor
  · exact (ObjectTable.find?_insert room thread _).trans (if_pos rfl)
  · change (kernel.processes.modify pid _).find? pid = _
    rw [ObjectTable.find?_modify, if_pos rfl, hosts.find]
    rfl

theorem Creates.eq {made : Kernel} (creates : kernel.Creates process id made) :
    ∃ params tlsSlots, params.processId = process.pid ∧ id = kernel.threads.nextId ∧
      made = ({ kernel with
        threads := kernel.threads.insert (.ofParams kernel.threads.nextId params) } :
          Kernel).modifyProcess process.pid
            fun _ => { process with tlsSlots }.addThread kernel.threads.nextId := by
  obtain ⟨_, _, _, _, _, _, _, create⟩ := creates
  obtain ⟨_, held, params, takes, _, owner, _, number, rfl⟩ := createThread_eq_ok create
  obtain ⟨tlsSlots, rfl⟩ := takes.same
  exact ⟨params, tlsSlots, owner, number, rfl⟩

theorem Creates.scheduler {made : Kernel} (creates : kernel.Creates process id made) :
    made.scheduler = kernel.scheduler := by
  obtain ⟨_, _, _, _, rfl⟩ := creates.eq
  rfl

/-- A thread was created: a new number stands for a thread not yet started, and
    nothing else is different on record. -/
structure Created (pid : ProcessId) (before : Kernel) (process : GuestProcess) (id : ThreadId)
    (thread : GuestThread) (after : Kernel) (process' : GuestProcess) : Prop where
  hosts : after.Hosts pid process'
  state : thread.state = .created
  size : after.threads.slots.size = before.threads.slots.size + 1
  fresh : before.threads.slots.size < 2 ^ 64 → (before.threadRecord process id).object = none
  records : before.threads.slots.size < 2 ^ 64 →
    Alters id
      (fun record =>
        { record with object := some thread, listed := true, owned := record.owned + 1 })
      (before.threadRecord process) (after.threadRecord process')

theorem Hosts.created (hosts : kernel.Hosts pid process) {made : Kernel}
    (creates : kernel.Creates process id made) :
    ∃ thread held, Created pid kernel process id thread made held := by
  obtain ⟨params, tlsSlots, owner, rfl, rfl⟩ := creates.eq
  cases hosts.number
  let thread := GuestThread.ofParams kernel.threads.nextId params
  have inserted : Hosts { kernel with threads := kernel.threads.insert thread } _ process :=
    hosts.insertThread rfl owner
  refine ⟨thread, { process with tlsSlots }.addThread kernel.threads.nextId, ?_, rfl,
    ObjectTable.size_insert .., ObjectTable.find?_nextId, ?_⟩
  · exact inserted.modifyProcess (f := fun _ => _) rfl hosts.handles
  · intro room
    exact (insertThread_alters kernel process room thread).trans (own_alters _ _ _)

namespace Created

variable {made : Kernel} {held : GuestProcess}

theorem object (created : Created pid kernel process id thread made held)
    (room : kernel.threads.slots.size < 2 ^ 64) : made.threads.find? id = some thread :=
  congrArg ThreadRecord.object (created.records room).self

theorem listed (created : Created pid kernel process id thread made held)
    (room : kernel.threads.slots.size < 2 ^ 64) : made.threads.isListed id :=
  congrArg ThreadRecord.listed (created.records room).self

theorem room (created : Created pid kernel process id thread made held)
    (room : made.threads.slots.size ≤ 2 ^ 64) : kernel.threads.slots.size < 2 ^ 64 := by
  rw [created.size] at room
  exact room

theorem carried (created : Created pid kernel process id thread made held) :
    Carried pid kernel process made held where
  hosts := created.hosts
  size := by
    rw [created.size]
    exact Nat.le_succ _
  leads room := (created.records (created.room room)).leads
    (.createdThread created.state (created.fresh (created.room room)))

end Created

/-- A thread that is on the list gets a handle. -/
theorem Hosts.carried_addHandle (hosts : kernel.Hosts pid process) {process' : GuestProcess}
    {handle : Handle} (opens : process.addHandle (.thread id) = .ok (handle, process'))
    (listed : kernel.threads.slots.size ≤ 2 ^ 64 → kernel.threads.isListed id) :
    Carried pid kernel process (kernel.modifyProcess pid fun _ => process') process' := by
  obtain ⟨handles, added, rfl⟩ := GuestProcess.addHandle_eq_ok opens
  obtain ⟨_, _, wellFormed⟩ := HandleTable.add_eq_ok hosts.handles added
  refine ⟨hosts.modifyProcess (f := fun _ => _) hosts.number wellFormed, Nat.le_refl _, ?_⟩
  intro room
  have records : Alters id (fun record => { record with named := true })
      (kernel.threadRecord process) (kernel.threadRecord { process with handles }) := by
    intro id'
    simp only [threadRecord, HandleTable.references_add hosts.handles added]
    by_cases same : id' = id
    · simp [same]
    · simp [same, Ne.symm same]
  exact records.leads (.opened (listed room))

/-- The process gives up the thread, and keeps its handles. -/
theorem Hosts.forgetThread (hosts : kernel.Hosts pid process) (owner : thread.processId = pid) :
    ∃ held, (kernel.forgetThread thread).Hosts pid held ∧ held.handles = process.handles ∧
      (kernel.forgetThread thread).threads = kernel.threads ∧
      Alters thread.id (fun record => { record with owned := 0 }) (kernel.threadRecord process)
        ((kernel.forgetThread thread).threadRecord held) := by
  obtain ⟨tlsSlots, freed⟩ := process.freeTls_eq thread.tlsAddress
  have kept : (process.freeTls thread.tlsAddress).removeThread thread.id =
      { process with tlsSlots }.removeThread thread.id := by rw [freed]
  refine ⟨(process.freeTls thread.tlsAddress).removeThread thread.id, ?_⟩
  rw [Kernel.forgetThread, owner, hosts.modifyListed]
  refine ⟨hosts.modifyProcess ?_ ?_, ?_, rfl, ?_⟩
  · rw [kept]
    exact hosts.number
  · rw [kept]
    exact hosts.handles
  · rw [kept]
    rfl
  · rw [kept]
    exact disown_alters kernel { process with tlsSlots } thread.id

theorem size_destroyThread (kernel : Kernel) (thread : GuestThread) :
    (kernel.destroyThread thread).threads.slots.size = kernel.threads.slots.size := by
  rw [destroyThread, forgetThread, modifyListed]
  split
  · exact ObjectTable.size_remove ..
  · exact ObjectTable.size_remove ..

theorem Hosts.destroyThread (hosts : kernel.Hosts pid process) (owner : thread.processId = pid) :
    ∃ held, (kernel.destroyThread thread).Hosts pid held ∧
      Alters thread.id (fun record => { record with owned := 0, listed := false })
        (kernel.threadRecord process) ((kernel.destroyThread thread).threadRecord held) := by
  obtain ⟨held, hosts', _, _, records⟩ := hosts.forgetThread owner
  exact ⟨held, hosts'.removeThread thread.id, records.trans (removeThread_alters _ held _)⟩

theorem Hosts.carried_terminateThread (hosts : kernel.Hosts pid process)
    (owner : thread.processId = pid) :
    ∃ held, Carried pid kernel process (kernel.terminateThread thread) held := by
  let ended := kernel.modifyThread thread.id (·.setState .terminated)
  let gone : Kernel := { ended with scheduler := (ended.scheduler.remove thread.id).2 }
  have hosts' : ended.Hosts pid process := hosts.modifyThread thread.id (fun _ => rfl) fun _ => rfl
  have hosts' : gone.Hosts pid process :=
    ⟨hosts'.application, hosts'.found, hosts'.number, hosts'.alone, hosts'.own, hosts'.handles⟩
  obtain ⟨held, hosts', handles, threads, forgotten⟩ := hosts'.forgetThread owner
  have size : (gone.forgetThread thread).threads.slots.size = kernel.threads.slots.size := by
    rw [threads]
    exact ObjectTable.size_modify ..
  have records := ((modifyThread_alters kernel process thread.id (·.setState .terminated)).trans
    (unschedule_alters ended process thread.id)).trans forgotten
  have result : kernel.terminateThread thread =
      if process.handles.references (.thread thread.id) then gone.forgetThread thread
      else { gone.forgetThread thread with
        threads := (gone.forgetThread thread).threads.remove thread.id } := by
    rw [← handles, terminateThread]
    dsimp only
    rw [owner, hosts'.found]
  refine ⟨held, ?_⟩
  rw [result]
  split
  · rename_i named
    exact ⟨hosts', size.ge, fun _ => records.leads (.retired named)⟩
  · rename_i unnamed
    refine ⟨hosts'.removeThread thread.id, ?_, fun _ => ?_⟩
    · rw [← size]
      exact (ObjectTable.size_remove ..).ge
    · exact (records.trans (removeThread_alters _ held _)).leads
        (.retiredUnnamed (Bool.not_eq_true _ ▸ unnamed))

theorem schedule_alters (kernel : Kernel) (process : GuestProcess) {scheduler : Scheduler}
    {level : Priority}
    (priorities : ∀ id', scheduler.priority? id' =
      if id' = id then some level else kernel.scheduler.priority? id') :
    Alters id (fun record => { record with level := some level }) (kernel.threadRecord process)
      (({ kernel with scheduler } : Kernel).threadRecord process) := by
  intro id'
  simp only [threadRecord, priorities]
  by_cases same : id' = id
  · simp [same]
  · simp [same]

theorem startThread_eq_ok (starts : kernel.startThread thread = .ok after) :
    thread.state = .created ∧ ∃ scheduler,
      kernel.scheduler.add thread.id thread.priority thread.coreMask = .ok scheduler ∧
      after = (({ kernel with scheduler } : Kernel).modifyThread thread.id
        (·.setState .started)).modifyListed thread.processId fun process =>
          if process.state = .created then { process with state := .running } else process := by
  rw [startThread_eq] at starts
  split at starts
  · cases starts
  · rename_i created
    obtain ⟨scheduler, added, starts⟩ := exceptBind_eq_ok starts
    cases starts
    exact ⟨not_not.mp created, scheduler, added, rfl⟩

/-- The process of the application is there to be set running. -/
theorem Hosts.startThread_eq_ok (hosts : kernel.Hosts pid process) (owner : thread.processId = pid)
    (starts : kernel.startThread thread = .ok after) :
    thread.state = .created ∧ ∃ scheduler,
      kernel.scheduler.add thread.id thread.priority thread.coreMask = .ok scheduler ∧
      (({ kernel with scheduler } : Kernel).modifyThread thread.id (·.setState .started)).Hosts
        pid process ∧
      after = (({ kernel with scheduler } : Kernel).modifyThread thread.id
        (·.setState .started)).modifyProcess pid fun process =>
          if process.state = .created then { process with state := .running } else process := by
  obtain ⟨created, scheduler, added, rfl⟩ := Kernel.startThread_eq_ok starts
  have hosts' : Hosts { kernel with scheduler } pid process :=
    ⟨hosts.application, hosts.found, hosts.number, hosts.alone, hosts.own, hosts.handles⟩
  have started := hosts'.modifyThread thread.id (f := (·.setState .started)) (fun _ => rfl)
    fun _ => rfl
  rw [owner, started.modifyListed]
  exact ⟨created, scheduler, added, started, rfl⟩

/-- A thread is started. What it is started by may be out of date, but not in
    state and priority. -/
theorem Hosts.carried_startThread (hosts : kernel.Hosts pid process) (owner : thread.processId = pid)
    (known : kernel.threads.slots.size ≤ 2 ^ 64 → ∃ current,
      kernel.threads.get? thread.id = some current ∧ current.state = thread.state ∧
        current.priority = thread.priority)
    (starts : kernel.startThread thread = .ok after) :
    ∃ process', Carried pid kernel process after process' := by
  obtain ⟨created, scheduler, added, hosts', rfl⟩ := hosts.startThread_eq_ok owner starts
  obtain ⟨level, valid, _, priorities, _⟩ := Scheduler.add_spec added
  have started : Carried pid kernel process
      (({ kernel with scheduler } : Kernel).modifyThread thread.id (·.setState .started))
      process := by
    refine ⟨hosts', (ObjectTable.size_modify ..).ge, fun room => ?_⟩
    have room : kernel.threads.slots.size ≤ 2 ^ 64 := (ObjectTable.size_modify ..).ge.trans room
    obtain ⟨current, found, state, priority⟩ := known room
    obtain ⟨listed, object⟩ := ObjectTable.get?_eq_some_iff.mp found
    have records := (schedule_alters kernel process priorities).trans
      (modifyThread_alters { kernel with scheduler } process thread.id (·.setState .started))
    apply records.leads
    apply ThreadRecord.Leads.startedThread object listed
    · rw [state]
      exact created
    · rw [priority]
      exact Priority.toWord_of_ofWord valid
  refine ⟨_, started.trans (started.hosts.carried_modifyProcess ?_ ?_ ?_)⟩
  · split <;> rfl
  · split <;> rfl
  · split <;> rfl

theorem Hosts.carried_setPriority (hosts : kernel.Hosts pid process) {priority : UInt32}
    {scheduler : Scheduler} (known : kernel.threads.get? thread.id = some thread)
    (state : thread.state = .started)
    (changes : kernel.scheduler.setPriority thread.id priority = .ok scheduler) :
    Carried pid kernel process
      (({ kernel with scheduler } : Kernel).modifyThread thread.id (·.setPriority priority))
      process := by
  obtain ⟨level, valid, _, priorities, _⟩ := Scheduler.setPriority_spec changes
  refine ⟨?_, (ObjectTable.size_modify ..).ge, fun _ => ?_⟩
  · have hosts' : Hosts { kernel with scheduler } pid process :=
      ⟨hosts.application, hosts.found, hosts.number, hosts.alone, hosts.own, hosts.handles⟩
    exact hosts'.modifyThread thread.id (fun _ => rfl) fun _ => rfl
  · have records := (schedule_alters kernel process priorities).trans
      (modifyThread_alters { kernel with scheduler } process thread.id (·.setPriority priority))
    apply records.leads
    exact .prioritised (ObjectTable.get?_eq_some_iff.mp known).2 state
      (Priority.toWord_of_ofWord valid)

theorem Hosts.carried_setPriorityIdle (hosts : kernel.Hosts pid process) (priority : UInt32)
    (known : kernel.threads.get? thread.id = some thread) (state : thread.state ≠ .started) :
    Carried pid kernel process (kernel.modifyThread thread.id (·.setPriority priority))
      process where
  hosts := hosts.modifyThread thread.id (fun _ => rfl) fun _ => rfl
  size := (ObjectTable.size_modify ..).ge
  leads _ := (modifyThread_alters kernel process thread.id (·.setPriority priority)).leads
    (.prioritisedIdle (ObjectTable.get?_eq_some_iff.mp known).2 state)

theorem closed_alters {handles : HandleTable} {handle : Handle} (hosts : kernel.Hosts pid process)
    (closed : process.handles.close handle = .ok (.thread id, handles)) :
    Alters id (fun record => { record with named := handles.references (.thread id) })
      (kernel.threadRecord process) (kernel.threadRecord { process with handles }) := by
  intro id'
  by_cases same : id' = id
  · rw [if_pos same, same]
    rfl
  · rw [if_neg same]
    simp only [threadRecord]
    rw [HandleTable.references_close_of_ne hosts.handles closed]
    simp [same]

theorem Hosts.carried_close (hosts : kernel.Hosts pid process) {process' : GuestProcess}
    {handle : Handle} {object : KernelObject}
    (closes : process.closeHandle handle = .ok (object, process')) :
    Carried pid kernel process
      ((kernel.modifyProcess pid fun _ => process').releaseObject process' object) process' := by
  obtain ⟨handles, closed, rfl⟩ := GuestProcess.closeHandle_eq_ok closes
  let left := kernel.modifyProcess pid fun _ => { process with handles }
  have hosts' : left.Hosts pid { process with handles } :=
    hosts.modifyProcess (f := fun _ => _) hosts.number
      (HandleTable.close_wellFormed hosts.handles closed)
  cases object with
  | process other =>
      refine ⟨hosts', Nat.le_refl _, fun _ id => .of_eq ?_⟩
      change kernel.threadRecord { process with handles } id = _
      simp only [threadRecord]
      rw [HandleTable.references_close_of_ne hosts.handles closed]
      exact KernelObject.noConfusion
  | thread id =>
      have named := HandleTable.references_close_self closed
      have records := closed_alters hosts closed
      rw [releaseObject]
      dsimp only
      split
      · rename_i thread known
        obtain ⟨listed, object⟩ := ObjectTable.get?_eq_some_iff.mp known
        split
        · rename_i last
          obtain ⟨state, unnamed⟩ := last
          refine ⟨hosts'.removeThread id, (ObjectTable.size_remove ..).ge, fun _ => ?_⟩
          apply (records.trans (removeThread_alters left _ id)).leads
          rw [Bool.not_eq_true'] at unnamed
          rw [unnamed]
          exact .dropped object state
        · rename_i kept
          refine ⟨hosts', Nat.le_refl _, fun _ => records.leads (.closed named ?_)⟩
          intro current same _ state
          cases object.symm.trans same
          by_contra unnamed
          exact kept ⟨state, by simpa using unnamed⟩
      · rename_i unlisted
        refine ⟨hosts', Nat.le_refl _, fun _ => records.leads (.closed named ?_)⟩
        intro _ _ listed _
        have absent : left.threads.isListed id = false := by rw [ObjectTable.isListed, unlisted]; rfl
        exact absurd listed (Bool.eq_false_iff.mp absent)

theorem requestSwitch_carries (kernel : Kernel) (core : CoreIndex) (request : SwitchRequest) :
    Carries pid kernel (kernel.requestSwitch core request) :=
  .of_same rfl rfl rfl fun _ => rfl

/-- A thread is created and taken back at once. -/
theorem Created.carried_destroyThread {made : Kernel} {held : GuestProcess}
    {thread' : GuestThread} (created : Created pid kernel process id thread made held)
    (known : made.threads.find? id = some thread') :
    ∃ process', Carried pid kernel process (made.destroyThread thread') process' := by
  obtain ⟨number, owner⟩ := created.hosts.own id thread' known
  obtain ⟨process', hosts, records⟩ := created.hosts.destroyThread owner
  refine ⟨process', hosts, ?_, fun room => ?_⟩
  · rw [size_destroyThread]
    exact created.carried.size
  · rw [size_destroyThread] at room
    rw [number] at records
    have room' := created.room room
    exact ((created.records room').trans records).leads
      (.tookBack created.state (created.fresh room'))

/-- A thread is created, and a handle to it opened. -/
theorem Created.carried_addHandle {made : Kernel} {held process' : GuestProcess} {handle : Handle}
    (created : Created pid kernel process id thread made held)
    (opens : held.addHandle (.thread id) = .ok (handle, process')) :
    Carried pid kernel process (made.modifyProcess pid fun _ => process') process' :=
  created.carried.trans (created.hosts.carried_addHandle opens fun room =>
    created.listed (created.room room))

theorem Served.carries {core : CoreIndex} (served : Served core kernel after) :
    Carries pid kernel after := by
  intro process hosts
  cases served with
  | unchanged => exact Carries.refl kernel process hosts
  | resized heapSize found =>
      cases hosts.currentProcess found
      cases hosts.number
      exact ⟨_, hosts.carried_modifyProcess (f := fun _ => _) rfl rfl rfl⟩
  | created found creates =>
      cases hosts.currentProcess found
      obtain ⟨thread, held, created⟩ := hosts.created creates
      exact ⟨held, created.carried⟩
  | opened found creates holds opens =>
      cases hosts.currentProcess found
      obtain ⟨thread, held, created⟩ := hosts.created creates
      cases created.hosts.eq_of_find holds
      rw [GuestProcess.addHandle_pid opens, created.hosts.number]
      exact ⟨_, created.carried_addHandle opens⟩
  | takenBack found creates known =>
      cases hosts.currentProcess found
      obtain ⟨thread, held, created⟩ := hosts.created creates
      exact created.carried_destroyThread known
  | started found starts =>
      have known := hosts.resolveThread found
      exact hosts.carried_startThread (hosts.own_of_get known).2 (fun _ => ⟨_, known, rfl, rfl⟩) starts
  | requested request => exact requestSwitch_carries kernel core request process hosts
  | prioritised found state changes =>
      exact ⟨process, hosts.carried_setPriority (hosts.resolveThread found) state changes⟩
  | prioritisedIdle priority found state =>
      exact ⟨process, hosts.carried_setPriorityIdle priority (hosts.resolveThread found) state⟩
  | closed found closes =>
      cases hosts.currentProcess found
      rw [GuestProcess.closeHandle_pid closes, hosts.number]
      exact ⟨_, hosts.carried_close closes⟩
  | exited breakInfo =>
      have noted : Carries pid kernel { kernel with breakInfo } := .of_same rfl rfl rfl fun _ => rfl
      exact noted.trans (endApplication_carries _) process hosts

end Kernel

end GuestMachine
