import GuestMachine.Proofs.Kernel.Handles
import GuestMachine.Proofs.Kernel.ObjectTables
import GuestMachine.Proofs.Kernel.ServiceCalls
import GuestMachine.Proofs.Scheduler.States

/-! # What is kept of each thread

A thread is known to five tables: its object, the list of numbers, the
scheduler, its process's list and the handles. What they say of one thread
makes up its record, of which only a few kinds are consistent. Every kernel
operation is described by what becomes of the records.
-/

namespace GuestMachine

/-- What kernel and process keep of one thread. -/
structure ThreadRecord where
  object : Option GuestThread
  /-- Found under its number. -/
  listed : Bool
  /-- Its priority in the scheduler. -/
  level : Option Priority
  /-- How often its process lists it. -/
  owned : Nat
  /-- Some handle names it. -/
  named : Bool

namespace ThreadRecord

/-- The records that go together, by the thread's way through its life. -/
inductive Consistent : ThreadRecord → Prop where
  | unknown : Consistent ⟨none, false, none, 0, false⟩
  | created {thread : GuestThread} {named : Bool} (state : thread.state = .created) :
      Consistent ⟨some thread, true, none, 1, named⟩
  | started {thread : GuestThread} {level : Priority} {named : Bool}
      (state : thread.state = .started) (priority : level.toWord = thread.priority) :
      Consistent ⟨some thread, true, some level, 1, named⟩
  | terminated {thread : GuestThread} {named : Bool} (state : thread.state = .terminated) :
      Consistent ⟨some thread, named, none, 0, named⟩
  /-- Its creation was undone. -/
  | takenBack {thread : GuestThread} (state : thread.state = .created) :
      Consistent ⟨some thread, false, none, 0, false⟩

/-- The thread was created for good. -/
def Lasting (record : ThreadRecord) : Prop :=
  ∃ thread, record.object = some thread ∧ (record.listed ∨ thread.state = .terminated)

section

variable {record : ThreadRecord}

theorem Consistent.scheduled_iff (consistent : record.Consistent) :
    record.level.isSome ↔ ∃ thread, record.object = some thread ∧ thread.state = .started := by
  cases consistent <;> simp_all

theorem Consistent.listed_of_scheduled (consistent : record.Consistent)
    (scheduled : record.level.isSome) :
    record.listed = true ∧ ∃ thread, record.object = some thread ∧ thread.state = .started := by
  cases consistent <;> simp_all

theorem Consistent.owned_of_scheduled (consistent : record.Consistent)
    (scheduled : record.level.isSome) : record.owned = 1 := by
  cases consistent <;> simp_all

theorem Consistent.priority_eq (consistent : record.Consistent) {level : Priority}
    (scheduled : record.level = some level) :
    ∃ thread, record.object = some thread ∧ thread.priority = level.toWord := by
  cases consistent <;> simp_all

theorem Consistent.alive (consistent : record.Consistent) (lasting : record.Lasting)
    {thread : GuestThread} (object : record.object = some thread)
    (state : thread.state ≠ .terminated) : record.owned = 1 ∧ record.listed = true := by
  obtain ⟨_, same, lasts⟩ := lasting
  cases object.symm.trans same
  cases consistent <;> simp_all

theorem Consistent.gone (consistent : record.Consistent) {thread : GuestThread}
    (object : record.object = some thread) (state : thread.state = .terminated) :
    record.owned = 0 ∧ record.listed = record.named := by
  cases consistent <;> simp_all

theorem Consistent.listed_of_owned (consistent : record.Consistent) (owned : record.owned ≠ 0) :
    record.listed = true ∧
      ∃ thread, record.object = some thread ∧ thread.state ≠ .terminated := by
  cases consistent <;> simp_all

theorem Consistent.listed_of_named (consistent : record.Consistent) (named : record.named = true) :
    record.listed = true := by
  cases consistent <;> simp_all

end

/-- The second record may follow on the first. -/
def Leads (record record' : ThreadRecord) : Prop :=
  record.Consistent → record'.Consistent ∧ (record.Lasting → record'.Lasting)

theorem Leads.refl (record : ThreadRecord) : record.Leads record :=
  fun consistent => ⟨consistent, id⟩

theorem Leads.of_eq {record record' : ThreadRecord} (same : record' = record) :
    record.Leads record' :=
  same ▸ .refl record

theorem Leads.trans {first second third : ThreadRecord} (step : first.Leads second)
    (next : second.Leads third) : first.Leads third := by
  intro consistent
  obtain ⟨between, lasts⟩ := step consistent
  obtain ⟨after, lasts'⟩ := next between
  exact ⟨after, lasts' ∘ lasts⟩

variable {record : ThreadRecord}

/-- A change of what is not on record. -/
theorem Leads.touched {f : GuestThread → GuestThread} (state : ∀ thread, (f thread).state = thread.state)
    (priority : ∀ thread, (f thread).priority = thread.priority) :
    record.Leads { record with object := record.object.map f } := by
  intro consistent
  refine ⟨?_, ?_⟩
  · cases consistent with
    | unknown => exact .unknown
    | created created => exact .created ((state _).trans created)
    | started started same => exact .started ((state _).trans started) (same.trans (priority _).symm)
    | terminated terminated => exact .terminated ((state _).trans terminated)
    | takenBack created => exact .takenBack ((state _).trans created)
  · rintro ⟨thread, object, lasts⟩
    exact ⟨f thread, congrArg (Option.map f) object, by rwa [state]⟩

theorem Leads.createdThread {thread : GuestThread} (state : thread.state = .created)
    (fresh : record.object = none) :
    record.Leads
      { record with object := some thread, listed := true, owned := record.owned + 1 } := by
  intro consistent
  cases consistent with
  | unknown => exact ⟨.created state, fun _ => ⟨thread, rfl, .inl rfl⟩⟩
  | _ => cases fresh

theorem Leads.tookBack {thread : GuestThread} (state : thread.state = .created)
    (fresh : record.object = none) :
    record.Leads { record with object := some thread, listed := false, owned := 0 } := by
  intro consistent
  cases consistent with
  | unknown => exact ⟨.takenBack state, fun ⟨_, absent, _⟩ => nomatch absent⟩
  | _ => cases fresh

theorem Leads.opened (listed : record.listed = true) :
    record.Leads { record with named := true } := by
  intro consistent
  refine ⟨?_, id⟩
  cases consistent with
  | created state => exact .created state
  | started state priority => exact .started state priority
  | terminated state =>
      cases listed
      exact .terminated state
  | _ => cases listed

theorem Leads.startedThread {thread : GuestThread} {level : Priority}
    (object : record.object = some thread) (listed : record.listed = true)
    (state : thread.state = .created) (priority : level.toWord = thread.priority) :
    record.Leads { record with
      object := record.object.map (·.setState .started), level := some level } := by
  intro consistent
  refine ⟨?_, fun _ => ⟨thread.setState .started, by rw [object]; rfl, .inl listed⟩⟩
  cases consistent with
  | created =>
      cases object
      exact .started rfl priority
  | _ => cases object <;> simp_all

theorem Leads.prioritised {thread : GuestThread} {level : Priority} {priority : UInt32}
    (object : record.object = some thread) (state : thread.state = .started)
    (same : level.toWord = priority) :
    record.Leads { record with
      object := record.object.map (·.setPriority priority), level := some level } := by
  intro consistent
  refine ⟨?_, fun ⟨thread', known, lasts⟩ => ⟨thread'.setPriority priority, by rw [known]; rfl, lasts⟩⟩
  cases consistent with
  | started =>
      cases object
      exact .started state same
  | _ => cases object <;> simp_all

theorem Leads.prioritisedIdle {thread : GuestThread} {priority : UInt32}
    (object : record.object = some thread) (state : thread.state ≠ .started) :
    record.Leads { record with object := record.object.map (·.setPriority priority) } := by
  intro consistent
  refine ⟨?_, fun ⟨thread', known, lasts⟩ => ⟨thread'.setPriority priority, by rw [known]; rfl, lasts⟩⟩
  cases consistent with
  | unknown => exact .unknown
  | created created => exact .created created
  | started =>
      cases object
      contradiction
  | terminated terminated => exact .terminated terminated
  | takenBack created => exact .takenBack created

/-- A handle was closed, but another is left if the thread has terminated. -/
theorem Leads.closed {named : Bool} (held : record.named = true)
    (left : ∀ thread, record.object = some thread → record.listed = true →
      thread.state = .terminated → named = true) :
    record.Leads { record with named } := by
  intro consistent
  refine ⟨?_, id⟩
  cases consistent with
  | created state => exact .created state
  | started state priority => exact .started state priority
  | @terminated thread _ state =>
      cases held
      cases left thread rfl rfl state
      exact .terminated state
  | _ => cases held

/-- The last handle of a terminated thread was closed. -/
theorem Leads.dropped {thread : GuestThread} (object : record.object = some thread)
    (state : thread.state = .terminated) :
    record.Leads { record with named := false, listed := false } := by
  intro consistent
  refine ⟨?_, fun _ => ⟨thread, object, .inr state⟩⟩
  cases consistent with
  | terminated terminated => exact .terminated terminated
  | _ => cases object <;> simp_all

/-- A thread that some handle names is retired. -/
theorem Leads.retired (held : record.named = true) :
    record.Leads { record with
      object := record.object.map (·.setState .terminated), level := none, owned := 0 } := by
  intro consistent
  refine ⟨?_, fun ⟨thread, object, _⟩ =>
    ⟨thread.setState .terminated, congrArg (Option.map _) object, .inr rfl⟩⟩
  cases consistent with
  | created =>
      cases held
      exact .terminated rfl
  | started =>
      cases held
      exact .terminated rfl
  | terminated =>
      cases held
      exact .terminated rfl
  | _ => cases held

/-- A thread without a handle is retired, and goes off the list. -/
theorem Leads.retiredUnnamed (unnamed : record.named = false) :
    record.Leads { record with
      object := record.object.map (·.setState .terminated)
      level := none
      owned := 0
      listed := false } := by
  intro consistent
  refine ⟨?_, fun ⟨thread, object, _⟩ =>
    ⟨thread.setState .terminated, congrArg (Option.map _) object, .inr rfl⟩⟩
  cases consistent with
  | unknown => exact .unknown
  | takenBack => exact .terminated rfl
  | _ =>
      cases unnamed
      exact .terminated rfl

end ThreadRecord

namespace Kernel

/-- The record of a thread, with `process` the one that may list it. -/
def threadRecord (kernel : Kernel) (process : GuestProcess) (id : ThreadId) : ThreadRecord :=
  { object := kernel.threads.find? id
    listed := kernel.threads.isListed id
    level := kernel.scheduler.priority? id
    owned := process.threads.count id
    named := process.handles.references (.thread id) }

/-- `process` is the application, number `pid`. There is no other process, and
    all threads are its own. -/
structure Hosts (kernel : Kernel) (pid : ProcessId) (process : GuestProcess) : Prop where
  application : kernel.application = some pid
  found : kernel.processes.get? pid = some process
  number : process.pid = pid
  alone : ∀ other process', kernel.processes.find? other = some process' → other = pid
  own : ∀ id thread, kernel.threads.find? id = some thread → thread.id = id ∧ thread.processId = pid
  handles : process.handles.WellFormed

namespace Hosts

variable {kernel : Kernel} {pid : ProcessId} {process : GuestProcess}

theorem find (hosts : kernel.Hosts pid process) : kernel.processes.find? pid = some process :=
  (ObjectTable.get?_eq_some_iff.mp hosts.found).2

theorem eq_of_find (hosts : kernel.Hosts pid process) {other : ProcessId} {process' : GuestProcess}
    (known : kernel.processes.find? other = some process') : process' = process := by
  cases hosts.alone other process' known
  exact Option.some.inj (known.symm.trans hosts.find)

theorem own_of_get (hosts : kernel.Hosts pid process) {id : ThreadId} {thread : GuestThread}
    (known : kernel.threads.get? id = some thread) : thread.id = id ∧ thread.processId = pid :=
  hosts.own id thread (ObjectTable.get?_eq_some_iff.mp known).2

theorem applicationProcess?_eq (hosts : kernel.Hosts pid process) :
    kernel.applicationProcess? = some process := by
  rw [applicationProcess?, hosts.application]
  exact hosts.find

theorem getThread (hosts : kernel.Hosts pid process) {id : ThreadId} {thread : GuestThread}
    (found : kernel.getThread id = .ok thread) : kernel.threads.get? thread.id = some thread := by
  rw [Kernel.getThread] at found
  split at found
  · rename_i known
    cases found
    rwa [(hosts.own_of_get known).1]
  · cases found

theorem currentThread (hosts : kernel.Hosts pid process) {core : CoreIndex} {thread : GuestThread}
    (found : kernel.currentThread core = .ok thread) :
    kernel.threads.get? thread.id = some thread := by
  rw [Kernel.currentThread] at found
  split at found
  · exact hosts.getThread found
  · cases found

theorem currentId?_of_currentThread (hosts : kernel.Hosts pid process) {core : CoreIndex}
    {thread : GuestThread} (found : kernel.currentThread core = .ok thread) :
    kernel.currentId? core = some thread.id := by
  rw [Kernel.currentThread] at found
  split at found
  · rename_i id noted
    rw [Kernel.getThread] at found
    split at found
    · rename_i known
      cases found
      rw [noted, (hosts.own_of_get known).1]
    · cases found
  · cases found

theorem currentProcess (hosts : kernel.Hosts pid process) {core : CoreIndex}
    {process' : GuestProcess} (found : kernel.currentProcess core = .ok process') :
    process' = process := by
  simp only [Kernel.currentProcess, getProcess] at found
  split at found
  · rename_i thread current
    rw [(hosts.own_of_get (hosts.currentThread current)).2, hosts.found] at found
    exact (Except.ok.inj found).symm
  · rw [hosts.applicationProcess?_eq] at found
    exact (Except.ok.inj found).symm

theorem resolveThread (hosts : kernel.Hosts pid process) {core : CoreIndex} {handle : Handle}
    {thread : GuestThread} (found : kernel.resolveThread core handle = .ok thread) :
    kernel.threads.get? thread.id = some thread := by
  rw [Kernel.resolveThread] at found
  split at found
  · exact hosts.currentThread found
  · obtain ⟨process', _, found⟩ := exceptBind_eq_ok found
    obtain ⟨object, _, found⟩ := exceptBind_eq_ok found
    cases object with
    | process other => cases found
    | thread id => exact hosts.getThread found

theorem modifyProcess (hosts : kernel.Hosts pid process) {f : GuestProcess → GuestProcess}
    (number : (f process).pid = pid) (handles : (f process).handles.WellFormed) :
    (kernel.modifyProcess pid f).Hosts pid (f process) where
  application := hosts.application
  found := by
    obtain ⟨listed, known⟩ := ObjectTable.get?_eq_some_iff.mp hosts.found
    refine ObjectTable.get?_eq_some_iff.mpr ⟨?_, ?_⟩
    · exact (ObjectTable.isListed_modify ..).trans listed
    · rw [Kernel.modifyProcess, ObjectTable.find?_modify, if_pos rfl, known]
      rfl
  number
  alone := by
    intro other process' known
    rw [Kernel.modifyProcess, ObjectTable.find?_modify] at known
    split at known
    · assumption
    · exact hosts.alone other process' known
  own := hosts.own
  handles

theorem modifyListed (hosts : kernel.Hosts pid process) (f : GuestProcess → GuestProcess) :
    kernel.modifyListed pid f = kernel.modifyProcess pid f := by
  rw [Kernel.modifyListed, hosts.found]
  rfl

theorem modifyThread (hosts : kernel.Hosts pid process) (id : ThreadId)
    {f : GuestThread → GuestThread} (number : ∀ thread, (f thread).id = thread.id)
    (owner : ∀ thread, (f thread).processId = thread.processId) :
    (kernel.modifyThread id f).Hosts pid process where
  application := hosts.application
  found := hosts.found
  number := hosts.number
  alone := hosts.alone
  own := by
    intro id' thread known
    rw [Kernel.modifyThread, ObjectTable.find?_modify] at known
    split at known
    · rename_i same
      obtain ⟨before, earlier, rfl⟩ := Option.map_eq_some_iff.mp known
      rw [number, owner, same]
      exact hosts.own id before earlier
    · exact hosts.own id' thread known
  handles := hosts.handles

theorem removeThread (hosts : kernel.Hosts pid process) (id : ThreadId) :
    ({ kernel with threads := kernel.threads.remove id } : Kernel).Hosts pid process where
  application := hosts.application
  found := hosts.found
  number := hosts.number
  alone := hosts.alone
  own := by
    intro id' thread known
    rw [ObjectTable.find?_remove] at known
    exact hosts.own id' thread known
  handles := hosts.handles

theorem insertThread (hosts : kernel.Hosts pid process) {thread : GuestThread}
    (number : thread.id = kernel.threads.nextId) (owner : thread.processId = pid) :
    ({ kernel with threads := kernel.threads.insert thread } : Kernel).Hosts pid process where
  application := hosts.application
  found := hosts.found
  number := hosts.number
  alone := hosts.alone
  own := by
    intro id' thread' known
    rcases ObjectTable.find?_insert_cases known with ⟨rfl, rfl⟩ | earlier
    · exact ⟨number, owner⟩
    · exact hosts.own id' thread' earlier
  handles := hosts.handles

end Hosts

end Kernel

end GuestMachine
