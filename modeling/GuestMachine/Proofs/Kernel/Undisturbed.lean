import GuestMachine.Proofs.Loader.MainThread

/-! # Threads that stay where they are

No supervisor call switches threads: which thread runs where, and the saved
registers of those that do not run, are left alone, and so they are when
threads are created or started from outside. A request to switch is left on the
calling core only.
-/

namespace GuestMachine

namespace Kernel

/-- The saved registers of a thread that is listed and has not terminated. -/
def liveContext? (kernel : Kernel) (id : ThreadId) : Option ThreadContext :=
  (kernel.threads.get? id).bind fun thread =>
    if thread.state = .terminated then none else some thread.context

/-- Nobody is switched. A request to switch may be left on `core`. -/
structure Spared (core : CoreIndex) (before after : Kernel) : Prop where
  current : after.current = before.current
  firstId : after.threads.firstId = before.threads.firstId
  running : ∀ id c, after.scheduler.state? id = some (.running c) ↔
    before.scheduler.state? id = some (.running c)
  wellFormed : before.scheduler.WellFormed → after.scheduler.WellFormed
  known : ∀ id, after.threads.find? id = none → before.threads.find? id = none
  /-- Registers are those from before, unless the thread is new. -/
  contexts : ∀ id context, after.liveContext? id = some context →
    before.liveContext? id = some context ∨ before.threads.find? id = none
  switches : ∀ c, c ≠ core → after.switches[c]? = before.switches[c]?

namespace Spared

variable {core : CoreIndex} {kernel middle after : Kernel} {id : ThreadId}

theorem trans (first : Spared core kernel middle) (next : Spared core middle after) :
    Spared core kernel after where
  current := next.current.trans first.current
  firstId := next.firstId.trans first.firstId
  running id c := (next.running id c).trans (first.running id c)
  wellFormed holds := next.wellFormed (first.wellFormed holds)
  known id unknown := first.known id (next.known id unknown)
  contexts id context live := by
    rcases next.contexts id context live with live | unknown
    · exact first.contexts id context live
    · exact .inr (first.known id unknown)
  switches c other := (next.switches c other).trans (first.switches c other)

theorem of_same (current : after.current = kernel.current)
    (threads : after.threads = kernel.threads) (scheduler : after.scheduler = kernel.scheduler)
    (switches : ∀ c, c ≠ core → after.switches[c]? = kernel.switches[c]?) :
    Spared core kernel after := by
  refine ⟨current, by rw [threads], ?_, ?_, ?_, ?_, switches⟩
  · intro id c
    rw [scheduler]
  · rw [scheduler]
    exact fun holds => holds
  · intro id unknown
    rwa [threads] at unknown
  · intro id context live
    rw [liveContext?, threads] at live
    exact .inl live

theorem refl (kernel : Kernel) : Spared core kernel kernel :=
  .of_same rfl rfl rfl fun _ _ => rfl

theorem schedule {scheduler : Scheduler}
    (running : ∀ id c, scheduler.state? id = some (.running c) ↔
      kernel.scheduler.state? id = some (.running c))
    (wellFormed : kernel.scheduler.WellFormed → scheduler.WellFormed) :
    Spared core kernel { kernel with scheduler } :=
  ⟨rfl, rfl, running, wellFormed, fun _ unknown => unknown, fun _ _ live => .inl live,
    fun _ _ => rfl⟩

theorem modifyProcess (kernel : Kernel) (pid : ProcessId) (f : GuestProcess → GuestProcess) :
    Spared core kernel (kernel.modifyProcess pid f) :=
  .of_same rfl rfl rfl fun _ _ => rfl

theorem modifyListed (kernel : Kernel) (pid : ProcessId) (f : GuestProcess → GuestProcess) :
    Spared core kernel (kernel.modifyListed pid f) := by
  rw [Kernel.modifyListed]
  split
  · exact modifyProcess kernel pid f
  · exact refl kernel

/-- A thread changes in something else, and none comes back to life. -/
theorem modifyThread {f : GuestThread → GuestThread}
    (context : ∀ thread, (f thread).context = thread.context)
    (state : ∀ thread, kernel.threads.get? id = some thread → (f thread).state ≠ .terminated →
      thread.state ≠ .terminated) :
    Spared core kernel (kernel.modifyThread id f) where
  current := rfl
  firstId := rfl
  running _ _ := .rfl
  wellFormed holds := holds
  known id' unknown := by
    rw [Kernel.modifyThread, ObjectTable.find?_modify] at unknown
    split at unknown
    · rename_i same
      rw [same]
      exact Option.map_eq_none_iff.mp unknown
    · exact unknown
  contexts id' registers live := by
    rw [liveContext?, Kernel.modifyThread, ObjectTable.get?_modify] at live
    split at live
    · rename_i same
      cases found : kernel.threads.get? id with
      | none =>
          rw [found] at live
          cases live
      | some thread =>
          rw [found] at live
          change (if (f thread).state = .terminated then none else some (f thread).context) = _ at live
          split at live
          · cases live
          · rename_i alive
            rw [context] at live
            rw [same, liveContext?, found]
            exact .inl ((if_neg (state thread found alive)).trans live)
    · exact .inl live
  switches _ _ := rfl

theorem insertThread (room : kernel.threads.slots.size < 2 ^ 64) (thread : GuestThread) :
    Spared core kernel { kernel with threads := kernel.threads.insert thread } where
  current := rfl
  firstId := rfl
  running _ _ := .rfl
  wellFormed holds := holds
  known id' unknown := by
    rw [ObjectTable.find?_insert room] at unknown
    split at unknown
    · cases unknown
    · exact unknown
  contexts id' registers live := by
    rw [liveContext?, ObjectTable.get?_insert room] at live
    split at live
    · rename_i same
      rw [same]
      exact .inr (ObjectTable.find?_nextId room)
    · exact .inl live
  switches _ _ := rfl

theorem removeThread (kernel : Kernel) (id : ThreadId) :
    Spared core kernel { kernel with threads := kernel.threads.remove id } where
  current := rfl
  firstId := rfl
  running _ _ := .rfl
  wellFormed holds := holds
  known id' unknown := by
    rwa [ObjectTable.find?_remove] at unknown
  contexts id' registers live := by
    rw [liveContext?, ObjectTable.get?_remove] at live
    split at live
    · cases live
    · exact .inl live
  switches _ _ := rfl

/-- A thread that is new may change in any way. -/
theorem thenModify (spared : Spared core kernel after) (fresh : kernel.threads.find? id = none)
    (f : GuestThread → GuestThread) : Spared core kernel (after.modifyThread id f) where
  current := spared.current
  firstId := spared.firstId
  running := spared.running
  wellFormed := spared.wellFormed
  known id' unknown := by
    rw [Kernel.modifyThread, ObjectTable.find?_modify] at unknown
    split at unknown
    · rename_i same
      rw [same]
      exact fresh
    · exact spared.known id' unknown
  contexts id' registers live := by
    rw [liveContext?, Kernel.modifyThread, ObjectTable.get?_modify] at live
    split at live
    · rename_i same
      rw [same]
      exact .inr fresh
    · exact spared.contexts id' registers live
  switches := spared.switches

end Spared

/-- An application is spared as long as thread numbers have not run out. -/
def Spares (pid : ProcessId) (core : CoreIndex) (before after : Kernel) : Prop :=
  ∀ process, before.Hosts pid process → after.threads.slots.size ≤ 2 ^ 64 → Spared core before after

variable {core : CoreIndex} {pid : ProcessId} {kernel middle made after : Kernel}
  {process : GuestProcess} {id : ThreadId} {thread : GuestThread}

theorem Spared.spares (spared : Spared core kernel after) : Spares pid core kernel after :=
  fun _ _ _ => spared

theorem Spares.trans (carries : Carries pid kernel middle) (first : Spares pid core kernel middle)
    (carries' : Carries pid middle after) (next : Spares pid core middle after) :
    Spares pid core kernel after := by
  intro process hosts room
  obtain ⟨process', carried⟩ := carries process hosts
  obtain ⟨_, carried'⟩ := carries' process' carried.hosts
  exact (first process hosts (carried'.size.trans room)).trans (next process' carried.hosts room)

/-- A new thread has a number that was not in use. -/
theorem Creates.spared (creates : kernel.Creates process id made)
    (room : made.threads.slots.size ≤ 2 ^ 64) :
    Spared core kernel made ∧ kernel.threads.find? id = none := by
  obtain ⟨params, tlsSlots, _, rfl, rfl⟩ := creates.eq
  have room' : kernel.threads.slots.size < 2 ^ 64 := by
    rw [← Nat.succ_le_iff]
    exact (ObjectTable.size_insert ..).ge.trans room
  exact ⟨(Spared.insertThread room' _).trans (.modifyProcess _ _ _), ObjectTable.find?_nextId room'⟩

theorem destroyThread_spared (kernel : Kernel) (thread : GuestThread) :
    Spared core kernel (kernel.destroyThread thread) :=
  (Spared.modifyListed kernel _ _).trans (.removeThread _ _)

/-- A thread is created and taken back at once. -/
theorem Creates.spared_destroyThread (creates : kernel.Creates process id made)
    (room : (made.destroyThread thread).threads.slots.size ≤ 2 ^ 64) :
    Spared core kernel (made.destroyThread thread) := by
  rw [size_destroyThread] at room
  exact (creates.spared room).1.trans (destroyThread_spared made thread)

theorem startThread_spared (starts : kernel.startThread thread = .ok after)
    (known : ∀ current, kernel.threads.get? thread.id = some current → current.state = thread.state) :
    Spared core kernel after := by
  obtain ⟨created, scheduler, added, rfl⟩ := startThread_eq_ok starts
  obtain ⟨_, _, fresh, _, states⟩ := Scheduler.add_spec added
  have running (id : ThreadId) (c : CoreIndex) : scheduler.state? id = some (.running c) ↔
      kernel.scheduler.state? id = some (.running c) := by
    rw [states]
    split
    · rename_i same
      rw [same, fresh]
      simp
    · rfl
  have scheduled : Spared core kernel { kernel with scheduler } :=
    .schedule running fun holds => Scheduler.add_wellFormed holds added
  have started : Spared core { kernel with scheduler }
      (({ kernel with scheduler } : Kernel).modifyThread thread.id (·.setState .started)) := by
    refine .modifyThread (fun _ => rfl) fun current found _ => ?_
    rw [known current found, created]
    exact ThreadState.noConfusion
  exact (scheduled.trans started).trans (.modifyListed _ _ _)

theorem startThread_spared_of_get (known : kernel.threads.get? thread.id = some thread)
    (starts : kernel.startThread thread = .ok after) : Spared core kernel after := by
  refine startThread_spared starts fun current same => ?_
  cases known.symm.trans same
  rfl

theorem setPriority_spared {priority : UInt32} {scheduler : Scheduler}
    (changes : kernel.scheduler.setPriority thread.id priority = .ok scheduler) :
    Spared core kernel
      (({ kernel with scheduler } : Kernel).modifyThread thread.id (·.setPriority priority)) := by
  obtain ⟨_, _, _, _, states⟩ := Scheduler.setPriority_spec changes
  have scheduled : Spared core kernel { kernel with scheduler } :=
    .schedule (fun id c => by rw [states]) fun holds => Scheduler.setPriority_wellFormed holds changes
  exact scheduled.trans (.modifyThread (fun _ => rfl) fun _ _ alive => alive)

theorem releaseObject_spared (kernel : Kernel) (process : GuestProcess) (object : KernelObject) :
    Spared core kernel (kernel.releaseObject process object) := by
  cases object with
  | process _ => exact .refl kernel
  | thread id =>
      simp only [releaseObject]
      split
      · split
        · exact .removeThread kernel id
        · exact .refl kernel
      · exact .refl kernel

theorem endApplication_spared (kernel : Kernel) : Spared core kernel kernel.endApplication := by
  cases application : kernel.application with
  | none =>
      rw [endApplication, application]
      exact .of_same rfl rfl rfl fun _ _ => rfl
  | some pid =>
      rw [endApplication, application]
      let exit (process : GuestProcess) : GuestProcess := { process with state := .exited }
      have exited : Spared core kernel (kernel.modifyProcess pid exit) := .modifyProcess ..
      exact exited.trans (.of_same rfl rfl rfl fun _ _ => rfl)

theorem requestSwitch_spared (kernel : Kernel) (core : CoreIndex) (request : SwitchRequest) :
    Spared core kernel (kernel.requestSwitch core request) := by
  refine .of_same rfl rfl rfl fun c other => ?_
  rw [requestSwitch, Vector.getElem?_setIfInBounds, if_neg (Ne.symm other)]

theorem Served.spares (served : Served core kernel after) : Spares pid core kernel after := by
  intro process hosts room
  cases served with
  | unchanged => exact .refl kernel
  | resized heapSize found => exact .modifyProcess kernel _ _
  | created found creates => exact (creates.spared room).1
  | opened found creates holds opens => exact (creates.spared room).1.trans (.modifyProcess _ _ _)
  | takenBack found creates known => exact creates.spared_destroyThread room
  | started found starts =>
      exact startThread_spared_of_get (hosts.resolveThread found) starts
  | requested request => exact requestSwitch_spared kernel core request
  | prioritised found state changes => exact setPriority_spared changes
  | prioritisedIdle priority found state =>
      exact .modifyThread (fun _ => rfl) fun _ _ alive => alive
  | closed found closes =>
      exact (Spared.modifyProcess kernel _ _).trans (releaseObject_spared _ _ _)
  | exited breakInfo =>
      have noted : Spared core kernel { kernel with breakInfo } := .of_same rfl rfl rfl fun _ _ => rfl
      exact noted.trans (endApplication_spared _)

/-- A thread is created, and holds its own handle in a register. -/
theorem Creates.spared_handOver {holder : GuestProcess} {handle : Handle}
    (creates : kernel.Creates process id made)
    (room : (made.handOver pid holder id handle).threads.slots.size ≤ 2 ^ 64) :
    Spared core kernel (made.handOver pid holder id handle) := by
  obtain ⟨spared, fresh⟩ := creates.spared ((ObjectTable.size_modify ..).ge.trans room)
  exact (spared.trans (.modifyProcess made pid fun _ => holder)).thenModify fresh _

/-- The number of threads is that from before a thread is started. -/
theorem size_startThread (starts : kernel.startThread thread = .ok after) :
    after.threads.slots.size = kernel.threads.slots.size := by
  obtain ⟨_, scheduler, _, rfl⟩ := startThread_eq_ok starts
  rw [modifyListed]
  split
  · exact ObjectTable.size_modify ..
  · exact ObjectTable.size_modify ..

theorem Queued.spares (queued : Queued kernel after) : Spares pid core kernel after := by
  intro process hosts room
  cases queued with
  | unchanged => exact .refl kernel
  | created found creates => exact (creates.spared room).1
  | takenBack found creates known => exact creates.spared_destroyThread room
  | opened found creates holds opens => exact creates.spared_handOver room
  | @started number process' holder holder' id made _ handle thread found creates holds known opens
      starts =>
      cases hosts.eq_of_find found
      obtain ⟨_, held, created⟩ := hosts.created creates
      obtain ⟨own, _⟩ := created.hosts.own _ _ known
      rw [size_startThread starts] at room
      refine (creates.spared_handOver room).trans (startThread_spared starts ?_)
      intro current listed
      have object := (ObjectTable.get?_eq_some_iff.mp listed).2
      rw [handOver, Kernel.modifyThread, ObjectTable.find?_modify, own, if_pos rfl] at object
      change (made.threads.find? id).map _ = _ at object
      rw [known] at object
      cases object
      rfl

end Kernel

end GuestMachine
