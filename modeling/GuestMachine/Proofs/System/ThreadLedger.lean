import GuestMachine.Proofs.Loader.MainThread
import GuestMachine.Proofs.System.Bursts
import GuestMachine.System.Step

/-! # Threads are accounted for

Guest code, run loop and loader only take steps after which the records of all
threads are consistent again. So whatever happens, the scheduler knows the
started threads and no others, the process lists the threads that live, and a
thread that is gone stays on the list just as long as some handle names it.
-/

namespace GuestMachine

open Kernel

namespace Core

variable {pid : ProcessId} {core : Core} {machine : Machine Kernel}

theorem execute_carries {os : Kernel} (core : Core) (rounds : Nat)
    (carries : Carries pid os machine.os) :
    Carries pid os (core.execute Kernel.operatingSystem rounds machine).2.2.os := by
  have continues (before after : Machine Kernel) (same : Machine.Continues before after)
      (carries : Carries pid os before.os) : Carries pid os after.os := by
    rw [same.os]
    exact carries
  have calls (before after : Machine Kernel) (follows : Follows core.index before after)
      (carries : Carries pid os before.os) : Carries pid os after.os :=
    carries.trans follows.os.carries
  obtain ⟨before, kept, ended⟩ := execute_keeps continues calls rounds carries
  rw [ended.os]
  exact kept

theorem current_carries (core : Core) (machine : Machine Kernel) :
    Carries pid machine.os (core.current machine).2.2.os := by
  have woken (id : ThreadId) : ((machine.os.scheduler.wakeExpired machine.ticks).2.next
      core.index).2.priority? id = machine.os.scheduler.priority? id := by
    rw [Scheduler.priority?_next, Scheduler.priority?_wakeExpired]
  rw [current]
  split
  · exact .refl _
  · rw [pick]
    dsimp only
    split
    · exact .of_same rfl rfl rfl woken
    · exact .of_same rfl rfl rfl woken

theorem current_known {thread : GuestThread} (runs : (core.current machine).1 = some thread) :
    ∃ id, machine.os.threads.get? id = some thread := by
  rw [current] at runs
  split at runs
  · exact ⟨_, runs⟩
  · rw [pick] at runs
    dsimp only at runs
    split at runs
    · rename_i known
      cases runs
      obtain ⟨id, _, known⟩ := Option.bind_eq_some_iff.mp known
      exact ⟨id, known⟩
    · cases runs

theorem release_carries (core : Core) (id : ThreadId) (kernel : Kernel) :
    Carries pid kernel (core.release id kernel) := by
  intro process hosts
  have saved := hosts.carried_touched id (f := (·.saveContext core.context)) (fun _ => rfl)
    (fun _ => rfl) (fun _ => rfl) fun _ => rfl
  exact saved.andThen (.of_same rfl rfl rfl fun _ => rfl)

theorem giveWay_carries (core : Core) (id : ThreadId) (kernel : Kernel) :
    Carries pid kernel (core.giveWay id kernel) :=
  (core.release_carries id kernel).trans
    (.of_same rfl rfl rfl fun _ => Scheduler.priority?_yield ..)

theorem park_carries (core : Core) (id : ThreadId) (deadline : UInt64) (kernel : Kernel) :
    Carries pid kernel (core.park id deadline kernel) :=
  (core.release_carries id kernel).trans
    (.of_same rfl rfl rfl fun _ => Scheduler.priority?_sleep ..)

theorem retire_carries {thread : GuestThread} (core : Core) (machine : Machine Kernel)
    (owner : thread.processId = pid) :
    Carries pid machine.os (core.retire thread machine).os := by
  have left : Carries pid machine.os (machine.os.setCurrent core.index none) :=
    .of_same rfl rfl rfl fun _ => rfl
  have gone : Carries pid machine.os
      ((machine.os.setCurrent core.index none).terminateThread thread) :=
    left.trans fun _ hosts => hosts.carried_terminateThread owner
  rw [retire]
  split
  · rw [Machine.exitProcess_os]
    exact gone.trans (endApplication_carries _)
  · exact gone

theorem serveSwitch_carries {thread : GuestThread} (owner : thread.processId = pid) :
    Carries pid machine.os (core.serveSwitch thread machine).os := by
  have taken : Carries pid machine.os (machine.os.takeSwitch core.index).2 :=
    .of_same rfl rfl rfl fun _ => rfl
  rw [serveSwitch]
  dsimp only
  split
  · exact taken
  · exact taken.trans (giveWay_carries core thread.id _)
  · exact taken.trans (park_carries core thread.id _ _)
  · exact taken.trans (retire_carries core { machine with os := _ } owner)

/-- A step does nothing, or it finds no thread, or it runs one for a burst and
    serves what comes of that. So what holds after each of these holds after the
    step. -/
theorem step_cases {P : Core → Machine Kernel → Prop} {rounds : Nat} (exited : P core machine)
    (nobody : ∀ loaded middle, core.current machine = (none, loaded, middle) →
      P loaded (middle.mapOs (·.setCurrent loaded.index none)))
    (burst : ∀ thread loaded middle outcome core' after,
      core.current machine = (some thread, loaded, middle) →
      loaded.execute Kernel.operatingSystem rounds middle = (outcome, core', after) →
      P core' after ∧ P core' (core'.serveSwitch thread after) ∧
        P core' (after.mapOs (core'.giveWay thread.id)) ∧
        P core' (after.mapOs (core'.release thread.id))) :
    P (core.step rounds machine).2.1 (core.step rounds machine).2.2 := by
  rw [step]
  split
  · exact exited
  · split
    · rename_i current
      exact nobody _ _ current
    · rename_i thread loaded middle current
      cases ran : loaded.execute Kernel.operatingSystem rounds middle with
      | mk outcome rest =>
          obtain ⟨core', after⟩ := rest
          obtain ⟨stays, served, gaveWay, released⟩ := burst _ _ _ _ _ _ current ran
          cases outcome with
          | outOfRounds => exact stays
          | faulted error => exact stays
          | halted reason =>
              cases reason with
              | supervisorCall => exact served
              | breakLoop => exact gaveWay
              | stopped => exact released

theorem step_carries (rounds : Nat) (core : Core) (machine : Machine Kernel) :
    Carries pid machine.os (core.step rounds machine).2.2.os := by
  intro process hosts
  have picked : Carries pid machine.os (core.current machine).2.2.os := core.current_carries machine
  refine step_cases (P := fun _ after => Carries pid machine.os after.os) (.refl _) ?_ ?_ process hosts
  · intro loaded middle nobody
    rw [nobody] at picked
    exact picked.trans (.of_same rfl rfl rfl fun _ => rfl)
  · intro thread loaded middle outcome core' after current ran
    obtain ⟨id, known⟩ := current_known (congrArg Prod.fst current)
    have owner := (hosts.own_of_get known).2
    rw [current] at picked
    have stays := execute_carries loaded rounds picked
    rw [ran] at stays
    exact ⟨stays, stays.trans (serveSwitch_carries owner), stays.trans (giveWay_carries core' thread.id _),
      stays.trans (release_carries core' thread.id _)⟩

end Core

/-- What guest, host, loader and run loop do with threads. A step of the run
    loop is here as a whole and in its parts. -/
inductive KernelStep where
  /-- A supervisor call on a core, with these registers. -/
  | call (core : CoreIndex) (number : UInt32) (context : ThreadContext)
  /-- The host creates a thread of the application. -/
  | create (entry : Address) (argument : UInt64) (stackTop : Address) (priority : UInt32)
      (idealCore : Int32)
  /-- The host starts a thread. -/
  | start (id : ThreadId)
  /-- A loader queues the main thread. -/
  | startMain (loader : Loader) (priority : UInt32) (stackSize : UInt64)
  /-- A core goes on with its thread, or takes the next one. -/
  | resume (core : Core)
  /-- A core serves what a supervisor call has asked for. -/
  | serveSwitch (core : Core)
  /-- A core that was told to break lets its thread go behind its peers. -/
  | giveWay (core : Core)
  /-- A core that was stopped saves its thread. -/
  | release (core : Core)
  | step (rounds : Nat) (core : Core)
  /-- Memory, clock, monitor and halt lines change. -/
  | setBoard (board : Board)

namespace KernelStep

/-- Do something for the thread that a core runs, if it runs one. -/
def forCurrent (core : Core) (f : GuestThread → Machine Kernel → Machine Kernel)
    (machine : Machine Kernel) : Machine Kernel :=
  match machine.os.currentThread core.index with
  | .ok thread => f thread machine
  | .error _ => machine

def perform : KernelStep → Machine Kernel → Machine Kernel
  | call core number context, machine =>
      (outcomeState (Kernel.serviceCall core number { context, env := machine })).env
  | create entry argument stackTop priority idealCore, machine =>
      match machine.os.applicationProcess? with
      | some process =>
          outcomeState (KernelM.onKernelMemory (KernelMemoryM.createThread process entry argument
            stackTop priority idealCore) machine)
      | none => machine
  | start id, machine =>
      outcomeState ((do
        let thread ← KernelM.ask (·.getThread id)
        KernelM.onKernel (KernelStateM.startThread thread) : KernelM Unit) machine)
  | startMain loader priority stackSize, machine =>
      (outcomeState (Handoff.startApplication priority stackSize { loader, machine })).machine
  | resume core, machine => (core.current machine).2.2
  | serveSwitch core, machine => forCurrent core core.serveSwitch machine
  | giveWay core, machine =>
      forCurrent core (fun thread machine => machine.mapOs (core.giveWay thread.id)) machine
  | release core, machine =>
      forCurrent core (fun thread machine => machine.mapOs (core.release thread.id)) machine
  | step rounds core, machine => (core.step rounds machine).2.2
  | setBoard board, machine => { machine with board }

def performAll (machine : Machine Kernel) (steps : List KernelStep) : Machine Kernel :=
  steps.foldl (fun machine step => step.perform machine) machine

/-- A thread that cannot be created leaves nothing behind. -/
theorem perform_create (entry : Address) (argument : UInt64) (stackTop : Address)
    (priority : UInt32) (idealCore : Int32) (machine : Machine Kernel) :
    (create entry argument stackTop priority idealCore).perform machine =
      match machine.os.applicationProcess? with
      | some process =>
          match machine.os.createThread machine.board.memory process entry argument stackTop
            priority idealCore with
          | .ok (_, os, memory) => { board := { machine.board with memory }, os }
          | .error _ => machine
      | none => machine := by
  rw [perform]
  cases machine.os.applicationProcess? with
  | none => rfl
  | some process =>
      dsimp only
      rw [KernelM.run_createThread]
      cases machine.os.createThread machine.board.memory process entry argument stackTop priority
        idealCore <;> rfl

/-- A thread that cannot be started is as it was. -/
theorem perform_start (id : ThreadId) (machine : Machine Kernel) :
    (start id).perform machine =
      match machine.os.getThread id >>= machine.os.startThread with
      | .ok os => { machine with os }
      | .error _ => machine := by
  rw [perform]
  cases found : machine.os.getThread id with
  | error e =>
      have asked : KernelM.ask (·.getThread id) machine = .error e machine := by
        rw [KernelM.ask, found]
      rw [Operation.bind_of_error asked]
      rfl
  | ok thread =>
      have asked : KernelM.ask (·.getThread id) machine = .ok thread machine := by
        rw [KernelM.ask, found]
      rw [Operation.bind_of_ok asked, KernelM.run_startThread]
      change _ = match machine.os.startThread thread with
        | .ok os => { machine with os }
        | .error _ => machine
      cases machine.os.startThread thread <;> rfl

variable {pid : ProcessId} {machine : Machine Kernel}

theorem forCurrent_carries {core : Core} {f : GuestThread → Machine Kernel → Machine Kernel}
    (carries : ∀ thread, thread.processId = pid → Carries pid machine.os (f thread machine).os) :
    Carries pid machine.os (forCurrent core f machine).os := by
  intro process hosts
  rw [forCurrent]
  split
  · rename_i thread current
    exact carries thread (hosts.own_of_get (hosts.currentThread current)).2 process hosts
  · exact Carries.refl _ process hosts

theorem perform_carries (step : KernelStep) (machine : Machine Kernel) :
    Carries pid machine.os (step.perform machine).os := by
  cases step with
  | call core number context =>
      obtain ⟨after, served, follows⟩ :=
        Kernel.serviceCall_serves core number { context, env := machine }
      simp only [perform, served]
      exact follows.os.carries
  | create entry argument stackTop priority idealCore =>
      intro process hosts
      simp only [perform_create, hosts.applicationProcess?_eq]
      split
      · rename_i create
        obtain ⟨thread, held, created⟩ := hosts.created ⟨_, _, _, _, _, _, _, create⟩
        exact ⟨held, created.carried⟩
      · exact Carries.refl _ process hosts
  | start id =>
      intro process hosts
      simp only [perform_start]
      split
      · rename_i started
        obtain ⟨thread, found, starts⟩ := exceptBind_eq_ok started
        have known := hosts.getThread found
        exact hosts.carried_startThread (hosts.own_of_get known).2
          (fun _ => ⟨thread, known, rfl, rfl⟩) starts
      · exact Carries.refl _ process hosts
  | startMain loader priority stackSize =>
      exact (Handoff.startApplication_queued { loader, machine } priority stackSize).carries
  | resume core => exact core.current_carries machine
  | serveSwitch core =>
      exact forCurrent_carries fun thread owner => Core.serveSwitch_carries owner
  | giveWay core =>
      exact forCurrent_carries fun thread _ => core.giveWay_carries thread.id machine.os
  | release core =>
      exact forCurrent_carries fun thread _ => core.release_carries thread.id machine.os
  | step rounds core => exact core.step_carries rounds machine
  | setBoard board => exact .refl _

theorem performAll_append (machine : Machine Kernel) (past rest : List KernelStep) :
    performAll machine (past ++ rest) = performAll (performAll machine past) rest :=
  List.foldl_append

theorem performAll_carries (steps : List KernelStep) (machine : Machine Kernel) :
    Carries pid machine.os (performAll machine steps).os := by
  induction steps generalizing machine with
  | nil => exact .refl _
  | cons step rest ih => exact (step.perform_carries machine).trans (ih _)

end KernelStep

/-- The books on threads are in order. Of a thread that was `created`, they also
    say where it has got to. -/
structure Kernel.AccountsFor (kernel : Kernel) (process : GuestProcess)
    (created : ThreadId → Prop) : Prop where
  /-- The scheduler has the threads that are started. -/
  scheduled : ∀ id, id ∈ kernel.scheduler.threads ↔
    ∃ thread, kernel.threads.find? id = some thread ∧ thread.state = .started
  /-- It has them with their own priority. -/
  priority : ∀ id scheduled, kernel.scheduler.threads[id]? = some scheduled →
    ∃ thread, kernel.threads.find? id = some thread ∧
      thread.priority = scheduled.priority.toWord
  object : ∀ id, created id → ∃ thread, kernel.threads.find? id = some thread
  /-- A thread that has not terminated is on both lists, once on its process's. -/
  alive : ∀ id thread, created id → kernel.threads.find? id = some thread →
    thread.state ≠ .terminated → process.threads.count id = 1 ∧ kernel.threads.isListed id
  /-- One that has is not on its process's list, and on the other while a handle
      names it. -/
  gone : ∀ id thread, created id → kernel.threads.find? id = some thread →
    thread.state = .terminated →
      id ∉ process.threads ∧
        (kernel.threads.isListed id ↔ process.handles.references (.thread id))
  /-- The process lists nothing else. -/
  owned : ∀ id ∈ process.threads, kernel.threads.isListed id ∧
    ∃ thread, kernel.threads.find? id = some thread ∧ thread.state ≠ .terminated
  /-- Thread handles name listed threads only. -/
  named : ∀ id, process.handles.references (.thread id) → kernel.threads.isListed id

theorem Kernel.accountsFor {kernel : Kernel} {process : GuestProcess} {created : ThreadId → Prop}
    (consistent : ∀ id, (kernel.threadRecord process id).Consistent)
    (lasting : ∀ id, created id → (kernel.threadRecord process id).Lasting) :
    kernel.AccountsFor process created where
  scheduled id := by
    refine Iff.trans ?_ (consistent id).scheduled_iff
    rw [Std.TreeMap.mem_iff_isSome_getElem?]
    exact Bool.eq_iff_iff.mp Option.isSome_map.symm
  priority id scheduled found :=
    (consistent id).priority_eq (congrArg (Option.map ScheduledThread.priority) found)
  object id known := by
    obtain ⟨thread, object, _⟩ := lasting id known
    exact ⟨thread, object⟩
  alive id thread known object state := (consistent id).alive (lasting id known) object state
  gone id thread _ object state := by
    obtain ⟨owned, listed⟩ := (consistent id).gone object state
    exact ⟨List.count_eq_zero.mp owned, Bool.eq_iff_iff.mp listed⟩
  owned id listed := (consistent id).listed_of_owned (List.count_pos_iff.mpr listed).ne'
  named id named := (consistent id).listed_of_named named

/-- A new kernel with its application has no thread on record. -/
theorem Kernel.createApplication_hosts {cores : Nat} {traceCalls : Bool}
    {monitor : Option MonitorHandle} {lines : List Nat} {params : ProcessParams} {pid : ProcessId}
    {kernel : Kernel}
    (created : ({ Kernel.create cores traceCalls monitor with lines } : Kernel).createApplication
      params = .ok (pid, kernel)) :
    ∃ process, kernel.Hosts pid process ∧
      ∀ id, (kernel.threadRecord process id).Consistent := by
  cases created
  have empty : ({ firstId := GuestProcess.firstPid } : ObjectTable GuestProcess).slots.size < 2 ^ 64 := by
    decide
  refine ⟨.ofParams _ params, ⟨rfl, ?_, rfl, ?_, ?_, HandleTable.empty_wellFormed⟩, fun _ => .unknown⟩
  · apply ObjectTable.get?_eq_some_iff.mpr
    refine ⟨(ObjectTable.isListed_insert empty _ _).trans ?_,
      (ObjectTable.find?_insert empty _ _).trans (if_pos rfl)⟩
    exact (Bool.or_eq_true _ _).mpr (.inr (beq_self_eq_true _))
  · intro other process' known
    rcases ObjectTable.find?_insert_cases known with ⟨same, _⟩ | absent
    · exact same
    · cases absent
  · intro id thread absent
    cases absent

/-- Threads are accounted for, whatever steps are taken with a new application,
    as long as thread numbers have not run out: those of all threads that were
    known after any of the steps. -/
theorem performAll_accountsFor {cores : Nat} {traceCalls : Bool}
    {monitor : Option MonitorHandle} {lines : List Nat} {params : ProcessParams} {pid : ProcessId}
    {kernel : Kernel}
    (created : ({ Kernel.create cores traceCalls monitor with lines } : Kernel).createApplication
      params = .ok (pid, kernel))
    (board : Board) (steps : List KernelStep)
    (room : (KernelStep.performAll { board, os := kernel } steps).os.threads.slots.size ≤ 2 ^ 64) :
    ∃ process,
      (KernelStep.performAll { board, os := kernel } steps).os.applicationProcess? = some process ∧
      (KernelStep.performAll { board, os := kernel } steps).os.AccountsFor process fun id =>
        ∃ past, past <+: steps ∧
          (KernelStep.performAll { board, os := kernel } past).os.threads.isListed id := by
  obtain ⟨process, hosts, consistent⟩ := createApplication_hosts created
  obtain ⟨process', carried⟩ :=
    KernelStep.performAll_carries steps { board, os := kernel } process hosts
  refine ⟨process', ?_, accountsFor (fun id => (carried.leads room id (consistent id)).1) ?_⟩
  · rw [applicationProcess?, carried.hosts.application, Option.bind_some, carried.hosts.find]
  · rintro id ⟨past, ⟨rest, rfl⟩, listed⟩
    obtain ⟨middle, first⟩ :=
      KernelStep.performAll_carries past { board, os := kernel } process hosts
    obtain ⟨process'', next⟩ := KernelStep.performAll_carries rest
      (KernelStep.performAll { board, os := kernel } past) middle first.hosts
    rw [← KernelStep.performAll_append] at next
    cases next.hosts.eq_of_find carried.hosts.find
    have before := (first.leads (next.size.trans room) id (consistent id)).1
    obtain ⟨thread, known⟩ := Option.isSome_iff_exists.mp listed
    exact (next.leads room id before).2
      ⟨thread, (ObjectTable.get?_eq_some_iff.mp known).2, .inl listed⟩

def smallParams : ProcessParams :=
  { titleId := 1, name := "small", codeBase := 0x8000000, codeSize := 0x1000, idealCore := 0
    coreMask := 1 }

/-- A new kernel with a small application. -/
def smallApplication : Kernel :=
  match (Kernel.create 1 false none).createApplication smallParams with
  | .ok (_, kernel) => kernel
  | .error _ => default

/-- Two threads are created and the first one started. On its core it makes a
    third one, to which it has a handle then, and exits. -/
def oneExits : List KernelStep :=
  let core : Core := { index := 0, line := 0, monitor := none, maxBlockInstructions := 1 }
  let registers := (({} : RegisterFile).setXzr 1 0x8000000).setXzr 4 44
  [.create 0x8000000 0 0x10000 44 0, .create 0x8000000 1 0x20000 44 0, .start 1, .resume core,
    .call 0 Service.createThread.number { registers }, .call 0 Service.exitThread.number {},
    .serveSwitch core]

/-- Then two threads are left on the list, of three. -/
theorem performAll_accountsFor_oneExits :
    let after := (KernelStep.performAll { board := {}, os := smallApplication } oneExits).os
    after.threads.ids = [2, 3] ∧ after.threads.slots.size = 3 ∧ ∃ process,
      after.applicationProcess? = some process ∧ after.AccountsFor process fun id =>
        ∃ past, past <+: oneExits ∧
          (KernelStep.performAll { board := {}, os := smallApplication } past).os.threads.isListed
            id := by
  have created : ∃ params pid,
      ({ Kernel.create 1 false none with lines := [] } : Kernel).createApplication params =
        .ok (pid, smallApplication) :=
    ⟨_, _, rfl⟩
  obtain ⟨params, pid, created⟩ := created
  exact ⟨by decide +kernel, by decide +kernel,
    performAll_accountsFor created {} oneExits (by decide +kernel)⟩

end GuestMachine
