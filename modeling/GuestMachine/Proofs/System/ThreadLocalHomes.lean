import GuestMachine.Proofs.Kernel.ThreadHomes
import GuestMachine.Proofs.System.Occupancy

/-! # No two threads share thread-local storage

A slot is freed when the thread on a core exits. That thread has started, so its
process lists it and it has a slot to itself; and no other core has the thread,
so that it exits once.
-/

namespace GuestMachine

open Kernel

namespace Kernel

variable {kernel after : Kernel} {pid : ProcessId} {process process' : GuestProcess}
  {core : CoreIndex} {id : ThreadId} {thread : GuestThread} {context : ThreadContext}

/-- What the kernel has noted for a core runs there for the scheduler, too. The
    scheduler may have more to run, as a core that was stopped leaves its thread
    that way. -/
structure Seated (kernel : Kernel) : Prop where
  running : ∀ core id, kernel.currentId? core = some id →
    kernel.scheduler.state? id = some (.running core)
  scheduler : kernel.scheduler.WellFormed

namespace Seated

theorem of_spared (seated : kernel.Seated) (spared : Spared core kernel after) : after.Seated where
  running c id occupied := by
    rw [currentId?, spared.current] at occupied
    exact (spared.running id c).mpr (seated.running c id occupied)
  scheduler := spared.wellFormed seated.scheduler

theorem of_vacates (seated : kernel.Seated)
    (here : kernel.scheduler.state? id = some (.running core))
    (vacates : kernel.Vacates core id context after) : after.Seated where
  running c id' occupied := by
    rw [vacates.current] at occupied
    split at occupied
    · cases occupied
    · rename_i other
      have there := seated.running c id' occupied
      refine (vacates.running id' c).mpr ⟨?_, there⟩
      rintro rfl
      cases here.symm.trans there
      exact other rfl
  scheduler := vacates.scheduler seated.scheduler

theorem reschedule {scheduler : Scheduler} (seated : kernel.Seated)
    (running : ∀ id c, kernel.scheduler.state? id = some (.running c) →
      scheduler.state? id = some (.running c))
    (wellFormed : scheduler.WellFormed) : ({ kernel with scheduler } : Kernel).Seated where
  running c id occupied := running id c (seated.running c id occupied)
  scheduler := wellFormed

theorem setCurrent (seated : kernel.Seated) {id? : Option ThreadId}
    (here : ∀ id, id? = some id → kernel.scheduler.state? id = some (.running core)) :
    (kernel.setCurrent core id?).Seated where
  running c id occupied := by
    rw [currentId?, Kernel.setCurrent, Vector.getElem?_setIfInBounds] at occupied
    split at occupied
    · rename_i same
      split at occupied
      · rw [← same]
        rw [Option.join_some] at occupied
        exact here id (Option.eq_some_of_filter_eq_some occupied)
      · cases occupied
    · exact seated.running c id occupied
  scheduler := seated.scheduler

end Seated

/-- Everything is in order between two steps. -/
structure Settled (kernel : Kernel) (process : GuestProcess) : Prop where
  consistent : ∀ id, (kernel.threadRecord process id).Consistent
  seated : kernel.Seated
  housed : kernel.Housed process

/-- Everything is in order, and `core` has a thread. -/
structure Runs (core : CoreIndex) (thread : GuestThread) (kernel : Kernel) (process : GuestProcess) :
    Prop where
  settled : kernel.Settled process
  running : kernel.scheduler.state? thread.id = some (.running core)
  address : kernel.tlsAddress? thread.id = some thread.tlsAddress

theorem Runs.listed (runs : Runs core thread kernel process) : thread.id ∈ process.threads := by
  have level : (kernel.threadRecord process thread.id).level.isSome := by
    have scheduled := Option.isSome_of_eq_some runs.running
    rw [Scheduler.state?, Option.isSome_map] at scheduled
    change (kernel.scheduler.priority? thread.id).isSome
    rwa [Scheduler.priority?, Option.isSome_map]
  have owned := (runs.settled.consistent thread.id).owned_of_scheduled level
  exact List.count_pos_iff.mp (Nat.lt_of_lt_of_eq Nat.one_pos owned.symm)

/-- The kernel hosts an application of which `P` holds unless thread numbers have
    run out. -/
def Secures (pid : ProcessId) (P : Kernel → GuestProcess → Prop) (kernel : Kernel) : Prop :=
  ∃ process, kernel.Hosts pid process ∧ (kernel.threads.slots.size ≤ 2 ^ 64 → P kernel process)

theorem Secures.hosts {P : Kernel → GuestProcess → Prop} (secures : Secures pid P kernel) :
    ∃ process, kernel.Hosts pid process := by
  obtain ⟨process, hosts, _⟩ := secures
  exact ⟨process, hosts⟩

theorem Secures.step {P Q : Kernel → GuestProcess → Prop} (secures : Secures pid P kernel)
    (carries : Carries pid kernel after)
    (keeps : ∀ process process', kernel.Hosts pid process →
      Carried pid kernel process after process' → after.threads.slots.size ≤ 2 ^ 64 →
      P kernel process → Q after process') :
    Secures pid Q after := by
  obtain ⟨process, hosts, holds⟩ := secures
  obtain ⟨process', carried⟩ := carries process hosts
  exact ⟨process', carried.hosts, fun room =>
    keeps process process' hosts carried room (holds (carried.size.trans room))⟩

theorem Settled.of_carried (settled : kernel.Settled process)
    (carried : Carried pid kernel process after process')
    (room : after.threads.slots.size ≤ 2 ^ 64) (seated : after.Seated)
    (housed : after.Housed process') : after.Settled process' where
  consistent id := (carried.leads room id (settled.consistent id)).1
  seated
  housed

/-- Cores may have other threads now, but no slot changes hands. -/
theorem Settled.reseated (settled : kernel.Settled process) (hosts : kernel.Hosts pid process)
    (carried : Carried pid kernel process after process') (resettles : Resettles pid kernel after)
    (room : after.threads.slots.size ≤ 2 ^ 64) (seated : after.Seated) : after.Settled process' :=
  settled.of_carried carried room seated
    ((resettles process process' hosts carried.hosts room).housed settled.housed)

/-- Nobody is switched. -/
theorem Secures.of_spared (secures : Secures pid Settled kernel) (carries : Carries pid kernel after)
    (spares : Spares pid core kernel after) (resettles : Resettles pid kernel after) :
    Secures pid Settled after :=
  secures.step carries fun process _ hosts carried room settled =>
    settled.reseated hosts carried resettles room
      (settled.seated.of_spared (spares process hosts room))

theorem Secures.runs_of_spared {c : CoreIndex} (secures : Secures pid (Runs core thread) kernel)
    (carries : Carries pid kernel after) (spares : Spares pid c kernel after)
    (resettles : Resettles pid kernel after) : Secures pid (Runs core thread) after := by
  refine secures.step carries fun process process' hosts carried room runs => ?_
  have spared := spares process hosts room
  have resides := resettles process process' hosts carried.hosts room
  exact ⟨runs.settled.reseated hosts carried resettles room (runs.settled.seated.of_spared spared),
    (spared.running thread.id core).mpr runs.running,
    resides.addresses thread.id thread.tlsAddress runs.address⟩

/-- The thread leaves the core, and keeps its slot. -/
theorem Secures.of_vacates (secures : Secures pid (Runs core thread) kernel)
    (carries : Carries pid kernel after)
    (vacates : kernel.scheduler.state? thread.id = some (.running core) →
      kernel.Vacates core thread.id context after)
    (resettles : Resettles pid kernel after) : Secures pid Settled after :=
  secures.step carries fun _ _ hosts carried room runs =>
    runs.settled.reseated hosts carried resettles room
      (runs.settled.seated.of_vacates runs.running (vacates runs.running))

theorem Secures.of_served (secures : Secures pid Settled kernel) (served : Served core kernel after) :
    Secures pid Settled after :=
  secures.of_spared served.carries served.spares served.resettles

theorem Secures.of_queued (secures : Secures pid Settled kernel) (queued : Queued kernel after) :
    Secures pid Settled after := by
  have spares : Spares pid maxCores kernel after := queued.spares
  exact secures.of_spared queued.carries spares queued.resettles

theorem Secures.settled (secures : Secures pid (Runs core thread) kernel) :
    Secures pid Settled kernel := by
  obtain ⟨process, hosts, runs⟩ := secures
  exact ⟨process, hosts, fun room => (runs room).settled⟩

end Kernel

namespace Core

variable {pid : ProcessId} {process process' : GuestProcess} {core : Core} {c : CoreIndex}
  {machine : Machine Kernel} {kernel : Kernel} {thread : GuestThread}

theorem current_resettles (core : Core) (machine : Machine Kernel) :
    Resettles pid machine.os (core.current machine).2.2.os := by
  rw [current]
  split
  · exact .refl _
  · rw [pick]
    dsimp only
    split
    · exact .of_kept rfl fun _ => rfl
    · exact .of_kept rfl fun _ => rfl

/-- The thread that a core goes on with, or takes next, runs there. -/
theorem current_seated (hosts : machine.os.Hosts pid process) (seated : machine.os.Seated)
    (small : core.index < maxCores) :
    (core.current machine).2.2.os.Seated ∧ ∀ thread, (core.current machine).1 = some thread →
      (core.current machine).2.2.os.scheduler.state? thread.id = some (.running core.index) := by
  cases occupied : machine.os.currentId? core.index with
  | some id =>
      rw [current_of_occupied occupied]
      refine ⟨seated, fun thread known => ?_⟩
      obtain ⟨rfl, _⟩ := hosts.own_of_get known
      exact seated.running core.index thread.id occupied
  | none =>
      rw [current_of_free occupied]
      obtain ⟨wellFormed, choice⟩ := choice_cases seated.scheduler small
      rcases choice with ⟨nobody, running⟩ | ⟨id, picked, _, off, running⟩
      · rw [nobody]
        exact ⟨seated.reschedule (fun id c => (running id c).mpr) wellFormed, nofun⟩
      · -- The scheduler chooses among those that are ready, so nobody is taken off a core.
        have stays (id' : ThreadId) (c : CoreIndex)
            (there : machine.os.scheduler.state? id' = some (.running c)) :
            (core.choice machine).2.state? id' = some (.running c) := by
          rw [running, if_neg]
          · exact there
          · rintro rfl
            exact off c there
        have chosen := seated.reschedule stays wellFormed
        have here : (core.choice machine).2.state? id = some (.running core.index) :=
          (running id core.index).mpr ((if_pos rfl).mpr rfl)
        rw [picked, Option.bind_some]
        split
        · rename_i thread known
          obtain ⟨rfl, _⟩ := hosts.own_of_get known
          refine ⟨chosen.setCurrent fun id same => ?_, fun thread' same => ?_⟩
          · cases same
            exact here
          · cases same
            exact here
        · exact ⟨chosen, nofun⟩

theorem current_secures (secures : Secures pid Settled machine.os) (small : core.index < maxCores) :
    Secures pid Settled (core.current machine).2.2.os ∧
      ∀ thread, (core.current machine).1 = some thread →
        thread.processId = pid ∧
          Secures pid (Runs core.index thread) (core.current machine).2.2.os := by
  have carries : Carries pid machine.os (core.current machine).2.2.os := core.current_carries machine
  have settled {process process' : GuestProcess} (hosts : machine.os.Hosts pid process)
      (carried : Carried pid machine.os process (core.current machine).2.2.os process')
      (room : (core.current machine).2.2.os.threads.slots.size ≤ 2 ^ 64)
      (settled : machine.os.Settled process) : (core.current machine).2.2.os.Settled process' :=
    settled.reseated hosts carried (core.current_resettles machine) room
      (current_seated hosts settled.seated small).1
  refine ⟨secures.step carries fun _ _ => settled, fun thread runs => ?_⟩
  obtain ⟨id, known⟩ := current_known runs
  refine ⟨?_, secures.step carries fun process process' hosts carried room before => ?_⟩
  · obtain ⟨process, hosts⟩ := secures.hosts
    exact (hosts.own_of_get known).2
  · obtain ⟨rfl, _⟩ := hosts.own_of_get known
    have resides := core.current_resettles machine process process' hosts carried.hosts room
    exact ⟨settled hosts carried room before,
      (current_seated hosts before.seated small).2 thread runs,
      resides.addresses thread.id thread.tlsAddress (tlsAddress?_of_get known)⟩

theorem execute_secures (secures : Secures pid (Runs c thread) machine.os) (core : Core)
    (rounds : Nat) :
    Secures pid (Runs c thread) (core.execute Kernel.operatingSystem rounds machine).2.2.os := by
  have continues (before after : Machine Kernel) (same : Machine.Continues before after)
      (secures : Secures pid (Runs c thread) before.os) : Secures pid (Runs c thread) after.os := by
    rw [same.os]
    exact secures
  have calls (before after : Machine Kernel) (follows : Follows core.index before after)
      (secures : Secures pid (Runs c thread) before.os) : Secures pid (Runs c thread) after.os :=
    secures.runs_of_spared follows.os.carries follows.os.spares follows.os.resettles
  obtain ⟨before, kept, ended⟩ := execute_keeps continues calls rounds secures
  rw [ended.os]
  exact kept

theorem resettles_of_saves {after : Kernel} (id : ThreadId) (context : ThreadContext)
    (processes : after.processes = kernel.processes)
    (threads : after.threads = (kernel.modifyThread id (·.saveContext context)).threads) :
    Resettles pid kernel after := by
  refine .of_kept processes fun id' => ?_
  rw [tlsAddress?, threads]
  exact tlsAddress?_modifyThread kernel id (·.saveContext context) (fun _ => rfl) id'

theorem release_secures (secures : Secures pid Settled kernel) (core : Core) (id : ThreadId) :
    Secures pid Settled (core.release id kernel) := by
  refine secures.step (core.release_carries id kernel) fun _ _ hosts carried room settled => ?_
  have saved : (kernel.modifyThread id (·.saveContext core.context)).Seated :=
    ⟨settled.seated.running, settled.seated.scheduler⟩
  exact settled.reseated hosts carried (resettles_of_saves id core.context rfl rfl) room
    (saved.setCurrent nofun)

theorem giveWay_secures (secures : Secures pid (Runs core.index thread) kernel)
    (small : core.index < maxCores) : Secures pid Settled (core.giveWay thread.id kernel) :=
  secures.of_vacates (core.giveWay_carries thread.id kernel) (giveWay_vacates small)
    (resettles_of_saves thread.id core.context rfl rfl)

theorem park_secures (secures : Secures pid (Runs core.index thread) kernel)
    (small : core.index < maxCores) (deadline : UInt64) :
    Secures pid Settled (core.park thread.id deadline kernel) :=
  secures.of_vacates (core.park_carries thread.id deadline kernel)
    (fun running => park_vacates small running deadline)
    (resettles_of_saves thread.id core.context rfl rfl)

/-- With the thread, its slot is gone from the process. -/
theorem retire_housed (hosts : machine.os.Hosts pid process) (owner : thread.processId = pid)
    (runs : machine.os.Runs core.index thread process)
    (hosts' : (core.retire thread machine).os.Hosts pid process')
    (room : (core.retire thread machine).os.threads.slots.size ≤ 2 ^ 64) :
    (core.retire thread machine).os.Housed process' := by
  let left := machine.os.setCurrent core.index none
  have left_hosts : left.Hosts pid process :=
    ⟨hosts.application, hosts.found, hosts.number, hosts.alone, hosts.own, hosts.handles⟩
  have left_housed : left.Housed process := ⟨runs.settled.housed.home, runs.settled.housed.apart⟩
  obtain ⟨gone, carried⟩ := left_hosts.carried_terminateThread owner
  have housed : (left.terminateThread thread).Housed gone :=
    left_housed.terminateThread left_hosts owner runs.listed runs.address carried.hosts
  rw [retire] at hosts' room ⊢
  split at hosts'
  · rename_i last
    rw [if_pos last] at room ⊢
    rw [Machine.exitProcess_os] at hosts' room ⊢
    exact (endApplication_resettles _ gone process' carried.hosts hosts' room).housed housed
  · rename_i others
    rw [if_neg others]
    cases hosts'.eq_of_find carried.hosts.find
    exact housed

theorem retire_secures (machine : Machine Kernel)
    (secures : Secures pid (Runs core.index thread) machine.os)
    (small : core.index < maxCores) (owner : thread.processId = pid) :
    Secures pid Settled (core.retire thread machine).os := by
  refine secures.step (core.retire_carries machine owner)
    fun process process' hosts carried room runs => ?_
  exact runs.settled.of_carried carried room
    (runs.settled.seated.of_vacates runs.running
      (retire_vacates small thread machine core.context))
    (retire_housed hosts owner runs carried.hosts room)

theorem serveSwitch_secures (secures : Secures pid (Runs core.index thread) machine.os)
    (small : core.index < maxCores) (owner : thread.processId = pid) :
    Secures pid Settled (core.serveSwitch thread machine).os := by
  have taken : Secures pid (Runs core.index thread) (machine.os.takeSwitch core.index).2 :=
    secures.runs_of_spared (.of_same rfl rfl rfl fun _ => rfl)
      (takeSwitch_spared machine.os core.index).spares (.of_kept rfl fun _ => rfl)
  rw [serveSwitch]
  dsimp only
  split
  · exact taken.settled
  · exact giveWay_secures taken small
  · exact park_secures taken small _
  · exact retire_secures { machine with os := _ } taken small owner

theorem step_secures (secures : Secures pid Settled machine.os) (small : core.index < maxCores)
    (rounds : Nat) : Secures pid Settled (core.step rounds machine).2.2.os := by
  obtain ⟨picked, runs⟩ := current_secures secures small
  refine step_cases (P := fun _ after => Secures pid Settled after.os) secures ?_ ?_
  · intro loaded middle nobody
    rw [nobody] at picked
    exact picked.step (.of_same rfl rfl rfl fun _ => rfl) fun _ _ hosts carried room settled =>
      settled.reseated hosts carried (.of_kept rfl fun _ => rfl) room
        (settled.seated.setCurrent nofun)
  · intro thread loaded middle outcome core' after current ran
    have loads := core.current_persists machine
    have kept := execute_persists rounds loaded middle
    rw [current] at runs loads
    rw [ran] at kept
    have index : core'.index = core.index := kept.index.trans loads.index
    obtain ⟨owner, runs⟩ := runs thread rfl
    -- However the burst ends, the thread is on its core until then.
    have runs := execute_secures runs loaded rounds
    rw [ran] at runs
    have small' : core'.index < maxCores := by rwa [index]
    rw [← index] at runs
    exact ⟨runs.settled, serveSwitch_secures runs small' owner, giveWay_secures runs small',
      release_secures runs.settled core' thread.id⟩

end Core

namespace KernelStep

/-- A core that takes part is one of those that the kernel can have. -/
def OnCore : KernelStep → Prop
  | resume core | serveSwitch core | giveWay core | release core | step _ core =>
      core.index < maxCores
  | call .. | create .. | start _ | startMain .. | setBoard _ => True

variable {pid : ProcessId} {machine : Machine Kernel}

theorem forCurrent_secures {core : Core} {f : GuestThread → Machine Kernel → Machine Kernel}
    (secures : Secures pid Settled machine.os)
    (keeps : ∀ thread, thread.processId = pid → Secures pid (Runs core.index thread) machine.os →
      Secures pid Settled (f thread machine).os) :
    Secures pid Settled (forCurrent core f machine).os := by
  rw [forCurrent]
  split
  · rename_i thread current
    obtain ⟨process, hosts, settled⟩ := secures
    have known := hosts.currentThread current
    refine keeps thread (hosts.own_of_get known).2 ⟨process, hosts, fun room => ?_⟩
    exact ⟨settled room, (settled room).seated.running core.index thread.id
      (hosts.currentId?_of_currentThread current), tlsAddress?_of_get known⟩
  · exact secures

theorem perform_secures (secures : Secures pid Settled machine.os) {step : KernelStep}
    (onCore : step.OnCore) : Secures pid Settled (step.perform machine).os := by
  cases step with
  | call core number context =>
      obtain ⟨after, served, follows⟩ :=
        Kernel.serviceCall_serves core number { context, env := machine }
      simp only [perform, served]
      exact secures.of_served follows.os
  | create entry argument stackTop priority idealCore =>
      obtain ⟨process, hosts⟩ := secures.hosts
      simp only [perform_create, hosts.applicationProcess?_eq]
      split
      · rename_i create
        exact secures.of_queued (.created hosts.find ⟨_, _, _, _, _, _, _, create⟩)
      · exact secures
  | start id =>
      obtain ⟨process, hosts⟩ := secures.hosts
      have carries : Carries pid machine.os ((KernelStep.start id).perform machine).os :=
        perform_carries _ machine
      simp only [perform_start] at carries ⊢
      split
      · rename_i started
        rw [started] at carries
        obtain ⟨thread, found, starts⟩ := exceptBind_eq_ok started
        have known := hosts.getThread found
        have spares : Spares pid maxCores machine.os _ :=
          (startThread_spared_of_get known starts).spares
        exact secures.of_spared carries spares
          (startThread_resettles (hosts.own_of_get known).2 starts)
      · exact secures
  | startMain loader priority stackSize =>
      exact secures.of_queued (Handoff.startApplication_queued { loader, machine } priority stackSize)
  | resume core => exact (Core.current_secures secures onCore).1
  | serveSwitch core =>
      exact forCurrent_secures secures fun thread owner runs =>
        Core.serveSwitch_secures runs onCore owner
  | giveWay core =>
      exact forCurrent_secures secures fun thread _ runs => Core.giveWay_secures runs onCore
  | release core =>
      exact forCurrent_secures secures fun thread _ runs =>
        Core.release_secures runs.settled core thread.id
  | step rounds core => exact Core.step_secures secures onCore rounds
  | setBoard board => exact secures

theorem performAll_secures {steps : List KernelStep} (secures : Secures pid Settled machine.os)
    (onCore : ∀ step ∈ steps, step.OnCore) :
    Secures pid Settled (performAll machine steps).os := by
  induction steps generalizing machine with
  | nil => exact secures
  | cons step steps ih =>
      obtain ⟨first, others⟩ := List.forall_mem_cons.mp onCore
      exact ih (perform_secures secures first) others

end KernelStep

namespace Kernel

variable {kernel : Kernel} {pid : ProcessId} {process : GuestProcess}

theorem createApplication_secures {cores : Nat} {traceCalls : Bool}
    {monitor : Option MonitorHandle} {lines : List Nat} {params : ProcessParams}
    (created : ({ Kernel.create cores traceCalls monitor with lines } : Kernel).createApplication
      params = .ok (pid, kernel)) :
    Secures pid Settled kernel := by
  obtain ⟨process, hosts, consistent⟩ := createApplication_hosts created
  cases created
  have nobody (id : ThreadId) : id ∉ process.threads := by
    intro member
    obtain ⟨_, _, object, _⟩ := (consistent id).listed_of_owned (List.count_pos_iff.mpr member).ne'
    cases object
  refine ⟨process, hosts, fun _ => ⟨consistent, ⟨fun core id occupied => ?_, ?_⟩,
    fun id member => absurd member (nobody id), fun id member => absurd member (nobody id)⟩⟩
  · cases (currentId?_of_vacant rfl core).symm.trans occupied
  · exact Scheduler.wellFormed_empty

/-- No two threads that live share a byte of thread-local storage. -/
def ThreadsApart (kernel : Kernel) : Prop :=
  ∀ id other thread thread', kernel.threads.get? id = some thread →
    kernel.threads.get? other = some thread' → thread.state ≠ .terminated →
    thread'.state ≠ .terminated → id ≠ other →
      thread.tlsAddress ≠ thread'.tlsAddress ∧
        ∀ i, InArea thread.tlsAddress Layout.tlsEntrySize i →
          ¬ InArea thread'.tlsAddress Layout.tlsEntrySize i

theorem Settled.threadsApart (settled : kernel.Settled process) : kernel.ThreadsApart := by
  have home {id : ThreadId} {thread : GuestThread} (known : kernel.threads.get? id = some thread)
      (alive : thread.state ≠ .terminated) : id ∈ process.threads ∧
        kernel.tlsAddress? id = some thread.tlsAddress := by
    obtain ⟨listed, object⟩ := ObjectTable.get?_eq_some_iff.mp known
    have owned := ((settled.consistent id).alive ⟨thread, object, .inl listed⟩ object alive).1
    exact ⟨List.count_pos_iff.mp (Nat.lt_of_lt_of_eq Nat.one_pos owned.symm),
      tlsAddress?_of_get known⟩
  intro id other thread thread' known known' alive alive' different
  obtain ⟨member, address⟩ := home known alive
  obtain ⟨member', address'⟩ := home known' alive'
  have apart : thread.tlsAddress ≠ thread'.tlsAddress := fun same =>
    different (settled.housed.apart id member other member' (by rw [address, address', same]))
  refine ⟨apart, fun i here there => ?_⟩
  obtain ⟨slot, below, _, at_slot⟩ := settled.housed.home id member
  obtain ⟨slot', below', _, at_slot'⟩ := settled.housed.home other member'
  rw [address, Option.some_inj] at at_slot
  rw [address', Option.some_inj] at at_slot'
  rw [at_slot] at here
  rw [at_slot'] at there
  have same : slot = slot' := GuestProcess.InSlot.unique below below' here there
  exact apart (by rw [at_slot, at_slot', same])

end Kernel

/-- A slot of thread-local storage has one holder at a time: with any calls to a
    process and its memory, if nobody else maps in the region, and over any run of
    a new application, as long as thread numbers have not run out. -/
theorem performAll_separatesSlots (owner : ProcessId) (ownParams : ProcessParams)
    {calls : List ProcessCall} (spares : ∀ call ∈ calls, call.Spares Layout.tlsBase Layout.tlsSize)
    {cores : Nat} {traceCalls : Bool} {monitor : Option MonitorHandle} {lines : List Nat}
    {params : ProcessParams} {pid : ProcessId} {kernel : Kernel}
    (created : ({ Kernel.create cores traceCalls monitor with lines } : Kernel).createApplication
      params = .ok (pid, kernel))
    (board : Board) {steps : List KernelStep} (onCore : ∀ step ∈ steps, step.OnCore)
    (room : (KernelStep.performAll { board, os := kernel } steps).os.threads.slots.size ≤ 2 ^ 64) :
    ((ProcessMemory.ofParams owner ownParams).performAll calls).LeasesSlots
        ((ProcessMemory.ofParams owner ownParams).leases [] calls) ∧
      (KernelStep.performAll { board, os := kernel } steps).os.ThreadsApart := by
  refine ⟨ProcessMemory.performAll_leasesSlots owner ownParams spares, ?_⟩
  let machine : Machine Kernel := { board, os := kernel }
  have secures : Secures pid Settled machine.os := createApplication_secures created
  obtain ⟨process, _, settled⟩ := KernelStep.performAll_secures secures onCore
  exact (settled room).threadsApart

/-- Two slots are handed out and written to. The first one is given back, by an
    address in the middle, and handed out again. -/
def reuseSlot : List ProcessCall :=
  [.allocateTls, .allocateTls, .memory (.write Layout.tlsBase (List.replicate 0x400 7)),
    .freeTls (Layout.tlsBase + 0x80), .allocateTls]

/-- Of three threads the first one exits, and a fourth one is created. -/
def oneReplaced : List KernelStep :=
  oneExits ++ [.create 0x8000000 2 0x30000 44 0]

/-- The fourth thread has the slot of the first one, and no thread that lives has. -/
theorem performAll_separatesSlots_oneReplaced :
    let after := (KernelStep.performAll { board := {}, os := smallApplication } oneReplaced).os
    (after.threads.ids = [2, 3, 4] ∧ [1, 2, 3, 4].map after.tlsAddress? =
      [0, 1, 2, 0].map fun slot => some (GuestProcess.tlsAddress slot)) ∧
      (ProcessMemory.ofParams 0x51 smallParams).leases [] reuseSlot =
        [0, 1].map GuestProcess.tlsAddress ∧
      ((ProcessMemory.ofParams 0x51 smallParams).performAll reuseSlot).LeasesSlots
        ((ProcessMemory.ofParams 0x51 smallParams).leases [] reuseSlot) ∧
      after.ThreadsApart := by
  have created : ∃ params pid,
      ({ Kernel.create 1 false none with lines := [] } : Kernel).createApplication params =
        .ok (pid, smallApplication) :=
    ⟨_, _, rfl⟩
  obtain ⟨params, pid, created⟩ := created
  have spares : ∀ call ∈ reuseSlot, call.Spares Layout.tlsBase Layout.tlsSize := by
    simp only [reuseSlot, List.forall_mem_cons, ProcessCall.Spares, MemoryCall.Spares,
      MemoryCall.Touches]
    exact ⟨trivial, trivial, fun _ _ => id, trivial, trivial, by simp⟩
  have onCore : ∀ step ∈ oneReplaced, step.OnCore := by
    simp [oneReplaced, oneExits, KernelStep.OnCore, maxCores]
  exact ⟨⟨by decide +kernel, by decide +kernel⟩, by decide +kernel,
    performAll_separatesSlots 0x51 smallParams spares created {} onCore (by decide +kernel)⟩

end GuestMachine
