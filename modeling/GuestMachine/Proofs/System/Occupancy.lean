import GuestMachine.Proofs.Kernel.Undisturbed
import GuestMachine.Proofs.System.ThreadLedger

/-! # Which thread is on which core

The kernel notes it for each core, the scheduler for each thread. A step of the
run loop leaves the two in agreement, and no request to switch behind.
-/

namespace GuestMachine

open Kernel

/-- Kernel and scheduler agree on which thread is on which core. -/
structure Kernel.Orderly (kernel : Kernel) : Prop where
  occupied : ∀ core id,
    kernel.currentId? core = some id ↔ kernel.scheduler.state? id = some (.running core)
  scheduler : kernel.scheduler.WellFormed
  firstId : kernel.threads.firstId = 1

/-- The request to switch that is left on a core. -/
def Kernel.request? (kernel : Kernel) (core : CoreIndex) : Option SwitchRequest :=
  kernel.switches[core]?.join

namespace Kernel

variable {kernel after : Kernel} {pid : ProcessId} {process : GuestProcess} {core : CoreIndex}
  {id : ThreadId}

theorem Orderly.core_unique (orderly : kernel.Orderly) {other : CoreIndex}
    (here : kernel.currentId? core = some id) (there : kernel.currentId? other = some id) :
    other = core := by
  have same := ((orderly.occupied other id).mp there).symm.trans ((orderly.occupied core id).mp here)
  exact SchedulingState.running.inj (Option.some.inj same)

theorem Orderly.of_spared (orderly : kernel.Orderly) (spared : Spared core kernel after) :
    after.Orderly where
  occupied c id := by
    rw [currentId?, spared.current, spared.running]
    exact orderly.occupied c id
  scheduler := spared.wellFormed orderly.scheduler
  firstId := spared.firstId.trans orderly.firstId

theorem currentId?_setCurrent (small : core < maxCores) (id? : Option ThreadId) (c : CoreIndex) :
    (kernel.setCurrent core id?).currentId? c =
      if c = core then id?.filter (· != 0) else kernel.currentId? c := by
  simp only [currentId?, setCurrent, Vector.getElem?_setIfInBounds]
  by_cases same : c = core
  · subst same
    simp [small]
  · simp [same, Ne.symm same]

theorem currentId?_of_vacant (vacant : kernel.current = Vector.replicate maxCores none)
    (core : CoreIndex) : kernel.currentId? core = none := by
  rw [currentId?, vacant, Vector.getElem?_replicate]
  split <;> rfl

/-- A thread that the scheduler knows has started, and is on the list. -/
theorem started_of_scheduled (consistent : (kernel.threadRecord process id).Consistent)
    (scheduled : (kernel.scheduler.state? id).isSome) :
    ∃ thread, kernel.threads.get? id = some thread ∧ thread.state = .started := by
  have level : (kernel.threadRecord process id).level.isSome := by
    change (kernel.scheduler.priority? id).isSome
    rw [Scheduler.priority?, Option.isSome_map]
    rwa [Scheduler.state?, Option.isSome_map] at scheduled
  obtain ⟨listed, thread, object, state⟩ := consistent.listed_of_scheduled level
  exact ⟨thread, ObjectTable.get?_eq_some_iff.mpr ⟨listed, object⟩, state⟩

end Kernel

namespace Core

variable {pid : ProcessId} {process : GuestProcess} {core loaded : Core}
  {machine machine' : Machine Kernel} {thread : GuestThread}

/-- The registers of a thread when it gets a burst on `core`: those that the core
    has if it goes on with the thread, else those that the thread had saved. -/
def Starts (core : Core) (kernel : Kernel) (id : ThreadId) (start : ThreadContext) : Prop :=
  (kernel.currentId? core.index = some id ∧ start = core.context) ∨
    (kernel.currentId? core.index = none ∧ (∀ c, kernel.currentId? c ≠ some id) ∧
      kernel.liveContext? id = some start)

/-- A thread that is listed is on its core with its registers loaded. -/
structure Loads (core : Core) (before : Kernel) (thread : GuestThread) (loaded : Core)
    (after : Kernel) : Prop where
  index : loaded.index = core.index
  orderly : after.Orderly
  threads : after.threads = before.threads
  requests : ∀ c, after.request? c = before.request? c
  occupied : after.currentId? core.index = some thread.id
  others : ∀ c, c ≠ core.index → after.currentId? c = before.currentId? c
  listed : before.threads.get? thread.id = some thread
  starts : core.Starts before thread.id loaded.context

/-- The scheduler's choice for a core that is free, once those have woken whose
    time has come. -/
def choice (core : Core) (machine : Machine Kernel) : Option ThreadId × Scheduler :=
  (machine.os.scheduler.wakeExpired machine.ticks).2.next core.index

theorem choice_cases (schedules : machine.os.scheduler.WellFormed) (small : core.index < maxCores) :
    (core.choice machine).2.WellFormed ∧
      (((core.choice machine).1 = none ∧
          ∀ id c, (core.choice machine).2.state? id = some (.running c) ↔
            machine.os.scheduler.state? id = some (.running c)) ∨
        ∃ id, (core.choice machine).1 = some id ∧ (machine.os.scheduler.state? id).isSome ∧
          (∀ c, machine.os.scheduler.state? id ≠ some (.running c)) ∧
          ∀ id' c, (core.choice machine).2.state? id' = some (.running c) ↔
            if id' = id then c = core.index
            else machine.os.scheduler.state? id' = some (.running c)) := by
  let woken := (machine.os.scheduler.wakeExpired machine.ticks).2
  have wellFormed : woken.WellFormed := Scheduler.wakeExpired_wellFormed schedules machine.ticks
  have running (id : ThreadId) (c : CoreIndex) : woken.state? id = some (.running c) ↔
      machine.os.scheduler.state? id = some (.running c) :=
    Scheduler.running_wakeExpired_iff ..
  have small' : core.index < 64 := Nat.lt_trans small (by decide)
  refine ⟨Scheduler.next_wellFormed wellFormed small', ?_⟩
  rcases Scheduler.next_spec wellFormed core.index with ⟨nobody, same⟩ | ⟨id, picked, ready, states⟩
  · refine .inl ⟨nobody, fun id c => ?_⟩
    rw [choice, same]
    exact running id c
  · refine .inr ⟨id, picked, ?_, ?_, ?_⟩
    · have known : (woken.priority? id).isSome := by
        rw [Scheduler.priority?, Option.isSome_map, ← Option.isSome_map (f := ScheduledThread.state)]
        exact Option.isSome_of_eq_some ready
      rw [Scheduler.priority?_wakeExpired, Scheduler.priority?, Option.isSome_map] at known
      rwa [Scheduler.state?, Option.isSome_map]
    · intro c onCore
      rw [← running, ready] at onCore
      cases onCore
    · intro id' c
      rw [choice, states]
      split
      · simp [eq_comm]
      · exact running id' c

theorem current_of_occupied {id : ThreadId} (occupied : machine.os.currentId? core.index = some id) :
    core.current machine = (machine.os.threads.get? id, core, machine) := by
  rw [current, occupied]

theorem current_of_free (free : machine.os.currentId? core.index = none) :
    core.current machine =
      match (core.choice machine).1.bind machine.os.threads.get? with
      | some thread =>
          (some thread, { core with context := thread.context },
            machine.mapOs fun kernel =>
              { kernel with scheduler := (core.choice machine).2 }.setCurrent core.index
                (some thread.id))
      | none =>
          (none, core, machine.mapOs fun kernel =>
            { kernel with scheduler := (core.choice machine).2 }) := by
  rw [current, free]
  rfl

theorem setCurrent_of_free {kernel : Kernel} (free : kernel.currentId? core.index = none) :
    kernel.setCurrent core.index none = kernel := by
  have same : kernel.current.setIfInBounds core.index none = kernel.current := by
    ext1 c within
    rw [Vector.getElem_setIfInBounds]
    split
    · rename_i here
      subst here
      rw [currentId?, Vector.getElem?_eq_getElem within, Option.join_some] at free
      exact free.symm
    · rfl
  rw [setCurrent, Option.filter_none, same]

/-- The thread of the scheduler's choice is loaded. -/
theorem loads_choice (orderly : machine.os.Orderly) (small : core.index < maxCores)
    (free : machine.os.currentId? core.index = none) (number : thread.id ≠ 0)
    (known : machine.os.threads.get? thread.id = some thread) (state : thread.state = .started)
    {scheduler : Scheduler} (wellFormed : scheduler.WellFormed)
    (off : ∀ c, machine.os.scheduler.state? thread.id ≠ some (.running c))
    (running : ∀ id c, scheduler.state? id = some (.running c) ↔
      if id = thread.id then c = core.index
      else machine.os.scheduler.state? id = some (.running c)) :
    core.Loads machine.os thread { core with context := thread.context }
      ({ machine.os with scheduler }.setCurrent core.index (some thread.id)) := by
  have current (c : CoreIndex) :
      (({ machine.os with scheduler } : Kernel).setCurrent core.index (some thread.id)).currentId? c =
        if c = core.index then some thread.id else machine.os.currentId? c := by
    rw [currentId?_setCurrent small, Option.filter_some, if_pos (bne_iff_ne.mpr number)]
    rfl
  refine ⟨rfl, ⟨?_, wellFormed, orderly.firstId⟩, rfl, fun _ => rfl, ?_, ?_, known,
    .inr ⟨free, ?_, ?_⟩⟩
  · intro c id
    rw [current]
    refine Iff.trans ?_ (running id c).symm
    by_cases here : c = core.index
    · by_cases same : id = thread.id
      · simp [here, same]
      · have absent : machine.os.scheduler.state? id ≠ some (.running core.index) := by
          rw [Ne, ← orderly.occupied, free]
          nofun
        simp [here, same, Ne.symm same, absent]
    · by_cases same : id = thread.id
      · simp [here, same, orderly.occupied, off]
      · simp [here, same, orderly.occupied]
  · rw [current, if_pos rfl]
  · intro c other
    rw [current, if_neg other]
  · intro c occupied
    exact off c ((orderly.occupied c thread.id).mp occupied)
  · rw [liveContext?, known, Option.bind_some, if_neg]
    rw [state]
    exact ThreadState.noConfusion

/-- The core has no thread to run, or has one loaded. -/
theorem current_cases (hosts : machine.os.Hosts pid process)
    (consistent : ∀ id, (machine.os.threadRecord process id).Consistent)
    (room : machine.os.threads.slots.size < 2 ^ 64) (orderly : machine.os.Orderly)
    (small : core.index < maxCores) :
    (∃ machine', core.current machine = (none, core, machine') ∧ machine'.board = machine.board ∧
      Spared maxCores machine.os (machine'.os.setCurrent core.index none)) ∨
    ∃ thread loaded machine', core.current machine = (some thread, loaded, machine') ∧
      machine'.board = machine.board ∧ core.Loads machine.os thread loaded machine'.os := by
  cases occupied : machine.os.currentId? core.index with
  | some id =>
      have running := (orderly.occupied core.index id).mp occupied
      obtain ⟨thread, known, _⟩ := started_of_scheduled (consistent id) (by rw [running]; rfl)
      obtain ⟨rfl, _⟩ := hosts.own_of_get known
      refine .inr ⟨thread, core, machine, ?_, rfl, ?_⟩
      · rw [current_of_occupied occupied, known]
      · exact ⟨rfl, orderly, rfl, fun _ => rfl, occupied, fun _ _ => rfl, known,
          .inl ⟨occupied, rfl⟩⟩
  | none =>
      let chosen : Kernel := { machine.os with scheduler := (core.choice machine).2 }
      obtain ⟨wellFormed, choice⟩ := choice_cases orderly.scheduler small
      rw [current_of_free occupied]
      rcases choice with ⟨nobody, running⟩ | ⟨id, picked, scheduled, off, running⟩
      · refine .inl ⟨machine.mapOs fun _ => chosen, ?_, rfl, ?_⟩
        · rw [nobody]
          rfl
        · change Spared maxCores machine.os (chosen.setCurrent core.index none)
          have left : chosen.setCurrent core.index none = chosen := setCurrent_of_free occupied
          rw [left]
          exact .schedule running fun _ => wellFormed
      · obtain ⟨thread, known, state⟩ := started_of_scheduled (consistent id) scheduled
        obtain ⟨rfl, _⟩ := hosts.own_of_get known
        refine .inr ⟨thread, { core with context := thread.context },
          machine.mapOs fun _ => chosen.setCurrent core.index (some thread.id), ?_, rfl, ?_⟩
        · rw [picked, Option.bind_some, known]
          rfl
        · exact loads_choice orderly small occupied
            (ObjectTable.ne_zero_of_get? orderly.firstId room known) known state wellFormed off running

end Core

theorem UInt32.or_and_self (a b : UInt32) : (a ||| b) &&& b = b := by
  apply UInt32.toBitVec_inj.mp
  ext i
  simp only [UInt32.toBitVec_and, UInt32.toBitVec_or, BitVec.getElem_and, BitVec.getElem_or]
  cases a.toBitVec[i] <;> cases b.toBitVec[i] <;> rfl

/-- A break is only reported when no supervisor call is. -/
theorem HaltReason.not_pending_of_breakLoop {bits again : UInt32}
    (named : HaltReason.ofBits bits = .ok (.breakLoop, again)) :
    bits ||| supervisorCall.bit ≠ bits := by
  intro pending
  have reported : bits &&& supervisorCall.bit ≠ 0 := by
    rw [← pending, UInt32.or_and_self]
    decide
  rw [ofBits] at named
  split at named
  · cases named
  · split at named
    · cases named
    · cases named

namespace Core

variable {pid : ProcessId} {process : GuestProcess} {core core' : Core}
  {machine middle after : Machine Kernel} {result : BurstResult}

/-- What a burst has come to so far. If a call has left a request to switch, the
    core is going to halt for it. -/
structure During (core : Core) (pid : ProcessId) (before after : Machine Kernel) : Prop where
  carries : Carries pid before.os after.os
  spares : Spares pid core.index before.os after.os
  lines : after.board.halts.bits.length = before.board.halts.bits.length
  pending : after.os.request? core.index ≠ none →
    after.board.halts.pending core.line ||| HaltReason.supervisorCall.bit =
      after.board.halts.pending core.line

theorem During.continues (continues : Machine.Continues middle after)
    (during : core.During pid machine middle) : core.During pid machine after where
  carries := by
    rw [continues.os]
    exact during.carries
  spares := by
    rw [continues.os]
    exact during.spares
  lines := continues.lines.trans during.lines
  pending requested := by
    rw [continues.os] at requested
    rw [← continues.pending, UInt32.or_assoc, UInt32.or_comm (after.board.halts.pending core.line),
      ← UInt32.or_assoc, during.pending requested]

theorem During.call (within : core.line < machine.board.halts.bits.length)
    (follows : Follows core.index middle after) (during : core.During pid machine middle) :
    core.During pid machine
      (after.mapBoard (·.requestHalt core.line HaltReason.supervisorCall.bit)) where
  carries := during.carries.trans follows.os.carries
  spares := during.spares.trans during.carries follows.os.carries follows.os.spares
  lines := (HaltLines.length_request ..).trans (follows.board.lines.trans during.lines)
  pending _ := by
    rw [← during.lines, ← follows.board.lines] at within
    change (after.board.halts.request ..).pending core.line ||| _ =
      (after.board.halts.request ..).pending core.line
    rw [HaltLines.pending_request, if_pos ⟨rfl, within⟩, UInt32.or_assoc, UInt32.or_self]

/-- What a core is stays, and it does not come back from being stopped. -/
structure Persists (core : Core) (machine : Machine Kernel) (core' : Core) (after : Machine Kernel) :
    Prop where
  index : core'.index = core.index
  line : core'.line = core.line
  lines : after.board.halts.bits.length = machine.board.halts.bits.length
  idle : core'.state = .idle → core.state = .idle

theorem execute_persists (rounds : Nat) (core : Core) (machine : Machine Kernel) :
    core.Persists machine (core.execute Kernel.operatingSystem rounds machine).2.1
      (core.execute Kernel.operatingSystem rounds machine).2.2 := by
  have continues (before after : Machine Kernel) (same : Machine.Continues before after)
      (kept : before.board.halts.bits.length = machine.board.halts.bits.length) :
      after.board.halts.bits.length = machine.board.halts.bits.length :=
    same.lines.trans kept
  have calls (before after : Machine Kernel) (follows : Follows core.index before after)
      (kept : before.board.halts.bits.length = machine.board.halts.bits.length) :
      (after.mapBoard (·.requestHalt core.line HaltReason.supervisorCall.bit)).board.halts.bits.length =
        machine.board.halts.bits.length :=
    (HaltLines.length_request ..).trans (follows.board.lines.trans kept)
  obtain ⟨before, kept, ended⟩ := execute_keeps continues calls rounds rfl
  exact ⟨ended.index, ended.line, ended.lines.trans kept, fun idle => (ended.idle.mp idle).1⟩

/-- A burst switches nobody. Unless it halts for a supervisor call, there is no
    request to switch. -/
theorem execute_spares (pid : ProcessId)
    (within : core.line < machine.board.halts.bits.length)
    (free : machine.os.request? core.index = none) (rounds : Nat)
    (ran : core.execute Kernel.operatingSystem rounds machine = (result, core', after)) :
    Spares pid core.index machine.os after.os ∧
      (result = .halted .breakLoop → after.os.request? core.index = none) ∧
      (core'.state = .idle → result ≠ .halted .stopped ∧ ∀ error, result ≠ .faulted error) := by
  have atStart : core.During pid machine machine :=
    ⟨.refl _, fun _ _ _ => .refl _, rfl, fun requested => absurd free requested⟩
  obtain ⟨before, during, ended⟩ := execute_keeps (fun _ _ => During.continues)
    (fun _ _ => During.call within) rounds atStart
  rw [ran] at ended
  refine ⟨?_, ?_, fun idle => (ended.idle.mp idle).2⟩
  · rw [ended.os]
    exact during.spares
  · intro broke
    obtain ⟨again, named, _⟩ := ended.reason .breakLoop broke
    rw [ended.os]
    by_contra requested
    exact HaltReason.not_pending_of_breakLoop named (during.pending requested)

end Core

/-- The thread on `core` has left it, with `context` saved unless it is gone for
    good. -/
structure Kernel.Vacates (core : CoreIndex) (id : ThreadId) (context : ThreadContext)
    (before after : Kernel) : Prop where
  current : ∀ c, after.currentId? c = if c = core then none else before.currentId? c
  running : ∀ id' c, after.scheduler.state? id' = some (.running c) ↔
    id' ≠ id ∧ before.scheduler.state? id' = some (.running c)
  scheduler : before.scheduler.WellFormed → after.scheduler.WellFormed
  firstId : after.threads.firstId = before.threads.firstId
  requests : ∀ c, after.request? c = before.request? c
  known : ∀ id', after.threads.find? id' = none → before.threads.find? id' = none
  contexts : ∀ id' registers, after.liveContext? id' = some registers →
    (id' = id ∧ registers = context) ∨
      (id' ≠ id ∧ before.liveContext? id' = some registers) ∨ before.threads.find? id' = none

namespace Kernel

variable {kernel middle after : Kernel} {core : CoreIndex} {id : ThreadId}
  {context : ThreadContext}

/-- No core has number `maxCores`. -/
theorem Spared.request? (spared : Spared maxCores kernel after) (c : CoreIndex) :
    after.request? c = kernel.request? c := by
  rw [Kernel.request?, Kernel.request?]
  by_cases real : c < maxCores
  · rw [spared.switches c (Nat.ne_of_lt real)]
  · rw [Vector.getElem?_eq_none (Nat.le_of_not_lt real),
      Vector.getElem?_eq_none (Nat.le_of_not_lt real)]

theorem Vacates.thenSpared (vacates : kernel.Vacates core id context middle)
    (spared : Spared maxCores middle after) : kernel.Vacates core id context after where
  current c := by
    rw [currentId?, spared.current]
    exact vacates.current c
  running id' c := (spared.running id' c).trans (vacates.running id' c)
  scheduler holds := spared.wellFormed (vacates.scheduler holds)
  firstId := spared.firstId.trans vacates.firstId
  requests c := (spared.request? c).trans (vacates.requests c)
  known id' unknown := vacates.known id' (spared.known id' unknown)
  contexts id' registers live := by
    rcases spared.contexts id' registers live with live | unknown
    · exact vacates.contexts id' registers live
    · exact .inr (.inr (vacates.known id' unknown))

/-- A thread leaves its core, and what is saved of it is right unless it is gone
    for good. -/
theorem vacates_of_leave {f : GuestThread → GuestThread} {scheduler : Scheduler}
    (small : core < maxCores)
    (saves : ∀ thread, (f thread).state ≠ .terminated → (f thread).context = context)
    (running : ∀ id' c, scheduler.state? id' = some (.running c) ↔
      id' ≠ id ∧ kernel.scheduler.state? id' = some (.running c))
    (wellFormed : kernel.scheduler.WellFormed → scheduler.WellFormed) :
    kernel.Vacates core id context
      { (kernel.modifyThread id f).setCurrent core none with scheduler } where
  current := currentId?_setCurrent small none
  running := running
  scheduler := wellFormed
  firstId := rfl
  requests _ := rfl
  known id' unknown := by
    change (kernel.threads.modify id f).find? id' = none at unknown
    rw [ObjectTable.find?_modify] at unknown
    split at unknown
    · rename_i same
      rw [same]
      exact Option.map_eq_none_iff.mp unknown
    · exact unknown
  contexts id' registers live := by
    change ((kernel.threads.modify id f).get? id').bind _ = _ at live
    rw [ObjectTable.get?_modify] at live
    split at live
    · rename_i same
      obtain ⟨thread, found, live⟩ := Option.bind_eq_some_iff.mp live
      obtain ⟨thread, _, rfl⟩ := Option.map_eq_some_iff.mp found
      split at live
      · cases live
      · rename_i alive
        exact .inl ⟨same, (Option.some.inj live).symm.trans (saves thread alive)⟩
    · rename_i other
      exact .inr (.inl ⟨other, live⟩)

theorem Orderly.of_vacates (orderly : kernel.Orderly) (occupied : kernel.currentId? core = some id)
    (vacates : kernel.Vacates core id context after) : after.Orderly where
  occupied c id' := by
    rw [vacates.current, vacates.running, ← orderly.occupied]
    split
    · rename_i here
      subst here
      rw [occupied]
      simp [eq_comm]
    · rename_i other
      refine ⟨fun current => ⟨?_, current⟩, And.right⟩
      rintro rfl
      exact other (orderly.core_unique occupied current)
  scheduler := vacates.scheduler orderly.scheduler
  firstId := vacates.firstId.trans orderly.firstId

end Kernel

namespace Core

variable {core : Core} {kernel : Kernel} {id : ThreadId} {thread : GuestThread}
  {machine : Machine Kernel}

theorem giveWay_vacates (small : core.index < maxCores)
    (running : kernel.scheduler.state? id = some (.running core.index)) :
    kernel.Vacates core.index id core.context (core.giveWay id kernel) := by
  refine vacates_of_leave small (fun _ _ => rfl) (fun id' c => ?_)
    fun holds => Scheduler.yield_wellFormed holds id
  change (kernel.scheduler.yield id).state? id' = _ ↔ _
  rw [Scheduler.state?_yield running]
  by_cases same : id' = id
  · simp [same]
  · simp [same]

theorem park_vacates (small : core.index < maxCores)
    (running : kernel.scheduler.state? id = some (.running core.index)) (deadline : UInt64) :
    kernel.Vacates core.index id core.context (core.park id deadline kernel) := by
  refine vacates_of_leave small (fun _ _ => rfl) (fun id' c => ?_)
    fun holds => Scheduler.sleep_wellFormed holds id deadline
  change (kernel.scheduler.sleep id deadline).state? id' = _ ↔ _
  rw [Scheduler.state?_sleep running]
  by_cases same : id' = id
  · simp [same]
  · simp [same]

theorem retire_vacates (small : core.index < maxCores) (thread : GuestThread)
    (machine : Machine Kernel) (context : ThreadContext) :
    machine.os.Vacates core.index thread.id context (core.retire thread machine).os := by
  let left := machine.os.setCurrent core.index none
  let ended := machine.os.modifyThread thread.id (·.setState .terminated)
  let gone : Kernel := { ended.setCurrent core.index none with
    scheduler := (machine.os.scheduler.remove thread.id).2 }
  have vacates : machine.os.Vacates core.index thread.id context gone := by
    refine vacates_of_leave small ?_ (fun id' c => ?_)
      fun holds => Scheduler.remove_wellFormed holds thread.id
    · exact fun thread alive => absurd rfl alive
    · rw [Scheduler.state?_remove]
      by_cases same : id' = thread.id
      · simp [same]
      · simp [same]
  have terminated : Spared maxCores gone (left.terminateThread thread) := by
    have forgotten : Spared maxCores gone (gone.forgetThread thread) := .modifyListed _ _ _
    rw [terminateThread]
    split
    · split
      · exact forgotten
      · exact forgotten.trans (.removeThread _ _)
    · exact forgotten
  have vacates := vacates.thenSpared terminated
  rw [retire]
  split
  · rw [Machine.exitProcess_os]
    exact vacates.thenSpared (endApplication_spared _)
  · exact vacates

end Core

/-- A thread's time on a core, from one halt to the next. -/
structure Burst where
  core : CoreIndex
  thread : ThreadId
  /-- The registers that it started with. -/
  start : ThreadContext
  finish : ThreadContext
  deriving Repr, DecidableEq

namespace Core

variable {pid : ProcessId} {process : GuestProcess} {core core' : Core}
  {machine machine' : Machine Kernel} {result : StepResult} {rounds : Nat}

/-- The burst of a step, unless there is no thread to run. -/
def burst? (rounds : Nat) (core : Core) (machine : Machine Kernel) : Option Burst :=
  if machine.os.exited then none
  else
    match core.current machine with
    | (none, _, _) => none
    | (some thread, loaded, _) =>
        some { core := core.index, thread := thread.id, start := loaded.context
               finish := (core.step rounds machine).2.1.context }

/-- A burst on `core` has taken the kernel from `before` to `after`. -/
structure Ran (core : Core) (burst : Burst) (before after : Kernel) : Prop where
  starts : core.Starts before burst.thread burst.start
  others : ∀ c, c ≠ core.index → after.currentId? c = before.currentId? c
  own : ∀ id, after.currentId? core.index = some id → id = burst.thread
  known : ∀ id, after.threads.find? id = none → before.threads.find? id = none
  contexts : ∀ id registers, after.liveContext? id = some registers →
    after.currentId? core.index ≠ some id →
      (id = burst.thread ∧ registers = burst.finish) ∨
        (id ≠ burst.thread ∧ (before.liveContext? id = some registers ∨
          before.threads.find? id = none))

variable {os : Kernel} {thread : GuestThread} {loaded : Core} {finish : ThreadContext}

/-- The thread goes on. -/
theorem Loads.ran_of_stays {kernel middle after : Kernel} (loads : core.Loads kernel thread loaded middle)
    (spared : Spared core.index middle after) :
    core.Ran ⟨core.index, thread.id, loaded.context, finish⟩ kernel after where
  starts := loads.starts
  others c other := by
    rw [← loads.others c other, currentId?, spared.current]
    rfl
  own id occupied := by
    rw [currentId?, spared.current] at occupied
    exact Option.some.inj (occupied.symm.trans loads.occupied)
  known id unknown := by
    rw [← loads.threads]
    exact spared.known id unknown
  contexts id registers live off := by
    refine .inr ⟨?_, ?_⟩
    · rintro rfl
      rw [currentId?, spared.current] at off
      exact off loads.occupied
    · have held := spared.contexts id registers live
      rwa [liveContext?, loads.threads] at held

/-- The thread has left the core. -/
theorem Loads.ran_of_vacates {kernel middle middle' after : Kernel}
    (loads : core.Loads kernel thread loaded middle) (spared : Spared core.index middle middle')
    (vacates : middle'.Vacates core.index thread.id finish after) :
    core.Ran ⟨core.index, thread.id, loaded.context, finish⟩ kernel after where
  starts := loads.starts
  others c other := by
    rw [vacates.current, if_neg other, ← loads.others c other, currentId?, spared.current]
    rfl
  own id occupied := by
    rw [vacates.current, if_pos rfl] at occupied
    cases occupied
  known id unknown := by
    rw [← loads.threads]
    exact spared.known id (vacates.known id unknown)
  contexts id registers live _ := by
    by_cases same : id = thread.id
    · refine .inl ⟨same, ?_⟩
      rcases vacates.contexts id registers live with ⟨_, saved⟩ | ⟨other, _⟩ | unknown
      · exact saved
      · exact absurd same other
      · have absent := spared.known id unknown
        rw [loads.threads, same, (ObjectTable.get?_eq_some_iff.mp loads.listed).2] at absent
        cases absent
    · refine .inr ⟨same, ?_⟩
      rw [liveContext?, ← loads.threads]
      rcases vacates.contexts id registers live with ⟨same', _⟩ | ⟨_, live⟩ | unknown
      · exact absurd same' same
      · exact spared.contexts id registers live
      · exact .inr (spared.known id unknown)

/-- With the thread's burst over, everything is in order again. -/
structure Completes (core : Core) (thread : ThreadId) (start finish : ThreadContext)
    (before after : Kernel) : Prop where
  orderly : after.Orderly
  requests : ∀ c, after.request? c = none
  ran : core.Ran ⟨core.index, thread, start, finish⟩ before after

section

variable {kernel middle middle' after : Kernel}

theorem Loads.requests_of_spared (loads : core.Loads kernel thread loaded middle)
    (requests : ∀ c, kernel.request? c = none) (spared : Spared core.index middle middle')
    (served : middle'.request? core.index = none) (c : CoreIndex) : middle'.request? c = none := by
  by_cases here : c = core.index
  · rw [here]
    exact served
  · rw [← requests c, ← loads.requests c, request?, spared.switches c here]
    rfl

theorem Loads.completes_of_stays (loads : core.Loads kernel thread loaded middle)
    (requests : ∀ c, kernel.request? c = none) (spared : Spared core.index middle after)
    (served : after.request? core.index = none) :
    core.Completes thread.id loaded.context finish kernel after :=
  ⟨loads.orderly.of_spared spared, loads.requests_of_spared requests spared served,
    loads.ran_of_stays spared⟩

theorem Loads.completes_of_vacates (loads : core.Loads kernel thread loaded middle)
    (requests : ∀ c, kernel.request? c = none) (spared : Spared core.index middle middle')
    (served : middle'.request? core.index = none)
    (vacates : middle'.Vacates core.index thread.id finish after) :
    core.Completes thread.id loaded.context finish kernel after := by
  have occupied : middle'.currentId? core.index = some thread.id := by
    rw [currentId?, spared.current]
    exact loads.occupied
  refine ⟨(loads.orderly.of_spared spared).of_vacates occupied vacates, fun c => ?_,
    loads.ran_of_vacates spared vacates⟩
  rw [vacates.requests]
  exact loads.requests_of_spared requests spared served c

theorem takeSwitch_spared (kernel : Kernel) (core : CoreIndex) :
    Spared core kernel (kernel.takeSwitch core).2 := by
  refine .of_same rfl rfl rfl fun c other => ?_
  rw [takeSwitch, Vector.getElem?_setIfInBounds, if_neg (Ne.symm other)]

theorem request?_takeSwitch (kernel : Kernel) (core : CoreIndex) :
    (kernel.takeSwitch core).2.request? core = none := by
  rw [request?, takeSwitch, Vector.getElem?_setIfInBounds, if_pos rfl]
  split <;> rfl

theorem Loads.completes_of_serveSwitch (loads : core.Loads kernel thread loaded middle)
    (requests : ∀ c, kernel.request? c = none) (small : core.index < maxCores)
    (index : core'.index = core.index) (spared : Spared core.index middle machine.os) :
    core.Completes thread.id loaded.context core'.context kernel
      (core'.serveSwitch thread machine).os := by
  have spared := spared.trans (takeSwitch_spared machine.os core.index)
  have served := request?_takeSwitch machine.os core.index
  have running := (loads.orderly.occupied core.index thread.id).mp loads.occupied
  rw [← spared.running, ← index] at running
  have small' : core'.index < maxCores := by rwa [index]
  have vacated {after : Kernel}
      (vacates : (machine.os.takeSwitch core'.index).2.Vacates core'.index thread.id core'.context
        after) : core.Completes thread.id loaded.context core'.context kernel after := by
    rw [index] at vacates
    exact loads.completes_of_vacates requests spared served vacates
  rw [serveSwitch]
  dsimp only
  split
  · rw [index]
    exact loads.completes_of_stays requests spared served
  · exact vacated (giveWay_vacates small' running)
  · exact vacated (park_vacates small' running _)
  · exact vacated (retire_vacates small' thread { machine with os := _ } core'.context)

theorem Loads.completes_of_giveWay (loads : core.Loads kernel thread loaded middle)
    (requests : ∀ c, kernel.request? c = none) (small : core.index < maxCores)
    (index : core'.index = core.index) (spared : Spared core.index middle middle')
    (served : middle'.request? core.index = none) :
    core.Completes thread.id loaded.context core'.context kernel (core'.giveWay thread.id middle') := by
  have running := (loads.orderly.occupied core.index thread.id).mp loads.occupied
  rw [← spared.running, ← index] at running
  have vacates := giveWay_vacates (by rwa [index]) running
  rw [index] at vacates
  exact loads.completes_of_vacates requests spared served vacates

end

theorem Persists.trans {core core' core'' : Core} {first second third : Machine Kernel}
    (step : core.Persists first core' second) (next : core'.Persists second core'' third) :
    core.Persists first core'' third :=
  ⟨next.index.trans step.index, next.line.trans step.line, next.lines.trans step.lines,
    fun idle => step.idle (next.idle idle)⟩

/-- The core is left alone, and so are the halt lines. -/
theorem Persists.of_lines
    (lines : machine'.board.halts.bits.length = machine.board.halts.bits.length) :
    core.Persists machine core machine' :=
  ⟨rfl, rfl, lines, id⟩

theorem current_persists (core : Core) (machine : Machine Kernel) :
    core.Persists machine (core.current machine).2.1 (core.current machine).2.2 := by
  rw [current]
  split
  · exact .of_lines rfl
  · rw [pick]
    dsimp only
    split
    · exact ⟨rfl, rfl, rfl, id⟩
    · exact .of_lines rfl

theorem retire_lines (core : Core) (thread : GuestThread) (machine : Machine Kernel) :
    (core.retire thread machine).board.halts.bits.length = machine.board.halts.bits.length := by
  rw [retire]
  split
  · exact (Machine.exitProcess_served _).lines
  · rfl

theorem serveSwitch_lines (core : Core) (thread : GuestThread) (machine : Machine Kernel) :
    (core.serveSwitch thread machine).board.halts.bits.length =
      machine.board.halts.bits.length := by
  rw [serveSwitch]
  dsimp only
  split
  · rfl
  · rfl
  · rfl
  · exact retire_lines core thread _

theorem step_persists (rounds : Nat) (core : Core) (machine : Machine Kernel) :
    core.Persists machine (core.step rounds machine).2.1 (core.step rounds machine).2.2 := by
  have started := core.current_persists machine
  refine step_cases (.of_lines rfl) ?_ ?_
  · intro loaded middle nobody
    rw [nobody] at started
    exact started.trans (.of_lines rfl)
  · intro thread loaded middle outcome core' after current ran
    rw [current] at started
    have stays := started.trans (execute_persists rounds loaded middle)
    rw [ran] at stays
    exact ⟨stays, stays.trans (.of_lines (serveSwitch_lines _ _ _)), stays.trans (.of_lines rfl),
      stays.trans (.of_lines rfl)⟩

/-- What the burst of the loaded thread does to the kernel. As far as it gets,
    thread numbers have to suffice for what follows. -/
theorem Loads.execute_spares {middle after : Machine Kernel} {outcome : BurstResult}
    (loads : core.Loads machine.os thread loaded middle.os) (hosts : machine.os.Hosts pid process)
    (current : core.current machine = (some thread, loaded, middle))
    (requests : ∀ c, machine.os.request? c = none)
    (within : core.line < machine.board.halts.bits.length)
    (ran : loaded.execute Kernel.operatingSystem rounds middle = (outcome, core', after)) :
    core'.index = core.index ∧
      (outcome = .halted .breakLoop → after.os.request? core.index = none) ∧
      (core'.state = .idle → outcome ≠ .halted .stopped ∧ ∀ error, outcome ≠ .faulted error) ∧
      ∀ os, Carries pid after.os os → os.threads.slots.size < 2 ^ 64 →
        Spared core.index middle.os after.os := by
  have started : Carries pid machine.os (core.current machine).2.2.os := core.current_carries machine
  have persists := core.current_persists machine
  rw [current] at started persists
  obtain ⟨_, first⟩ := started process hosts
  rw [← persists.line, ← persists.lines] at within
  have free : middle.os.request? loaded.index = none := by
    rw [loads.requests]
    exact requests loaded.index
  obtain ⟨spares, served, halts⟩ := Core.execute_spares pid within free rounds ran
  have same : Carries pid middle.os middle.os := .refl _
  have carries := execute_carries loaded rounds same
  have kept := execute_persists rounds loaded middle
  rw [ran] at carries kept
  obtain ⟨_, next⟩ := carries _ first.hosts
  rw [loads.index] at spares served
  refine ⟨kept.index.trans loads.index, served, halts, fun os carries room => ?_⟩
  obtain ⟨_, last⟩ := carries _ next.hosts
  exact spares _ first.hosts (last.size.trans room.le)

/-- Unless it stops the core, a step either finds no thread to run, or runs one
    and leaves everything in order. -/
theorem step_completes (hosts : machine.os.Hosts pid process)
    (consistent : ∀ id, (machine.os.threadRecord process id).Consistent)
    (orderly : machine.os.Orderly) (requests : ∀ c, machine.os.request? c = none)
    (small : core.index < maxCores) (within : core.line < machine.board.halts.bits.length)
    (stepped : core.step rounds machine = (result, core', machine'))
    (ended : result ≠ .outOfRounds) (idle : core'.state = .idle)
    (room : machine'.os.threads.slots.size < 2 ^ 64) :
    (core.burst? rounds machine = none ∧ core' = core ∧ Spared maxCores machine.os machine'.os) ∨
      ∃ thread start,
        core.burst? rounds machine = some ⟨core.index, thread, start, core'.context⟩ ∧
        core.Completes thread start core'.context machine.os machine'.os := by
  have carries : Carries pid machine.os (core.step rounds machine).2.2.os :=
    core.step_carries rounds machine
  rw [stepped] at carries
  obtain ⟨_, carried⟩ := carries process hosts
  have room' := Nat.lt_of_le_of_lt carried.size room
  rw [burst?, stepped]
  by_cases exited : machine.os.exited
  · rw [step, if_pos exited] at stepped
    cases stepped
    exact .inl ⟨if_pos exited, rfl, .refl _⟩
  · rw [step, if_neg exited] at stepped
    rw [if_neg exited]
    rcases current_cases hosts consistent room' orderly small with
      ⟨middle, current, _, spared⟩ | ⟨thread, loaded, middle, current, _, loads⟩
    · rw [current] at stepped ⊢
      cases stepped
      exact .inl ⟨rfl, rfl, spared⟩
    · rw [current] at stepped ⊢
      refine .inr ⟨thread.id, loaded.context, rfl, ?_⟩
      have owner := (hosts.own_of_get loads.listed).2
      cases ran : loaded.execute Kernel.operatingSystem rounds middle with
      | mk outcome rest =>
          obtain ⟨core'', after⟩ := rest
          obtain ⟨index, served, halts, spared⟩ :=
            loads.execute_spares hosts current requests within ran
          dsimp only at stepped
          rw [ran] at stepped
          cases outcome with
          | outOfRounds =>
              cases stepped
              exact absurd rfl ended
          | faulted error =>
              cases stepped
              exact absurd rfl ((halts idle).2 error)
          | halted reason =>
              cases reason with
              | supervisorCall =>
                  cases stepped
                  exact loads.completes_of_serveSwitch requests small index
                    (spared _ (serveSwitch_carries owner) room)
              | breakLoop =>
                  cases stepped
                  exact loads.completes_of_giveWay requests small index
                    (spared _ (giveWay_carries _ _ _) room) (served rfl)
              | stopped =>
                  cases stepped
                  exact absurd rfl (halts idle).1

end Core

end GuestMachine
