import Mathlib.Data.List.Induction
import GuestMachine.Proofs.Scheduler.Arrivals
import GuestMachine.Proofs.Scheduler.Wakeups

/-! # Whose turn it is

A run is written down as the arrivals of threads in ready queues. A thread
arrives when it is added, gives way, wakes up, or gets another priority while it
is ready; being asked for the priority that it has, or for one while it is not
ready, brings it nowhere. Each queue is in the order of these arrivals after any
run, so a core is given the thread that has waited longest among the most urgent
ones that it may run.
-/

namespace GuestMachine.Scheduler

variable {s s' : Scheduler} {due : List Sleeper}

/-- The threads that a call sends to the end of a ready queue. -/
def joins (s : Scheduler) : SchedulerCall → List ThreadId
  | .add id priority coreMask => if (s.add id priority coreMask).isOk then [id] else []
  | .yield id => if (s.state? id).any SchedulingState.isRunning then [id] else []
  | .wakeExpired now => s.woken now
  | .setPriority id priority =>
      if s.state? id = some .ready ∧
          (s.perform (.setPriority id priority)).priority? id ≠ s.priority? id then [id]
      else []
  | .remove _ | .next _ | .sleep _ _ => []

theorem WellFormedWith.filter_queue (wellFormed : s.WellFormedWith due) {id : ThreadId}
    (absent : s.threads[id]?.any (·.state.isReady) = false) (priority : Priority) :
    (s.queue priority).filter (· != id) = s.queue priority := by
  have out : id ∉ s.queue priority :=
    List.count_eq_zero.mp (wellFormed.count_of_not_ready absent priority)
  apply List.filter_eq_self.mpr
  intro other member
  have apart : other ≠ id := fun same => out (same ▸ member)
  simpa using apart

/-- A ready thread stands in one queue only. -/
theorem WellFormedWith.filter_other_queue (wellFormed : s.WellFormedWith due) {id : ThreadId}
    {thread : ScheduledThread} (found : s.threads[id]? = some thread)
    (ready : thread.state = .ready)
    {priority : Priority} (apart : priority ≠ thread.priority) :
    (s.queue priority).filter (· != id) = s.queue priority := by
  have count := wellFormed.count_of_ready found ready priority
  rw [if_neg apart, List.count_eq_zero] at count
  apply List.filter_eq_self.mpr
  intro other member
  have apart : other ≠ id := fun same => count (same ▸ member)
  simpa using apart

theorem queue_dequeue (wellFormed : s.WellFormed) {id : ThreadId} {thread : ScheduledThread}
    (found : s.threads[id]? = some thread) (ready : thread.state = .ready) (priority : Priority) :
    (s.dequeue thread.priority id).queue priority = (s.queue priority).filter (· != id) := by
  rw [dequeue, queue_setQueue]
  by_cases here : priority = thread.priority
  · simp [here]
  · rw [if_neg here, wellFormed.filter_other_queue found ready here]

theorem waits_of_threads {record? : Option ScheduledThread} {id : ThreadId}
    (threads : ∀ id', s'.threads[id']? = if id' = id then record? else s.threads[id']?)
    (priority : Priority) (id' : ThreadId) :
    s'.waits priority id' =
      if id' = id then record?.any (·.waitsAt priority) else s.waits priority id' := by
  rw [waits, threads, waits]
  split <;> rfl

/-- What an operation has to see to that moves one thread. -/
theorem moves_of_threads {record? : Option ScheduledThread} {id : ThreadId}
    (threads : ∀ id', s'.threads[id']? = if id' = id then record? else s.threads[id']?)
    (queue : ∀ priority, s'.queue priority = (s.queue priority).filter (· != id) ++
      if record?.any (·.waitsAt priority) then [id] else []) :
    Moves id s.queue s.waits s'.queue s'.waits where
  others priority id' apart := by rw [waits_of_threads threads, if_neg apart]
  line priority := by rw [queue, waits_of_threads threads, if_pos rfl]

/-- A thread that is ready now, and was not, has gone to the end of its queue. -/
theorem moves_enqueue (wellFormed : s.WellFormedWith due) {id : ThreadId} {thread : ScheduledThread}
    (out : s.threads[id]?.any (·.state.isReady) = false) (ready : thread.state = .ready)
    (threads : ∀ id', s'.threads[id']? = if id' = id then some thread else s.threads[id']?)
    (queue : s'.queue = (s.enqueue thread.priority id).queue) :
    Moves id s.queue s.waits s'.queue s'.waits := by
  apply moves_of_threads threads
  intro priority
  rw [queue, queue_enqueue, wellFormed.filter_queue out]
  by_cases here : priority = thread.priority
  · simp [here, ScheduledThread.waitsAt, ready, SchedulingState.isReady]
  · simp [here, Ne.symm here, ScheduledThread.waitsAt]

/-- A thread that is not ready now has left its queue. -/
theorem leave_inOrder {arrived : List ThreadId} (inOrder : InOrder arrived s.queue s.waits)
    {id : ThreadId} {record? : Option ScheduledThread}
    (threads : ∀ id', s'.threads[id']? = if id' = id then record? else s.threads[id']?)
    (away : record?.any (·.state.isReady) = false)
    (queue : ∀ priority, s'.queue priority = (s.queue priority).filter (· != id)) :
    InOrder arrived s'.queue s'.waits := by
  have nowhere (priority : Priority) : record?.any (·.waitsAt priority) = false := by
    cases record? with
    | none => rfl
    | some thread =>
        rw [Option.any_some] at away
        simp [ScheduledThread.waitsAt, away]
  have moves : Moves id s.queue s.waits s'.queue s'.waits :=
    moves_of_threads threads fun priority => by simp [queue, nowhere]
  exact inOrder.leave moves fun priority => by rw [waits_of_threads threads, if_pos rfl, nowhere]

section

variable {arrived : List ThreadId}

theorem add_inOrder (wellFormed : s.WellFormed) (inOrder : InOrder arrived s.queue s.waits)
    {id : ThreadId} {priority : UInt32} {coreMask : UInt64}
    (added : s.add id priority coreMask = .ok s') :
    InOrder (arrived ++ [id]) s'.queue s'.waits := by
  obtain ⟨level, _, fresh, rfl⟩ := add_eq_ok added
  have out : s.threads[id]?.any (·.state.isReady) = false := by simp [fresh]
  exact inOrder.arrive (moves_enqueue wellFormed out rfl (getElem?_insert s id _) rfl)

theorem remove_inOrder (wellFormed : s.WellFormed) (inOrder : InOrder arrived s.queue s.waits)
    (id : ThreadId) : InOrder arrived (s.remove id).2.queue (s.remove id).2.waits := by
  apply leave_inOrder inOrder (threads_remove s id) rfl
  intro priority
  unfold remove
  cases found : s.threads[id]? with
  | none => exact (wellFormed.filter_queue (by simp [found]) priority).symm
  | some thread =>
      by_cases ready : thread.state = .ready
      · simp only [ready, if_true]
        exact queue_dequeue wellFormed found ready priority
      · have out : s.threads[id]?.any (·.state.isReady) = false := by
          cases state : thread.state with
          | ready => exact absurd state ready
          | running | sleeping => simp [found, state, SchedulingState.isReady]
        simp only [ready, if_false]
        exact (wellFormed.filter_queue out priority).symm

theorem next_of_candidate {core : CoreIndex} {level : Priority} {id : ThreadId}
    (choice : s.candidate? core = some (level, id)) :
    s.next core =
      (some id, (s.setQueue level ((s.queue level).erase id)).setState id (.running core)) := by
  simp only [next, choice]

theorem next_eq_some {core : CoreIndex} {id : ThreadId} (picked : (s.next core).1 = some id) :
    ∃ priority, s.candidate? core = some (priority, id) := by
  unfold next at picked
  cases choice : s.candidate? core with
  | none => simp [choice] at picked
  | some place =>
      rw [choice] at picked
      cases picked
      exact ⟨place.1, rfl⟩

theorem queue_next (wellFormed : s.WellFormed) {core : CoreIndex} {id : ThreadId}
    (picked : (s.next core).1 = some id) (priority : Priority) :
    (s.next core).2.queue priority = (s.queue priority).filter (· != id) := by
  obtain ⟨level, choice⟩ := next_eq_some picked
  obtain ⟨thread, found, ready, rfl, _⟩ := wellFormed.candidate? choice
  rw [next_of_candidate choice, (wellFormed.nodup_queue _).erase_eq_filter]
  exact queue_dequeue wellFormed found ready priority

theorem threads_next {core : CoreIndex} {id : ThreadId}
    (picked : (s.next core).1 = some id) (id' : ThreadId) :
    (s.next core).2.threads[id']? =
      if id' = id then s.threads[id]?.map fun thread => { thread with state := .running core }
      else s.threads[id']? := by
  obtain ⟨level, choice⟩ := next_eq_some picked
  rw [next_of_candidate choice]
  exact getElem?_modify s id _ id'

theorem next_of_none {core : CoreIndex} (idle : (s.next core).1 = none) : (s.next core).2 = s := by
  unfold next at idle ⊢
  cases choice : s.candidate? core with
  | none => rfl
  | some place => simp [choice] at idle

theorem next_inOrder (wellFormed : s.WellFormed) (inOrder : InOrder arrived s.queue s.waits)
    (core : CoreIndex) : InOrder arrived (s.next core).2.queue (s.next core).2.waits := by
  cases picked : (s.next core).1 with
  | none => rwa [next_of_none picked]
  | some id =>
      refine leave_inOrder inOrder (threads_next picked) ?_ (queue_next wellFormed picked)
      cases s.threads[id]? <;> rfl

theorem yield_inOrder (wellFormed : s.WellFormed) (inOrder : InOrder arrived s.queue s.waits)
    (id : ThreadId) :
    InOrder (arrived ++ s.joins (.yield id)) (s.yield id).queue (s.yield id).waits := by
  by_cases running : (s.state? id).any SchedulingState.isRunning
  · obtain ⟨core, known⟩ := any_isRunning_iff.mp running
    obtain ⟨thread, found, onCore⟩ := found_of_running known
    have out := not_isReady_of_isRunning found onCore
    simp only [joins, running, yield, found, onCore, if_true]
    exact inOrder.arrive (moves_enqueue wellFormed out rfl (threads_setState found _) rfl)
  · simpa [joins, running, yield_of_not_running running] using inOrder

theorem sleep_inOrder (wellFormed : s.WellFormed) (inOrder : InOrder arrived s.queue s.waits)
    (id : ThreadId) (deadline : UInt64) :
    InOrder arrived (s.sleep id deadline).queue (s.sleep id deadline).waits := by
  by_cases running : (s.state? id).any SchedulingState.isRunning
  · obtain ⟨core, known⟩ := any_isRunning_iff.mp running
    obtain ⟨thread, found, onCore⟩ := found_of_running known
    have out := not_isReady_of_isRunning found onCore
    simp only [sleep, found, onCore, if_true]
    exact leave_inOrder inOrder (threads_setState found (.sleeping deadline)) rfl fun priority =>
      (wellFormed.filter_queue out priority).symm
  · rwa [sleep_of_not_running running]

theorem wake_inOrder {sleeper : Sleeper} (wellFormed : s.WellFormedWith (sleeper :: due))
    (inOrder : InOrder arrived s.queue s.waits) (live : s.isLive sleeper) :
    InOrder (arrived ++ [sleeper.id]) (s.wake sleeper).2.queue (s.wake sleeper).2.waits := by
  obtain ⟨thread, found, served⟩ := wake_of_live live
  have asleep : thread.state = .sleeping sleeper.deadline := by
    simpa [state?, found] using isLive_iff.mp live
  have out : s.threads[sleeper.id]?.any (·.state.isReady) = false := by
    simp [found, asleep, SchedulingState.isReady]
  rw [served]
  exact inOrder.arrive (moves_enqueue wellFormed out rfl (threads_setState found _) rfl)

theorem wakeAll_inOrder (called : List Sleeper) (wellFormed : s.WellFormedWith (called ++ due))
    (inOrder : InOrder arrived s.queue s.waits) :
    InOrder (arrived ++ s.calledBy called) (s.wakeAll called).2.queue
      (s.wakeAll called).2.waits := by
  induction called generalizing s arrived with
  | nil => simpa [wakeAll, calledBy] using inOrder
  | cons sleeper rest ih =>
      rw [wakeAll_cons]
      by_cases live : s.isLive sleeper
      · rw [calledBy_of_live live, ← List.singleton_append, ← List.append_assoc]
        exact ih (wake_wellFormed wellFormed) (wake_inOrder wellFormed inOrder live)
      · have stale : s.WellFormedWith (rest ++ due) := by
          have served := wake_wellFormed wellFormed
          rwa [wake_of_stale live] at served
        rw [calledBy_of_stale live, wake_of_stale live]
        exact ih stale inOrder

theorem wakeExpired_inOrder (wellFormed : s.WellFormed) (sorted : s.Sorted)
    (inOrder : InOrder arrived s.queue s.waits) (now : UInt64) :
    InOrder (arrived ++ s.woken now) (s.wakeExpired now).2.queue (s.wakeExpired now).2.waits := by
  let expired : Sleeper → Bool := (·.deadline ≤ now)
  have apart : { s with sleepers := s.sleepers.dropWhile expired }.WellFormedWith
      (s.sleepers.takeWhile expired ++ s.sleepers.dropWhile expired) := by
    rw [List.takeWhile_append_dropWhile]
    exact ⟨wellFormed.queued, wellFormed.asleep, wellFormed.allowed⟩
  rw [woken_eq sorted]
  exact wakeAll_inOrder _ apart inOrder

theorem setPriority_inOrder (wellFormed : s.WellFormed) (inOrder : InOrder arrived s.queue s.waits)
    {id : ThreadId} {priority : UInt32} (changed : s.setPriority id priority = .ok s') :
    InOrder (arrived ++ s.joins (.setPriority id priority)) s'.queue s'.waits := by
  obtain ⟨level, thread, _, found, threads, _, queue⟩ := setPriority_eq_ok changed
  have after : (s.perform (.setPriority id priority)).priority? id = some level := by
    simp [perform, changed, Except.toOption, priority?, threads]
  have joined : s.joins (.setPriority id priority) =
      if thread.state = .ready ∧ thread.priority ≠ level then [id] else [] := by
    simp only [joins, after]
    simp [state?, priority?, found, @eq_comm _ level]
  rw [joined]
  by_cases moved : thread.state = .ready ∧ thread.priority ≠ level
  · rw [if_pos moved]
    refine inOrder.arrive (moves_of_threads threads fun p => ?_)
    rw [queue, if_pos moved, queue_enqueue, queue_dequeue wellFormed found moved.1]
    by_cases here : p = level
    · simp [here, ScheduledThread.waitsAt, moved.1, SchedulingState.isReady]
    · simp [here, Ne.symm here, ScheduledThread.waitsAt]
  · rw [if_neg moved, List.append_nil]
    refine inOrder.congr (fun p => by rw [queue, if_neg moved]) fun p id' => ?_
    rw [waits_of_threads threads]
    split
    · rename_i same
      rw [same, waits, found, Option.any_some, Option.any_some, ScheduledThread.waitsAt,
        ScheduledThread.waitsAt]
      cases state : thread.state with
      | ready => simp_all
      | running | sleeping => rfl
    · rfl

theorem perform_inOrder (wellFormed : s.WellFormed) (sorted : s.Sorted)
    (inOrder : InOrder arrived s.queue s.waits) (call : SchedulerCall) :
    InOrder (arrived ++ s.joins call) (s.perform call).queue (s.perform call).waits := by
  cases call with
  | add id priority coreMask =>
      cases added : s.add id priority coreMask with
      | error e =>
          simpa [joins, perform, added, Except.isOk, Except.toBool, Except.toOption] using inOrder
      | ok s' =>
          simpa [joins, perform, added, Except.isOk, Except.toBool, Except.toOption] using
            add_inOrder wellFormed inOrder added
  | remove id => simpa [joins, perform] using remove_inOrder wellFormed inOrder id
  | next core => simpa [joins, perform] using next_inOrder wellFormed inOrder core
  | yield id => exact yield_inOrder wellFormed inOrder id
  | sleep id deadline => simpa [joins, perform] using sleep_inOrder wellFormed inOrder id deadline
  | wakeExpired now => exact wakeExpired_inOrder wellFormed sorted inOrder now
  | setPriority id priority =>
      cases changed : s.setPriority id priority with
      | error e => simpa [joins, perform, changed, Except.toOption] using inOrder
      | ok s' =>
          have joined := setPriority_inOrder wellFormed inOrder changed
          simpa [perform, changed, Except.toOption] using joined

/-- Every run leaves the queues in the order of the arrivals it brought. -/
theorem performAll_inOrder (calls : List SchedulerCall) :
    InOrder (arrivals joins {} calls) (performAll {} calls).queue (performAll {} calls).waits := by
  induction calls using List.reverseRecOn with
  | nil =>
      intro priority
      simp [arrivals, trace, performAll, queue]
  | append_singleton calls call ih =>
      rw [arrivals_concat, performAll_concat]
      exact perform_inOrder (performAll_wellFormed wellFormed_empty calls)
        (performAll_sorted List.Pairwise.nil calls) ih call

end

/-- Ready, and allowed to run on the core. -/
def Eligible (s : Scheduler) (core : CoreIndex) (id : ThreadId) : Prop :=
  ∃ thread, s.threads[id]? = some thread ∧ thread.state = .ready ∧
    thread.coreMask.toNat.testBit core

/-- More urgent, or as urgent and waiting for longer. -/
def Precedes (s : Scheduler) (arrived : List ThreadId) (first second : ThreadId) : Prop :=
  ∃ p q, s.priority? first = some p ∧ s.priority? second = some q ∧
    (p < q ∨ p = q ∧ CameBefore arrived first second)

theorem eligible_iff (wellFormed : s.WellFormed) {core : CoreIndex} (small : core < 64)
    {id : ThreadId} :
    s.Eligible core id ↔ ∃ priority, id ∈ s.queue priority ∧ s.mayRun core id := by
  constructor
  · rintro ⟨thread, found, ready, allowed⟩
    refine ⟨thread.priority, wellFormed.mem_queue.mpr ⟨?_, ?_⟩, ?_⟩
    · simp [state?, found, ready]
    · simp [priority?, found]
    · simpa [mayRun, found] using (thread.allows_iff_testBit small).mpr allowed
  · rintro ⟨priority, waiting, mayRun⟩
    obtain ⟨thread, found, ready⟩ := Option.map_eq_some_iff.mp (wellFormed.mem_queue.mp waiting).1
    rw [Scheduler.mayRun, found, Option.any_some] at mayRun
    exact ⟨thread, found, ready, (thread.allows_iff_testBit small).mp mayRun⟩

theorem candidate?_eq_none_iff {core : CoreIndex} :
    s.candidate? core = none ↔ ∀ priority, ∀ id ∈ s.queue priority, ¬ s.mayRun core id := by
  simp [candidate?, List.findSome?_eq_none_iff]

/-- Nobody who may run stands in a more urgent queue or further ahead. -/
theorem candidate?_eq_some {core : CoreIndex} {priority : Priority} {id : ThreadId}
    (choice : s.candidate? core = some (priority, id)) :
    s.mayRun core id ∧
      (∀ urgent < priority, ∀ other ∈ s.queue urgent, ¬ s.mayRun core other) ∧
      ∃ ahead behind, s.queue priority = ahead ++ id :: behind ∧
        ∀ other ∈ ahead, ¬ s.mayRun core other := by
  obtain ⟨before, level, after, levels, here, nobody⟩ := List.findSome?_eq_some_iff.mp choice
  obtain ⟨first, found, same⟩ := Option.map_eq_some_iff.mp here
  cases same
  obtain ⟨mayRun, ahead, behind, split, passed⟩ := List.find?_eq_some_iff_append.mp found
  refine ⟨mayRun, ?_, ahead, behind, split, by simpa using passed⟩
  intro urgent more other member allowed
  have ascending : (before ++ priority :: after).Pairwise (· < ·) :=
    levels ▸ List.pairwise_lt_finRange _
  have looked : urgent ∈ before := by
    have member : urgent ∈ before ++ priority :: after := levels ▸ List.mem_finRange urgent
    rcases List.mem_append.mp member with member | member
    · exact member
    · have later := (List.pairwise_append.mp ascending).2.1
      rcases List.mem_cons.mp member with rfl | member
      · exact absurd more (Nat.lt_irrefl _)
      · exact absurd (List.rel_of_pairwise_cons later member) (Nat.lt_asymm more)
  have none := Option.map_eq_none_iff.mp (nobody urgent looked)
  exact List.find?_eq_none.mp none other member allowed

theorem next_eq_none_iff {core : CoreIndex} :
    (s.next core).1 = none ↔ s.candidate? core = none := by
  unfold next
  cases s.candidate? core <;> simp

theorem precedes_of_next (wellFormed : s.WellFormed) {arrived : List ThreadId}
    (inOrder : InOrder arrived s.queue s.waits) {core : CoreIndex} (small : core < 64)
    {id other : ThreadId} (picked : (s.next core).1 = some id) (eligible : s.Eligible core other)
    (apart : other ≠ id) : s.Precedes arrived id other := by
  obtain ⟨priority, choice⟩ := next_eq_some picked
  obtain ⟨_, urgent, ahead, behind, split, passed⟩ := candidate?_eq_some choice
  obtain ⟨level, waiting, allowed⟩ := (eligible_iff wellFormed small).mp eligible
  have standing : id ∈ s.queue priority := by simp [split]
  refine ⟨priority, level, (wellFormed.mem_queue.mp standing).2,
    (wellFormed.mem_queue.mp waiting).2, ?_⟩
  rcases Nat.lt_trichotomy priority.val level.val with less | same | more
  · exact .inl less
  · obtain rfl : priority = level := Fin.ext same
    have later : other ∈ behind := by
      rw [split, List.mem_append, List.mem_cons] at waiting
      rcases waiting with earlier | same | later
      · exact absurd allowed (passed other earlier)
      · exact absurd same apart
      · exact later
    have inLine : [id, other].Sublist (s.queue priority) := by
      rw [split]
      exact ((List.singleton_sublist.mpr later).cons_cons id).trans (List.sublist_append_right ..)
    exact .inr ⟨rfl, inOrder.cameBefore inLine⟩
  · exact absurd allowed (urgent level more other waiting)

/-- What a core is given, after a run that brought threads into queues like
    this. -/
structure ServesInTurn (s : Scheduler) (arrived : List ThreadId) (core : CoreIndex) : Prop where
  none_iff : (s.next core).1 = none ↔ ∀ id, ¬ s.Eligible core id
  idle : (s.next core).1 = none → (s.next core).2 = s
  first : ∀ id, (s.next core).1 = some id →
    s.Eligible core id ∧ ∀ other, s.Eligible core other → other ≠ id → s.Precedes arrived id other
  /-- Only the state of the thread that is picked changes. -/
  threads : ∀ id, (s.next core).1 = some id → ∀ id', (s.next core).2.threads[id']? =
    if id' = id then s.threads[id]?.map fun thread => { thread with state := .running core }
    else s.threads[id']?
  /-- All others stay in their queues as they stood. -/
  queues : ∀ id, (s.next core).1 = some id → ∀ priority,
    (s.next core).2.queue priority = (s.queue priority).filter (· != id)
  sleepers : (s.next core).2.sleepers = s.sleepers

theorem performAll_servesInTurn (calls : List SchedulerCall) (core : Fin 64) :
    (performAll {} calls).ServesInTurn (arrivals joins {} calls) core := by
  have wellFormed := performAll_wellFormed wellFormed_empty calls
  have inOrder := performAll_inOrder calls
  generalize performAll {} calls = s at wellFormed inOrder
  have eligible (id : ThreadId) : s.Eligible core id ↔
      ∃ priority, id ∈ s.queue priority ∧ s.mayRun core id :=
    eligible_iff wellFormed core.isLt
  exact {
    none_iff := by
      rw [next_eq_none_iff, candidate?_eq_none_iff]
      constructor
      · intro nobody id chosen
        obtain ⟨priority, waiting, allowed⟩ := (eligible id).mp chosen
        exact nobody priority id waiting allowed
      · intro nobody priority id waiting allowed
        exact nobody id ((eligible id).mpr ⟨priority, waiting, allowed⟩)
    idle := next_of_none
    first := by
      intro id picked
      refine ⟨?_, fun other => precedes_of_next wellFormed inOrder core.isLt picked⟩
      obtain ⟨priority, choice⟩ := next_eq_some picked
      obtain ⟨allowed, _, ahead, behind, split, _⟩ := candidate?_eq_some choice
      exact (eligible id).mpr ⟨priority, by simp [split], allowed⟩
    threads := fun id picked => threads_next picked
    queues := fun id picked => queue_next wellFormed picked
    sleepers := sleepers_perform s (.next core) }

end GuestMachine.Scheduler
