import Mathlib.Data.Nat.Bitwise
import Std.Data.TreeMap.Lemmas
import GuestMachine.Kernel.Scheduler
import GuestMachine.Proofs.Operations

/-! # Where scheduled threads stand

The queues, the map of threads and the wake-ups are three structures that every
operation changes one by one. What ties them together: a thread stands in a
queue exactly while it is ready, once and in the queue of its priority, and one
that sleeps has a wake-up on record. Every operation keeps this, a refused one
too. The order within a queue is not covered here.
-/

namespace GuestMachine

def SchedulingState.isReady : SchedulingState → Bool
  | ready => true
  | _ => false

def SchedulingState.isSleeping : SchedulingState → Bool
  | sleeping _ => true
  | _ => false

/-- Ready, with this priority. -/
def ScheduledThread.waitsAt (thread : ScheduledThread) (priority : Priority) : Bool :=
  thread.state.isReady && thread.priority == priority

theorem toNat_coreBit {core : CoreIndex} (small : core < 64) :
    (1 <<< UInt64.ofNat core : UInt64).toNat = 2 ^ core := by
  have shift : (UInt64.ofNat core).toNat % 64 = core := by
    rw [UInt64.toNat_ofNat_of_lt' (Nat.lt_trans small (by decide)), Nat.mod_eq_of_lt small]
  rw [UInt64.toNat_shiftLeft, shift, UInt64.toNat_one, Nat.one_shiftLeft]
  exact Nat.mod_eq_of_lt (Nat.pow_lt_pow_right (by decide) small)

theorem ScheduledThread.allows_iff_testBit (thread : ScheduledThread) {core : CoreIndex}
    (small : core < 64) : thread.allows core ↔ thread.coreMask.toNat.testBit core := by
  rw [allows, bne_iff_ne, ne_eq, ← UInt64.toNat_inj, UInt64.toNat_and, toNat_coreBit small,
    UInt64.toNat_zero, Nat.and_two_pow]
  cases thread.coreMask.toNat.testBit core with
  | false => simp
  | true => simp

namespace Scheduler

variable {s s' : Scheduler} {due due' : List Sleeper}

theorem getElem?_insert (s : Scheduler) (id : ThreadId) (thread : ScheduledThread) (id' : ThreadId) :
    (s.threads.insert id thread)[id']? = if id' = id then some thread else s.threads[id']? := by
  simp only [Std.TreeMap.getElem?_insert, Std.LawfulEqCmp.compare_eq_iff_eq, @eq_comm _ id' id]

theorem getElem?_erase (s : Scheduler) (id id' : ThreadId) :
    (s.threads.erase id)[id']? = if id' = id then none else s.threads[id']? := by
  simp only [Std.TreeMap.getElem?_erase, Std.LawfulEqCmp.compare_eq_iff_eq, @eq_comm _ id' id]

theorem getElem?_modify (s : Scheduler) (id : ThreadId) (f : ScheduledThread → ScheduledThread)
    (id' : ThreadId) :
    (s.threads.modify id f)[id']? =
      if id' = id then s.threads[id]?.map f else s.threads[id']? := by
  simp only [Std.TreeMap.getElem?_modify, Std.LawfulEqCmp.compare_eq_iff_eq, @eq_comm _ id' id]

theorem threads_setState {id : ThreadId} {thread : ScheduledThread}
    (found : s.threads[id]? = some thread) (state : SchedulingState) (id' : ThreadId) :
    (s.setState id state).threads[id']? =
      if id' = id then some { thread with state } else s.threads[id']? :=
  (getElem?_modify s id _ id').trans (by rw [found]; rfl)

theorem queue_setQueue (s : Scheduler) (priority : Priority) (queue : List ThreadId)
    (p : Priority) :
    (s.setQueue priority queue).queue p = if p = priority then queue else s.queue p := by
  by_cases here : p = priority
  · subst here
    simp [setQueue, Scheduler.queue]
  · have apart : priority.val ≠ p.val := fun same => here (Fin.ext same.symm)
    simp [setQueue, Scheduler.queue, apart, here]

theorem count_enqueue (s : Scheduler) (priority : Priority) (id : ThreadId) (p : Priority)
    (id' : ThreadId) :
    ((s.enqueue priority id).queue p).count id' =
      (s.queue p).count id' + if p = priority ∧ id' = id then 1 else 0 := by
  rw [enqueue, queue_setQueue]
  by_cases here : p = priority
  · subst here
    by_cases same : id' = id
    · simp [List.count_append, same]
    · simp [List.count_append, same, Ne.symm same]
  · simp [here]

theorem count_dequeue (s : Scheduler) (priority : Priority) (id : ThreadId) (p : Priority)
    (id' : ThreadId) :
    ((s.dequeue priority id).queue p).count id' =
      if p = priority ∧ id' = id then 0 else (s.queue p).count id' := by
  rw [dequeue, queue_setQueue]
  by_cases here : p = priority
  · subst here
    by_cases same : id' = id
    · simp [same, List.count_eq_zero]
    · simp [same, List.count_filter]
  · simp [here]

/-- The thread waits in the queue of this priority. -/
def waits (s : Scheduler) (priority : Priority) (id : ThreadId) : Bool :=
  s.threads[id]?.any (·.waitsAt priority)

/-- The invariant with the wake-ups apart, so that it can be followed while they
    are served one by one. -/
structure WellFormedWith (s : Scheduler) (due : List Sleeper) : Prop where
  /-- Each queue holds the threads that wait there, each once, and nothing else. -/
  queued : ∀ priority id, (s.queue priority).count id = if s.waits priority id then 1 else 0
  asleep : ∀ id deadline, s.state? id = some (.sleeping deadline) → ∃ seq, { deadline, seq, id } ∈ due
  allowed : ∀ (id : ThreadId) thread core, s.threads[id]? = some thread → thread.state = .running core →
    core < 64 ∧ thread.coreMask.toNat.testBit core

abbrev WellFormed (s : Scheduler) : Prop :=
  s.WellFormedWith s.sleepers

theorem wellFormed_empty : ({} : Scheduler).WellFormed where
  queued priority id := by simp [waits, queue]
  asleep id deadline sleeping := by simp [state?] at sleeping
  allowed id thread core found := by simp at found

/-- What an operation has to see to that changes the record of one thread. -/
theorem WellFormedWith.change (wellFormed : s.WellFormedWith due) {id : ThreadId}
    {record? : Option ScheduledThread}
    (threads : ∀ id', s'.threads[id']? = if id' = id then record? else s.threads[id']?)
    (queues : ∀ priority id', (s'.queue priority).count id' =
      if id' = id then if record?.any (·.waitsAt priority) then 1 else 0
      else (s.queue priority).count id')
    (asleep : ∀ deadline, record?.map ScheduledThread.state = some (.sleeping deadline) →
      ∃ seq, { deadline, seq, id } ∈ due')
    (kept : ∀ sleeper ∈ due, sleeper.id ≠ id → sleeper ∈ due')
    (allowed : ∀ thread core, record? = some thread → thread.state = .running core →
      core < 64 ∧ thread.coreMask.toNat.testBit core) :
    s'.WellFormedWith due' where
  queued priority id' := by
    rw [queues, waits, threads]
    split
    · rfl
    · exact wellFormed.queued priority id'
  asleep id' deadline sleeping := by
    rw [state?, threads] at sleeping
    split at sleeping
    · rename_i here
      rw [here]
      exact asleep deadline sleeping
    · rename_i elsewhere
      obtain ⟨seq, recorded⟩ := wellFormed.asleep id' deadline sleeping
      exact ⟨seq, kept _ recorded elsewhere⟩
  allowed id' thread core found running := by
    rw [threads] at found
    split at found
    · exact allowed thread core found running
    · exact wellFormed.allowed id' thread core found running

/-- A thread that is not ready stands in no queue. -/
theorem WellFormedWith.count_of_not_ready (wellFormed : s.WellFormedWith due) {id : ThreadId}
    (absent : s.threads[id]?.any (·.state.isReady) = false) (priority : Priority) :
    (s.queue priority).count id = 0 := by
  rw [wellFormed.queued, waits]
  cases found : s.threads[id]? with
  | none => rfl
  | some thread =>
      rw [found, Option.any_some] at absent
      simp [ScheduledThread.waitsAt, absent]

theorem WellFormedWith.count_of_ready (wellFormed : s.WellFormedWith due) {id : ThreadId}
    {thread : ScheduledThread} (found : s.threads[id]? = some thread) (ready : thread.state = .ready)
    (priority : Priority) :
    (s.queue priority).count id = if priority = thread.priority then 1 else 0 := by
  rw [wellFormed.queued, waits, found, Option.any_some, ScheduledThread.waitsAt, ready]
  by_cases here : priority = thread.priority
  · simp [here, SchedulingState.isReady]
  · simp [here, Ne.symm here, SchedulingState.isReady]

/-- A thread that stood in no queue becomes ready and is queued. -/
theorem WellFormedWith.enqueued (wellFormed : s.WellFormedWith due) {id : ThreadId}
    {thread : ScheduledThread} (out : s.threads[id]?.any (·.state.isReady) = false)
    (ready : thread.state = .ready)
    (threads : ∀ id', s'.threads[id']? = if id' = id then some thread else s.threads[id']?)
    (queue : s'.queue = (s.enqueue thread.priority id).queue)
    (kept : ∀ sleeper ∈ due, sleeper.id ≠ id → sleeper ∈ due') : s'.WellFormedWith due' := by
  refine wellFormed.change threads ?_ ?_ kept ?_
  · intro priority id'
    rw [queue, count_enqueue]
    by_cases same : id' = id
    · subst same
      rw [wellFormed.count_of_not_ready out]
      by_cases here : priority = thread.priority
      · simp [here, ScheduledThread.waitsAt, ready, SchedulingState.isReady]
      · simp [here, Ne.symm here, ScheduledThread.waitsAt]
    · simp [same]
  · intro deadline sleeping
    rw [Option.map_some, ready] at sleeping
    cases sleeping
  · intro thread' core found running
    cases found
    rw [ready] at running
    cases running

/-- A thread leaves its queue, if it stood in one, and is not ready any more. -/
theorem WellFormedWith.left (wellFormed : s.WellFormedWith due) {id : ThreadId}
    {record? : Option ScheduledThread} (out : record?.any (·.state.isReady) = false)
    (threads : ∀ id', s'.threads[id']? = if id' = id then record? else s.threads[id']?)
    (queues : ∀ (priority : Priority) id', (s'.queue priority).count id' =
      if id' = id then 0 else (s.queue priority).count id')
    (asleep : ∀ deadline, record?.map ScheduledThread.state = some (.sleeping deadline) →
      ∃ seq, { deadline, seq, id } ∈ due')
    (kept : ∀ sleeper ∈ due, sleeper.id ≠ id → sleeper ∈ due')
    (allowed : ∀ thread core, record? = some thread → thread.state = .running core →
      core < 64 ∧ thread.coreMask.toNat.testBit core) : s'.WellFormedWith due' := by
  refine wellFormed.change threads ?_ asleep kept allowed
  intro priority id'
  rw [queues]
  split
  · cases record? with
    | none => rfl
    | some thread =>
        rw [Option.any_some] at out
        simp [ScheduledThread.waitsAt, out]
  · rfl

theorem add_eq (s : Scheduler) (id : ThreadId) (priority : UInt32) (coreMask : UInt64) :
    s.add id priority coreMask = (Priority.ofWord priority).bind fun level =>
      if coreMask = 0 then .error .invalidCombination
      else if s.threads.contains id then
        .error (.invalidState ("thread " ++ toString id.toNat ++ " is already scheduled"))
      else
        .ok ({ s with
          threads := s.threads.insert id { priority := level, coreMask, state := .ready } }.enqueue
            level id) := by
  rw [add, SchedulerM.add, Operation.result_eq, Operation.outcome_ofExcept_bind]
  cases Priority.ofWord priority with
  | error e => rfl
  | ok level =>
      dsimp only [Except.bind]
      by_cases nowhere : coreMask = 0
      · rw [if_pos nowhere, if_pos nowhere]
        rfl
      · rw [if_neg nowhere, if_neg nowhere, Operation.outcome, Operation.get_bind]
        by_cases known : s.threads.contains id
        · rw [if_pos known, if_pos known]
          rfl
        · rw [if_neg known, if_neg known]
          rfl

/-- What an accepted thread is given, and that it is new. -/
theorem add_eq_ok {id : ThreadId} {priority : UInt32} {coreMask : UInt64}
    (added : s.add id priority coreMask = .ok s') :
    ∃ level, Priority.ofWord priority = .ok level ∧ s.threads[id]? = none ∧
      s' = { s with
        threads := s.threads.insert id { priority := level, coreMask, state := .ready } }.enqueue
          level id := by
  rw [add_eq] at added
  cases valid : Priority.ofWord priority with
  | error e =>
      rw [valid] at added
      cases added
  | ok level =>
      simp only [valid, Except.bind] at added
      split at added
      · cases added
      · split at added
        · cases added
        · rename_i fresh
          rw [Std.TreeMap.contains_eq_isSome_getElem?, Option.not_isSome_iff_eq_none] at fresh
          exact ⟨level, rfl, fresh, (Except.ok.inj added).symm⟩

theorem add_wellFormed (wellFormed : s.WellFormed) {id : ThreadId} {priority : UInt32}
    {coreMask : UInt64} (added : s.add id priority coreMask = .ok s') : s'.WellFormed := by
  obtain ⟨level, _, fresh, rfl⟩ := add_eq_ok added
  have out : s.threads[id]?.any (·.state.isReady) = false := by
    rw [fresh]
    rfl
  exact wellFormed.enqueued out rfl (getElem?_insert s id _) rfl fun sleeper member _ => member

/-- A ready thread leaves its queue: its count there falls to zero, and it had
    no place elsewhere. -/
theorem WellFormedWith.count_dequeue_ready (wellFormed : s.WellFormedWith due) {id : ThreadId}
    {thread : ScheduledThread} (found : s.threads[id]? = some thread) (ready : thread.state = .ready)
    (priority : Priority) (id' : ThreadId) :
    ((s.dequeue thread.priority id).queue priority).count id' =
      if id' = id then 0 else (s.queue priority).count id' := by
  rw [count_dequeue]
  by_cases same : id' = id
  · subst same
    rw [wellFormed.count_of_ready found ready]
    by_cases here : priority = thread.priority
    · simp [here]
    · simp [here]
  · simp [same]

theorem remove_wellFormed (wellFormed : s.WellFormed) (id : ThreadId) :
    (s.remove id).2.WellFormed := by
  rw [remove]
  cases found : s.threads[id]? with
  | none => exact wellFormed
  | some thread =>
      have erased := getElem?_erase s id
      have kept : ∀ sleeper ∈ s.sleepers, sleeper.id ≠ id → sleeper ∈ s.sleepers :=
        fun sleeper member _ => member
      dsimp only
      split
      · rename_i ready
        exact wellFormed.left rfl erased (wellFormed.count_dequeue_ready found ready)
          (fun _ => nofun) kept (fun _ _ => nofun)
      · rename_i other
        have out : s.threads[id]?.any (·.state.isReady) = false := by
          rw [found, Option.any_some]
          cases state : thread.state with
          | ready => exact absurd state other
          | running core => rfl
          | sleeping deadline => rfl
        refine wellFormed.left rfl erased ?_ (fun _ => nofun) kept (fun _ _ => nofun)
        intro priority id'
        split
        · rename_i same
          rw [same]
          exact wellFormed.count_of_not_ready out priority
        · rfl

theorem waits_eq_true {priority : Priority} {id : ThreadId} (waiting : s.waits priority id) :
    ∃ thread, s.threads[id]? = some thread ∧ thread.state = .ready ∧ thread.priority = priority := by
  rw [waits] at waiting
  cases found : s.threads[id]? with
  | none =>
      rw [found] at waiting
      cases waiting
  | some thread =>
      rw [found, Option.any_some, ScheduledThread.waitsAt, Bool.and_eq_true, beq_iff_eq] at waiting
      refine ⟨thread, rfl, ?_, waiting.2⟩
      cases state : thread.state with
      | ready => rfl
      | _ =>
          rw [state] at waiting
          exact absurd waiting.1 nofun

/-- The thread that is picked stands in the queue it is picked from, ready, and
    may run on the core. -/
theorem WellFormedWith.candidate? (wellFormed : s.WellFormedWith due) {core : CoreIndex}
    {priority : Priority} {id : ThreadId} (picked : s.candidate? core = some (priority, id)) :
    ∃ thread, s.threads[id]? = some thread ∧ thread.state = .ready ∧ thread.priority = priority ∧
      thread.allows core := by
  obtain ⟨level, _, found⟩ := List.exists_of_findSome?_eq_some picked
  obtain ⟨first, found, same⟩ := Option.map_eq_some_iff.mp found
  cases same
  have waiting : s.waits priority id := by
    by_contra absent
    have count := wellFormed.queued priority id
    rw [if_neg absent, List.count_eq_zero] at count
    exact count (List.mem_of_find?_eq_some found)
  obtain ⟨thread, known, ready, here⟩ := waits_eq_true waiting
  have allows := List.find?_some found
  rw [mayRun, known, Option.any_some] at allows
  exact ⟨thread, known, ready, here, allows⟩

/-- A ready thread that is picked leaves its queue: it stood there once. -/
theorem WellFormedWith.count_erase_ready (wellFormed : s.WellFormedWith due) {id : ThreadId}
    {thread : ScheduledThread} (found : s.threads[id]? = some thread) (ready : thread.state = .ready)
    (priority : Priority) (id' : ThreadId) :
    ((s.setQueue thread.priority ((s.queue thread.priority).erase id)).queue priority).count id' =
      if id' = id then 0 else (s.queue priority).count id' := by
  have count := wellFormed.count_of_ready found ready priority
  rw [queue_setQueue]
  by_cases here : priority = thread.priority
  · subst here
    rw [if_pos rfl] at count
    by_cases same : id' = id
    · subst same
      simp [count]
    · simp [same]
  · rw [if_neg here] at count
    by_cases same : id' = id
    · subst same
      simpa [here] using count
    · simp [here, same]

theorem next_wellFormed (wellFormed : s.WellFormed) {core : CoreIndex} (small : core < 64) :
    (s.next core).2.WellFormed := by
  rw [next]
  cases picked : s.candidate? core with
  | none => exact wellFormed
  | some place =>
      obtain ⟨priority, id⟩ := place
      obtain ⟨thread, found, ready, rfl, allows⟩ := wellFormed.candidate? picked
      refine wellFormed.left rfl (threads_setState found _)
        (wellFormed.count_erase_ready found ready) (fun _ => nofun)
        (fun sleeper member _ => member) ?_
      intro thread' core' same running
      cases same
      cases running
      exact ⟨small, (thread.allows_iff_testBit small).mp allows⟩

theorem not_isReady_of_isRunning {id : ThreadId} {thread : ScheduledThread}
    (found : s.threads[id]? = some thread) (running : thread.state.isRunning) :
    s.threads[id]?.any (·.state.isReady) = false := by
  rw [found, Option.any_some]
  cases state : thread.state with
  | running core => rfl
  | ready => rw [state] at running; cases running
  | sleeping deadline => rfl

theorem yield_wellFormed (wellFormed : s.WellFormed) (id : ThreadId) : (s.yield id).WellFormed := by
  rw [yield]
  cases found : s.threads[id]? with
  | none => exact wellFormed
  | some thread =>
      dsimp only
      split
      · rename_i running
        have out := not_isReady_of_isRunning found running
        exact wellFormed.enqueued out rfl (threads_setState found _) rfl
          fun sleeper member _ => member
      · exact wellFormed

theorem mem_insertSleeper {sleeper other : Sleeper} {sleepers : List Sleeper} :
    other ∈ insertSleeper sleeper sleepers ↔ other = sleeper ∨ other ∈ sleepers := by
  induction sleepers with
  | nil => simp [insertSleeper]
  | cons first rest ih =>
      rw [insertSleeper]
      split
      · rw [List.mem_cons, ih, List.mem_cons]
        exact or_left_comm
      · exact List.mem_cons

theorem sleep_wellFormed (wellFormed : s.WellFormed) (id : ThreadId) (deadline : UInt64) :
    (s.sleep id deadline).WellFormed := by
  rw [sleep]
  cases found : s.threads[id]? with
  | none => exact wellFormed
  | some thread =>
      dsimp only
      split
      · rename_i running
        have out := not_isReady_of_isRunning found running
        refine wellFormed.left rfl (threads_setState found _) ?_ ?_
          (fun sleeper member _ => mem_insertSleeper.mpr (.inr member)) ?_
        · intro priority id'
          split
          · rename_i same
            rw [same]
            exact wellFormed.count_of_not_ready out priority
          · rfl
        · intro tick sleeping
          cases sleeping
          exact ⟨s.seq + 1, mem_insertSleeper.mpr (.inl rfl)⟩
        · intro thread' core' same running
          cases same
          cases running
      · exact wellFormed

/-- A wake-up that is served and wakes nobody was nobody's to wait for. -/
theorem WellFormedWith.served {sleeper : Sleeper} (wellFormed : s.WellFormedWith (sleeper :: due))
    (stale : s.state? sleeper.id ≠ some (.sleeping sleeper.deadline)) : s.WellFormedWith due where
  queued := wellFormed.queued
  asleep id deadline sleeping := by
    obtain ⟨seq, recorded⟩ := wellFormed.asleep id deadline sleeping
    cases List.mem_cons.mp recorded with
    | inl same =>
        subst same
        exact absurd sleeping stale
    | inr member => exact ⟨seq, member⟩
  allowed := wellFormed.allowed

theorem wake_wellFormed {sleeper : Sleeper} (wellFormed : s.WellFormedWith (sleeper :: due)) :
    (s.wake sleeper).2.WellFormedWith due := by
  rw [wake]
  cases found : s.threads[sleeper.id]? with
  | none => exact wellFormed.served (by rw [state?, found]; nofun)
  | some thread =>
      dsimp only
      split
      · rename_i sleeping
        have out : s.threads[sleeper.id]?.any (·.state.isReady) = false := by
          rw [found, Option.any_some, sleeping]
          rfl
        refine wellFormed.enqueued out rfl (threads_setState found _) rfl ?_
        intro other member apart
        cases List.mem_cons.mp member with
        | inl same => exact absurd (congrArg Sleeper.id same) apart
        | inr member => exact member
      · rename_i awake
        refine wellFormed.served ?_
        rw [state?, found, Option.map_some]
        exact fun same => awake (Option.some.inj same)

theorem wakeAll_wellFormed (called : List Sleeper)
    (wellFormed : s.WellFormedWith (called ++ due)) : (s.wakeAll called).2.WellFormedWith due := by
  induction called generalizing s with
  | nil => exact wellFormed
  | cons sleeper rest ih => exact ih (wake_wellFormed wellFormed)

theorem wake_sleepers (s : Scheduler) (sleeper : Sleeper) :
    (s.wake sleeper).2.sleepers = s.sleepers := by
  rw [wake]
  split
  · split <;> rfl
  · rfl

theorem wakeAll_sleepers (s : Scheduler) (called : List Sleeper) :
    (s.wakeAll called).2.sleepers = s.sleepers := by
  induction called generalizing s with
  | nil => rfl
  | cons sleeper rest ih => exact (ih _).trans (wake_sleepers s sleeper)

theorem wakeExpired_wellFormed (wellFormed : s.WellFormed) (now : UInt64) :
    (s.wakeExpired now).2.WellFormed := by
  let expired : Sleeper → Bool := (·.deadline ≤ now)
  have apart : { s with sleepers := s.sleepers.dropWhile expired }.WellFormedWith
      (s.sleepers.takeWhile expired ++ s.sleepers.dropWhile expired) := by
    rw [List.takeWhile_append_dropWhile]
    exact ⟨wellFormed.queued, wellFormed.asleep, wellFormed.allowed⟩
  have served := wakeAll_wellFormed _ apart
  rw [WellFormed, wakeExpired, wakeAll_sleepers]
  exact served

theorem setPriority_eq (s : Scheduler) (id : ThreadId) (priority : UInt32) :
    s.setPriority id priority = (Priority.ofWord priority).bind fun level =>
      match s.threads[id]? with
      | none => .error (.invalidThreadId id)
      | some thread =>
          let moved :=
            if thread.state = .ready ∧ thread.priority ≠ level then
              (s.dequeue thread.priority id).enqueue level id
            else s
          .ok { moved with
            threads := moved.threads.modify id fun thread => { thread with priority := level } } := by
  rw [setPriority, SchedulerM.setPriority, Operation.result_eq, Operation.outcome_ofExcept_bind]
  cases Priority.ofWord priority with
  | error e => rfl
  | ok level =>
      dsimp only [Except.bind]
      rw [Operation.outcome, Operation.get_bind]
      cases s.threads[id]? with
      | none => rfl
      | some thread =>
          dsimp only
          by_cases moves : thread.state = .ready ∧ thread.priority ≠ level
          · rw [if_pos moves, if_pos moves]
            rfl
          · rw [if_neg moves, if_neg moves]
            rfl

/-- What an accepted change of priority does. -/
theorem setPriority_eq_ok {id : ThreadId} {priority : UInt32}
    (changed : s.setPriority id priority = .ok s') :
    ∃ level thread, Priority.ofWord priority = .ok level ∧ s.threads[id]? = some thread ∧
      (∀ id', s'.threads[id']? =
        if id' = id then some { thread with priority := level } else s.threads[id']?) ∧
      s'.sleepers = s.sleepers ∧
      s'.queue = if thread.state = .ready ∧ thread.priority ≠ level then
        ((s.dequeue thread.priority id).enqueue level id).queue else s.queue := by
  rw [setPriority_eq] at changed
  cases valid : Priority.ofWord priority with
  | error e =>
      rw [valid] at changed
      cases changed
  | ok level =>
      simp only [valid, Except.bind] at changed
      cases found : s.threads[id]? with
      | none =>
          rw [found] at changed
          cases changed
      | some thread =>
          rw [found] at changed
          cases changed
          refine ⟨level, thread, rfl, rfl, ?_, ?_, ?_⟩
          · intro id'
            split
            · exact (getElem?_modify s id _ id').trans (by rw [found]; rfl)
            · exact (getElem?_modify s id _ id').trans (by rw [found]; rfl)
          · split <;> rfl
          · split <;> rfl

theorem setPriority_wellFormed (wellFormed : s.WellFormed) {id : ThreadId} {priority : UInt32}
    (changed : s.setPriority id priority = .ok s') : s'.WellFormed := by
  obtain ⟨level, thread, _, found, threads, sleepers, queue⟩ := setPriority_eq_ok changed
  rw [WellFormed, sleepers]
  refine wellFormed.change threads ?_ ?_ (fun sleeper member _ => member) ?_
  · intro p id'
    rw [queue, Option.any_some, ScheduledThread.waitsAt]
    split
    · rename_i moved
      rw [count_enqueue, wellFormed.count_dequeue_ready found moved.1]
      by_cases same : id' = id
      · simp [same, moved.1, SchedulingState.isReady, @eq_comm _ p]
      · simp [same]
    · rename_i unmoved
      split
      · rename_i same
        rw [same, wellFormed.queued, waits, found, Option.any_some, ScheduledThread.waitsAt]
        cases state : thread.state with
        | ready =>
            have kept : thread.priority = level := by
              by_contra other
              exact unmoved ⟨state, other⟩
            rw [kept]
        | _ => rfl
      · rfl
  · intro deadline sleeping
    refine wellFormed.asleep id deadline ?_
    rw [state?, found]
    exact sleeping
  · intro thread' core same running
    cases same
    exact wellFormed.allowed id thread core found running

end Scheduler

namespace SchedulerM

theorem add_atomic (id : ThreadId) (priority : UInt32) (coreMask : UInt64) :
    Operation.Atomic (add id priority coreMask) := by
  refine .ofExcept_bind fun level _ => ?_
  split
  · exact Operation.throw_atomic _
  · refine .get_bind fun s => ?_
    split
    · exact Operation.throw_atomic _
    · exact ((Operation.modify_accepted _).bind fun _ => Operation.modify_accepted _).atomic

theorem setPriority_atomic (id : ThreadId) (priority : UInt32) :
    Operation.Atomic (setPriority id priority) := by
  refine .ofExcept_bind fun level _ => .get_bind fun s => ?_
  split
  · exact Operation.throw_atomic _
  · split
    · exact ((Operation.modify_accepted _).bind fun _ => Operation.modify_accepted _).atomic
    · exact (Operation.modify_accepted _).atomic

end SchedulerM

end GuestMachine
