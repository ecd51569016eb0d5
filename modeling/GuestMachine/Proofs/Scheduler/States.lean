import GuestMachine.Proofs.Scheduler.Queues

/-! # States and priorities after each operation

Each operation of the scheduler seen through `state?` and `priority?`, one
thread at a time: what it says of the thread it is about, and that it leaves
the others alone.
-/

namespace GuestMachine

namespace Scheduler

variable {s s' : Scheduler} {id : ThreadId}

theorem state?_setState (s : Scheduler) (id : ThreadId) (state : SchedulingState) (id' : ThreadId) :
    (s.setState id state).state? id' =
      if id' = id then (s.state? id).map fun _ => state else s.state? id' := by
  change ((s.threads.modify id _)[id']?).map _ = _
  rw [getElem?_modify, state?, state?]
  split
  · cases s.threads[id]? <;> rfl
  · rfl

theorem priority?_setState (s : Scheduler) (id : ThreadId) (state : SchedulingState)
    (id' : ThreadId) : (s.setState id state).priority? id' = s.priority? id' := by
  change ((s.threads.modify id _)[id']?).map _ = _
  rw [getElem?_modify, priority?]
  split
  · rename_i same
    rw [same]
    cases s.threads[id]? <;> rfl
  · rfl

theorem add_spec {priority : UInt32} {coreMask : UInt64}
    (added : s.add id priority coreMask = .ok s') :
    ∃ level, Priority.ofWord priority = .ok level ∧ s.state? id = none ∧
      (∀ id', s'.priority? id' = if id' = id then some level else s.priority? id') ∧
      ∀ id', s'.state? id' = if id' = id then some .ready else s.state? id' := by
  obtain ⟨level, valid, fresh, rfl⟩ := add_eq_ok added
  refine ⟨level, valid, by rw [state?, fresh]; rfl, fun id' => ?_, fun id' => ?_⟩
  · change ((s.threads.insert id _)[id']?).map _ = _
    rw [getElem?_insert]
    split <;> rfl
  · change ((s.threads.insert id _)[id']?).map _ = _
    rw [getElem?_insert]
    split <;> rfl

theorem threads_remove (s : Scheduler) (id id' : ThreadId) :
    (s.remove id).2.threads[id']? = if id' = id then none else s.threads[id']? := by
  rw [remove]
  cases found : s.threads[id]? with
  | none =>
      dsimp only
      split
      · rename_i same
        rw [same]
        exact found
      · rfl
  | some thread =>
      rw [← getElem?_erase]
      dsimp only
      split <;> rfl

theorem priority?_remove (s : Scheduler) (id id' : ThreadId) :
    (s.remove id).2.priority? id' = if id' = id then none else s.priority? id' := by
  rw [priority?, threads_remove]
  split <;> rfl

theorem state?_remove (s : Scheduler) (id id' : ThreadId) :
    (s.remove id).2.state? id' = if id' = id then none else s.state? id' := by
  rw [state?, threads_remove]
  split <;> rfl

theorem setPriority_spec {priority : UInt32} (changed : s.setPriority id priority = .ok s') :
    ∃ level, Priority.ofWord priority = .ok level ∧ (s.priority? id).isSome ∧
      (∀ id', s'.priority? id' = if id' = id then some level else s.priority? id') ∧
      ∀ id', s'.state? id' = s.state? id' := by
  obtain ⟨level, thread, valid, found, threads, _⟩ := setPriority_eq_ok changed
  refine ⟨level, valid, by rw [priority?, found]; rfl, fun id' => ?_, fun id' => ?_⟩
  · rw [priority?, threads]
    split <;> rfl
  · rw [state?, threads]
    split
    · rename_i same
      rw [same, state?, found]
      rfl
    · rfl

theorem priority?_next (s : Scheduler) (core : CoreIndex) (id' : ThreadId) :
    (s.next core).2.priority? id' = s.priority? id' := by
  rw [next]
  split
  · rfl
  · exact priority?_setState ..

theorem priority?_yield (s : Scheduler) (id id' : ThreadId) :
    (s.yield id).priority? id' = s.priority? id' := by
  rw [yield]
  split
  · split
    · exact priority?_setState s id .ready id'
    · rfl
  · rfl

theorem priority?_sleep (s : Scheduler) (id : ThreadId) (deadline : UInt64) (id' : ThreadId) :
    (s.sleep id deadline).priority? id' = s.priority? id' := by
  rw [sleep]
  split
  · split
    · exact priority?_setState s id (.sleeping deadline) id'
    · rfl
  · rfl

theorem priority?_wake (s : Scheduler) (sleeper : Sleeper) (id' : ThreadId) :
    (s.wake sleeper).2.priority? id' = s.priority? id' := by
  rw [wake]
  split
  · split
    · exact priority?_setState s sleeper.id .ready id'
    · rfl
  · rfl

theorem priority?_wakeAll (s : Scheduler) (called : List Sleeper) (id' : ThreadId) :
    (s.wakeAll called).2.priority? id' = s.priority? id' := by
  induction called generalizing s with
  | nil => rfl
  | cons sleeper rest ih => exact (ih _).trans (priority?_wake s sleeper id')

theorem priority?_wakeExpired (s : Scheduler) (now : UInt64) (id' : ThreadId) :
    (s.wakeExpired now).2.priority? id' = s.priority? id' :=
  priority?_wakeAll _ _ id'

/-- The thread that is picked was ready, and runs on the core. -/
theorem next_spec (wellFormed : s.WellFormed) (core : CoreIndex) :
    ((s.next core).1 = none ∧ (s.next core).2 = s) ∨
      ∃ id, (s.next core).1 = some id ∧ s.state? id = some .ready ∧
        ∀ id', (s.next core).2.state? id' =
          if id' = id then some (.running core) else s.state? id' := by
  rw [next]
  cases picked : s.candidate? core with
  | none => exact .inl ⟨rfl, rfl⟩
  | some place =>
      obtain ⟨priority, id⟩ := place
      obtain ⟨thread, found, ready, _, _⟩ := wellFormed.candidate? picked
      have known : s.state? id = some .ready := by rw [state?, found, Option.map_some, ready]
      refine .inr ⟨id, rfl, known, fun id' => ?_⟩
      refine (state?_setState _ id (.running core) id').trans ?_
      change (if id' = id then (s.state? id).map _ else s.state? id') = _
      rw [known]
      rfl

section

variable {core : CoreIndex}

theorem found_of_running (running : s.state? id = some (.running core)) :
    ∃ thread, s.threads[id]? = some thread ∧ thread.state.isRunning := by
  obtain ⟨thread, found, state⟩ := Option.map_eq_some_iff.mp running
  exact ⟨thread, found, by rw [state]; rfl⟩

theorem state?_yield (running : s.state? id = some (.running core)) (id' : ThreadId) :
    (s.yield id).state? id' = if id' = id then some .ready else s.state? id' := by
  obtain ⟨thread, found, onCore⟩ := found_of_running running
  simp only [yield, found, onCore, if_true]
  refine (state?_setState s id .ready id').trans ?_
  rw [running]
  rfl

theorem state?_sleep (running : s.state? id = some (.running core)) (deadline : UInt64)
    (id' : ThreadId) :
    (s.sleep id deadline).state? id' =
      if id' = id then some (.sleeping deadline) else s.state? id' := by
  obtain ⟨thread, found, onCore⟩ := found_of_running running
  simp only [sleep, found, onCore, if_true]
  refine (state?_setState s id (.sleeping deadline) id').trans ?_
  rw [running]
  rfl

theorem any_isRunning_iff :
    (s.state? id).any SchedulingState.isRunning ↔ ∃ core, s.state? id = some (.running core) := by
  cases s.state? id with
  | none => simp
  | some state => cases state <;> simp [SchedulingState.isRunning]

/-- Only a running thread can give way. -/
theorem yield_of_not_running (idle : ¬ (s.state? id).any SchedulingState.isRunning) :
    s.yield id = s := by
  cases found : s.threads[id]? with
  | none => simp [yield, found]
  | some thread =>
      have idle : ¬ thread.state.isRunning := by simpa [state?, found] using idle
      simp [yield, found, idle]

theorem sleep_of_not_running (idle : ¬ (s.state? id).any SchedulingState.isRunning)
    (deadline : UInt64) : s.sleep id deadline = s := by
  cases found : s.threads[id]? with
  | none => simp [sleep, found]
  | some thread =>
      have idle : ¬ thread.state.isRunning := by simpa [state?, found] using idle
      simp [sleep, found, idle]

theorem running_wake_iff (s : Scheduler) (sleeper : Sleeper) (id : ThreadId) :
    (s.wake sleeper).2.state? id = some (.running core) ↔ s.state? id = some (.running core) := by
  rw [wake]
  split
  · rename_i thread found
    split
    · rename_i asleep
      refine (iff_of_eq (congrArg (· = _) (state?_setState s sleeper.id .ready id))).trans ?_
      split
      · rename_i same
        rw [same, state?, found, Option.map_some, Option.map_some, asleep]
        simp
      · rfl
    · rfl
  · rfl

theorem running_wakeAll_iff (s : Scheduler) (called : List Sleeper) (id : ThreadId) :
    (s.wakeAll called).2.state? id = some (.running core) ↔ s.state? id = some (.running core) := by
  induction called generalizing s with
  | nil => rfl
  | cons sleeper rest ih => exact (ih _).trans (running_wake_iff s sleeper id)

/-- Waking threads neither takes a core away nor gives one. -/
theorem running_wakeExpired_iff (s : Scheduler) (now : UInt64) (id : ThreadId) :
    (s.wakeExpired now).2.state? id = some (.running core) ↔ s.state? id = some (.running core) :=
  running_wakeAll_iff _ _ id

end

end Scheduler

end GuestMachine
