import Mathlib.Data.List.Induction
import GuestMachine.Proofs.Scheduler.Arrivals
import GuestMachine.Proofs.Scheduler.Wakeups

/-! # Waking on time

Threads wake when their own tick has come, whatever records removed threads have
left behind, and nobody who is due stays asleep. Among those that wake together
the earlier tick comes first. For equal ticks it is the thread that fell asleep
first, in runs where no thread comes back after it was removed: a thread that
does may find its old record with the same tick and wake in that place.
-/

namespace GuestMachine.Scheduler

variable {s : Scheduler}

theorem state?_wakeExpired (wellFormed : s.WellFormed) (sorted : s.Sorted) (now : UInt64)
    (id : ThreadId) :
    (s.wakeExpired now).2.state? id =
      (s.state? id).map fun state => if state.isDue now then .ready else state := by
  rw [state?, threads_wakeExpired wellFormed sorted, state?, Option.map_map, Option.map_map]
  congr 1
  funext thread
  by_cases due : thread.state.isDue now <;> simp [ScheduledThread.wokenBy, due]

theorem state?_perform (wellFormed : s.WellFormed) (sorted : s.Sorted) (call : SchedulerCall)
    (id : ThreadId) :
    (s.perform call).state? id =
      match call with
      | .add other priority coreMask =>
          if id = other ∧ (s.add other priority coreMask).isOk then some .ready else s.state? id
      | .remove other => if id = other then none else s.state? id
      | .next core =>
          if (s.next core).1 = some id then some (.running core) else s.state? id
      | .yield other =>
          if id = other ∧ (s.state? other).any SchedulingState.isRunning then some .ready
          else s.state? id
      | .sleep other deadline =>
          if id = other ∧ (s.state? other).any SchedulingState.isRunning then
            some (.sleeping deadline)
          else s.state? id
      | .wakeExpired now =>
          (s.state? id).map fun state => if state.isDue now then .ready else state
      | .setPriority _ _ => s.state? id := by
  cases call with
  | add other priority coreMask =>
      cases added : s.add other priority coreMask with
      | error e => simp [perform, added, Except.toOption, Except.isOk, Except.toBool]
      | ok s' =>
          obtain ⟨_, _, _, _, states⟩ := add_spec added
          simp [perform, added, Except.toOption, Except.isOk, Except.toBool, states]
  | remove other => exact state?_remove s other id
  | next core =>
      rcases next_spec wellFormed core with ⟨idle, same⟩ | ⟨chosen, picked, _, states⟩
      · simp [perform, idle, same]
      · simp [perform, picked, states, eq_comm]
  | yield other =>
      by_cases running : (s.state? other).any SchedulingState.isRunning
      · obtain ⟨core, known⟩ := any_isRunning_iff.mp running
        simp [perform, running, state?_yield known]
      · simp [perform, running, yield_of_not_running running]
  | sleep other deadline =>
      by_cases running : (s.state? other).any SchedulingState.isRunning
      · obtain ⟨core, known⟩ := any_isRunning_iff.mp running
        simp [perform, running, state?_sleep known]
      · simp [perform, running, sleep_of_not_running running]
  | wakeExpired now => exact state?_wakeExpired wellFormed sorted now id
  | setPriority other priority =>
      cases changed : s.setPriority other priority with
      | error e => simp [perform, changed, Except.toOption]
      | ok s' =>
          obtain ⟨_, _, _, _, states⟩ := setPriority_spec changed
          simp [perform, changed, Except.toOption, states]

/-- The thread sleeps until exactly this tick. -/
def asleepUntil (s : Scheduler) (deadline : UInt64) (id : ThreadId) : Bool :=
  s.state? id == some (.sleeping deadline)

theorem asleepUntil_perform (wellFormed : s.WellFormed) (sorted : s.Sorted) (call : SchedulerCall)
    (deadline : UInt64) (id : ThreadId) :
    (s.perform call).asleepUntil deadline id =
      match call with
      | .remove other => s.asleepUntil deadline id && id != other
      | .sleep other tick =>
          if id = other ∧ (s.state? other).any SchedulingState.isRunning then tick == deadline
          else s.asleepUntil deadline id
      | .wakeExpired now => s.asleepUntil deadline id && now < deadline
      | _ => s.asleepUntil deadline id := by
  rw [asleepUntil, asleepUntil, state?_perform wellFormed sorted]
  cases call with
  | add other priority coreMask =>
      by_cases here : id = other ∧ (s.add other priority coreMask).isOk
      · cases added : s.add other priority coreMask with
        | error e => simp [added, Except.isOk, Except.toBool] at here
        | ok s' =>
            obtain ⟨_, _, fresh, _⟩ := add_spec added
            simp [here.1, fresh, added, Except.isOk, Except.toBool]
      · simp [here]
  | remove other => by_cases here : id = other <;> simp [here]
  | next core =>
      rcases next_spec wellFormed core with ⟨idle, _⟩ | ⟨chosen, picked, ready, _⟩
      · simp [idle]
      · by_cases here : chosen = id
        · simp [picked, here, here ▸ ready]
        · simp [picked, here]
  | yield other =>
      by_cases here : id = other ∧ (s.state? other).any SchedulingState.isRunning
      · obtain ⟨rfl, running⟩ := here
        obtain ⟨core, known⟩ := any_isRunning_iff.mp running
        simp [known, SchedulingState.isRunning]
      · simp [here]
  | sleep other tick =>
      by_cases here : id = other ∧ (s.state? other).any SchedulingState.isRunning
      · simp [here, Bool.beq_eq_decide_eq]
      · simp [here]
  | wakeExpired now =>
      cases s.state? id with
      | none => simp
      | some state => cases state <;> grind [SchedulingState.isDue]
  | setPriority other priority => rfl

theorem isLive_eq (s : Scheduler) (sleeper : Sleeper) :
    s.isLive sleeper = s.asleepUntil sleeper.deadline sleeper.id :=
  rfl

/-- The call removes a thread that was there. -/
def Removes (step : Scheduler × SchedulerCall) (id : ThreadId) : Prop :=
  step.2 = .remove id ∧ (step.1.state? id).isSome

/-- The call adds a thread, and is not refused. -/
def Admits (step : Scheduler × SchedulerCall) (id : ThreadId) : Prop :=
  ∃ priority coreMask, step.2 = .add id priority coreMask ∧
    (step.1.add id priority coreMask).isOk

/-- No thread is added again after it was removed. -/
def NeverReturns (steps : List (Scheduler × SchedulerCall)) : Prop :=
  steps.Pairwise fun earlier later => ∀ id, Removes earlier id → ¬ Admits later id

/-- The threads that a call puts to sleep. -/
def parks (s : Scheduler) : SchedulerCall → List ThreadId
  | .sleep id _ => if (s.state? id).any SchedulingState.isRunning then [id] else []
  | _ => []

/-- The threads that sleep until this tick, in the order of their records. -/
def sleepersUntil (s : Scheduler) (deadline : UInt64) : List ThreadId :=
  ((s.sleepers.filter (·.deadline == deadline)).filter s.isLive).map Sleeper.id

/-- What holds as long as no thread has returned. -/
structure Tidy (s : Scheduler) (steps : List (Scheduler × SchedulerCall)) (asleep : List ThreadId) :
    Prop where
  /-- A record is that of a sleeping thread, or was left by a removed one. -/
  records : ∀ sleeper ∈ s.sleepers, s.isLive sleeper ∨
    s.state? sleeper.id = none ∧ ∃ step ∈ steps, Removes step sleeper.id
  inOrder : InOrder asleep s.sleepersUntil s.asleepUntil

/-- In order of their ticks, a new record stands behind those of its own tick. -/
theorem filter_insertSleeper {sleepers : List Sleeper}
    (sorted : sleepers.Pairwise (·.deadline ≤ ·.deadline)) (sleeper : Sleeper) (deadline : UInt64) :
    (insertSleeper sleeper sleepers).filter (·.deadline == deadline) =
      sleepers.filter (·.deadline == deadline) ++
        if sleeper.deadline = deadline then [sleeper] else [] := by
  induction sleepers with
  | nil => by_cases here : sleeper.deadline = deadline <;> simp [insertSleeper, here]
  | cons first rest ih =>
      obtain ⟨later, sorted⟩ := List.pairwise_cons.mp sorted
      rw [insertSleeper]
      split
      · rw [List.filter_cons, List.filter_cons, ih sorted]
        split <;> rfl
      · rename_i before
        by_cases here : sleeper.deadline = deadline
        · have none : (first :: rest).filter (·.deadline == deadline) = [] := by
            apply List.filter_eq_nil_iff.mpr
            intro other member same
            have same : other.deadline = sleeper.deadline := (beq_iff_eq.mp same).trans here.symm
            apply before
            rcases List.mem_cons.mp member with rfl | member
            · exact UInt64.le_of_eq same
            · exact same ▸ later other member
          rw [List.filter_cons_of_pos (by simpa using here), none]
          simp [here]
        · simp [here]

section

variable {steps : List (Scheduler × SchedulerCall)} {asleep : List ThreadId} {call : SchedulerCall}

/-- A thread that is there and does not sleep has no record. -/
theorem Tidy.no_record (tidy : s.Tidy steps asleep) {id : ThreadId} {state : SchedulingState}
    (known : s.state? id = some state) (awake : ∀ deadline, state ≠ .sleeping deadline)
    {sleeper : Sleeper} (member : sleeper ∈ s.sleepers) : sleeper.id ≠ id := by
  rintro rfl
  rcases tidy.records sleeper member with live | ⟨gone, _⟩
  · exact awake _ (Option.some.inj (known.symm.trans (isLive_iff.mp live)))
  · rw [known] at gone
    cases gone

theorem isSome_state?_perform (wellFormed : s.WellFormed) (sorted : s.Sorted) {id : ThreadId}
    (known : ((s.perform call).state? id).isSome) :
    (s.state? id).isSome ∨ Admits (s, call) id := by
  rw [state?_perform wellFormed sorted] at known
  cases call with
  | add other priority coreMask =>
      by_cases here : id = other ∧ (s.add other priority coreMask).isOk
      · obtain ⟨rfl, added⟩ := here
        exact .inr ⟨priority, coreMask, rfl, added⟩
      · exact .inl (by simpa [here] using known)
  | remove other =>
      by_cases here : id = other
      · simp [here] at known
      · exact .inl (by simpa [here] using known)
  | next core =>
      rcases next_spec wellFormed core with ⟨idle, _⟩ | ⟨chosen, picked, ready, _⟩
      · exact .inl (by simpa [idle] using known)
      · by_cases here : chosen = id
        · exact .inl (by simp [← here, ready])
        · exact .inl (by simpa [picked, here] using known)
  | yield other | sleep other tick =>
      by_cases here : id = other ∧ (s.state? other).any SchedulingState.isRunning
      · obtain ⟨rfl, running⟩ := here
        obtain ⟨core, running⟩ := any_isRunning_iff.mp running
        exact .inl (by simp [running])
      · exact .inl (by simpa [here] using known)
  | wakeExpired now =>
      rw [Option.isSome_map] at known
      exact .inl known
  | setPriority other priority => exact .inl known

/-- The records that a call leaves, apart from one that it makes. -/
theorem Tidy.kept (tidy : s.Tidy steps asleep) (wellFormed : s.WellFormed) (sorted : s.Sorted)
    (never : NeverReturns (steps ++ [(s, call)])) {sleeper : Sleeper}
    (member : sleeper ∈ s.sleepers) (stays : sleeper ∈ (s.perform call).sleepers) :
    (s.perform call).isLive sleeper ∨
      (s.perform call).state? sleeper.id = none ∧
        ∃ step ∈ steps ++ [(s, call)], Removes step sleeper.id := by
  rcases tidy.records sleeper member with live | ⟨gone, step, taken, removed⟩
  · rw [isLive_eq, asleepUntil_perform wellFormed sorted]
    rw [isLive_eq] at live
    cases call with
    | remove other =>
        by_cases here : sleeper.id = other
        · refine .inr ⟨?_, (s, .remove other), by simp, by rw [here], ?_⟩
          · simp [state?_perform wellFormed sorted, here]
          · rw [beq_iff_eq.mp live]
            rfl
        · simp [live, here]
    | sleep other tick =>
        by_cases running : (s.state? other).any SchedulingState.isRunning
        · obtain ⟨core, known⟩ := any_isRunning_iff.mp running
          have apart := tidy.no_record known (fun _ => nofun) member
          simp [apart, live]
        · simp [running, live]
    | wakeExpired now =>
        rw [sleepers_perform] at stays
        simp only [dropWhile_due sorted, List.mem_filter] at stays
        simp [live, of_decide_eq_true stays.2]
    | add | next | yield | setPriority => exact .inl live
  · refine .inr ⟨?_, step, List.mem_append_left _ taken, removed⟩
    by_contra returned
    rcases isSome_state?_perform wellFormed sorted (Option.isSome_iff_ne_none.mpr returned) with
      known | admitted
    · simp [gone] at known
    · have apart := (List.pairwise_append.mp never).2.2 step taken (s, call) (by simp)
      exact apart sleeper.id removed admitted

theorem Tidy.records_perform (tidy : s.Tidy steps asleep) (wellFormed : s.WellFormed)
    (sorted : s.Sorted) (never : NeverReturns (steps ++ [(s, call)])) {sleeper : Sleeper}
    (member : sleeper ∈ (s.perform call).sleepers) :
    (s.perform call).isLive sleeper ∨
      (s.perform call).state? sleeper.id = none ∧
        ∃ step ∈ steps ++ [(s, call)], Removes step sleeper.id := by
  by_cases old : sleeper ∈ s.sleepers
  · exact tidy.kept wellFormed sorted never old member
  · -- Only falling asleep makes a record, and then its thread sleeps.
    rw [sleepers_perform] at member
    cases call with
    | sleep other tick =>
        by_cases running : (s.state? other).any SchedulingState.isRunning
        · simp only [running, if_true] at member
          obtain rfl := (mem_insertSleeper.mp member).resolve_right old
          left
          rw [isLive_eq, asleepUntil_perform wellFormed sorted]
          simp [running]
        · simp [running, old] at member
    | wakeExpired now => exact absurd ((List.dropWhile_sublist _).subset member) old
    | add | remove | next | yield | setPriority => exact absurd member old

theorem Tidy.parked (tidy : s.Tidy steps asleep) (wellFormed : s.WellFormed) (sorted : s.Sorted)
    {id : ThreadId} (running : (s.state? id).any SchedulingState.isRunning) (tick : UInt64) :
    Moves id s.sleepersUntil s.asleepUntil (s.sleep id tick).sleepersUntil
      (s.sleep id tick).asleepUntil where
  others deadline other apart := by
    refine (asleepUntil_perform wellFormed sorted (.sleep id tick) deadline other).trans ?_
    simp [apart]
  line deadline := by
    obtain ⟨core, known⟩ := any_isRunning_iff.mp running
    have sleeps (deadline : UInt64) (other : ThreadId) :
        (s.sleep id tick).asleepUntil deadline other =
          if other = id then tick == deadline else s.asleepUntil deadline other := by
      refine (asleepUntil_perform wellFormed sorted (.sleep id tick) deadline other).trans ?_
      simp [running]
    have sleepers : (s.sleep id tick).sleepers =
        insertSleeper { deadline := tick, seq := s.seq + 1, id } s.sleepers := by
      refine (sleepers_perform s (.sleep id tick)).trans ?_
      simp [running]
    have apart {sleeper : Sleeper} (member : sleeper ∈ s.sleepers) : sleeper.id ≠ id :=
      tidy.no_record known (fun _ => nofun) member
    have others : (s.sleepers.filter (·.deadline == deadline)).filter (s.sleep id tick).isLive =
        (s.sleepers.filter (·.deadline == deadline)).filter s.isLive := by
      apply List.filter_congr
      intro sleeper member
      rw [isLive_eq, sleeps, if_neg (apart (List.mem_of_mem_filter member)), isLive_eq]
    have out : (s.sleepersUntil deadline).filter (· != id) = s.sleepersUntil deadline := by
      apply List.filter_eq_self.mpr
      intro other member
      obtain ⟨sleeper, within, rfl⟩ := List.mem_map.mp member
      simpa using apart (List.mem_of_mem_filter (List.mem_of_mem_filter within))
    rw [out, sleepersUntil, sleepers, filter_insertSleeper sorted, List.filter_append, others,
      sleeps]
    by_cases here : tick = deadline
    · subst here
      have live : (s.sleep id tick).isLive { deadline := tick, seq := s.seq + 1, id } := by
        simp [isLive_eq, sleeps]
      simp [sleepersUntil, live]
    · simp [sleepersUntil, here]

theorem removed_moves (wellFormed : s.WellFormed) (sorted : s.Sorted) (id : ThreadId) :
    Moves id s.sleepersUntil s.asleepUntil (s.remove id).2.sleepersUntil
      (s.remove id).2.asleepUntil := by
  have sleeps (deadline : UInt64) (other : ThreadId) :
      (s.remove id).2.asleepUntil deadline other = (s.asleepUntil deadline other && other != id) :=
    asleepUntil_perform wellFormed sorted (.remove id) deadline other
  have sleepers : (s.remove id).2.sleepers = s.sleepers := sleepers_perform s (.remove id)
  constructor
  · intro deadline other apart
    simp [sleeps, apart]
  · intro deadline
    have live : (s.remove id).2.isLive = fun sleeper => sleeper.id != id && s.isLive sleeper := by
      funext sleeper
      rw [isLive_eq, sleeps, isLive_eq, Bool.and_comm]
    simp [sleeps, sleepersUntil, sleepers, live, List.filter_map, List.filter_filter,
      Function.comp_def, Bool.and_assoc]

theorem sleepers_inOrder_wakeExpired (inOrder : InOrder asleep s.sleepersUntil s.asleepUntil)
    (wellFormed : s.WellFormed) (sorted : s.Sorted) (now : UInt64) :
    InOrder asleep (s.wakeExpired now).2.sleepersUntil (s.wakeExpired now).2.asleepUntil := by
  have sleeps (deadline : UInt64) (other : ThreadId) :
      (s.wakeExpired now).2.asleepUntil deadline other =
        (s.asleepUntil deadline other && now < deadline) :=
    asleepUntil_perform wellFormed sorted (.wakeExpired now) deadline other
  have sleepers : (s.wakeExpired now).2.sleepers = s.sleepers.filter (now < ·.deadline) :=
    (sleepers_perform s (.wakeExpired now)).trans (dropWhile_due sorted now)
  have live : (s.wakeExpired now).2.isLive = fun sleeper =>
      s.isLive sleeper && now < sleeper.deadline :=
    funext fun sleeper => sleeps sleeper.deadline sleeper.id
  intro deadline
  have line : (s.wakeExpired now).2.sleepersUntil deadline =
      (s.sleepersUntil deadline).filter fun _ => now < deadline := by
    simp only [sleepersUntil, sleepers, live, List.filter_map, List.filter_filter]
    congr 1
    apply List.filter_congr
    intro sleeper _
    by_cases here : sleeper.deadline = deadline
    · cases s.isLive sleeper <;> by_cases later : now < deadline <;> simp [here, later]
    · have other : (sleeper.deadline == deadline) = false := beq_eq_false_iff_ne.mpr here
      simp [other]
  rw [line, inOrder, List.filter_filter]
  apply List.filter_congr
  intro other _
  rw [sleeps, Bool.and_comm]

theorem sleepersUntil_congr {s' : Scheduler} (sleepers : s'.sleepers = s.sleepers)
    (same : ∀ deadline id, s'.asleepUntil deadline id = s.asleepUntil deadline id)
    (deadline : UInt64) : s'.sleepersUntil deadline = s.sleepersUntil deadline := by
  have live : s'.isLive = s.isLive := funext fun sleeper => same sleeper.deadline sleeper.id
  rw [sleepersUntil, sleepers, live, sleepersUntil]

theorem Tidy.perform (tidy : s.Tidy steps asleep) (wellFormed : s.WellFormed) (sorted : s.Sorted)
    (never : NeverReturns (steps ++ [(s, call)])) :
    (s.perform call).Tidy (steps ++ [(s, call)]) (asleep ++ s.parks call) where
  records _ member := tidy.records_perform wellFormed sorted never member
  inOrder := by
    have inOrder := tidy.inOrder
    have sleeps := asleepUntil_perform wellFormed sorted call
    have sleepers := sleepers_perform s call
    cases call with
    | sleep id tick =>
        by_cases running : (s.state? id).any SchedulingState.isRunning
        · simp only [parks, running, if_true]
          exact inOrder.arrive (tidy.parked wellFormed sorted running tick)
        · simpa [parks, running, Scheduler.perform, sleep_of_not_running running] using inOrder
    | remove id =>
        simp only [parks, List.append_nil]
        refine inOrder.leave (removed_moves wellFormed sorted id) fun deadline => ?_
        simpa using sleeps deadline id
    | wakeExpired now =>
        simp only [parks, List.append_nil]
        exact sleepers_inOrder_wakeExpired inOrder wellFormed sorted now
    | add | next | yield | setPriority =>
        simp only [parks, List.append_nil]
        exact inOrder.congr (sleepersUntil_congr sleepers sleeps) sleeps

theorem performAll_tidy (calls : List SchedulerCall) (never : NeverReturns (trace {} calls)) :
    (performAll {} calls).Tidy (trace {} calls) (arrivals parks {} calls) := by
  induction calls using List.reverseRecOn with
  | nil =>
      exact { records := fun _ member => (nomatch member), inOrder := fun _ => rfl }
  | append_singleton calls call ih =>
      rw [trace_concat] at never
      rw [trace_concat, arrivals_concat, performAll_concat]
      have tidy := ih (List.pairwise_append.mp never).1
      have wellFormed := performAll_wellFormed wellFormed_empty calls
      exact tidy.perform wellFormed (performAll_sorted .nil calls) never

end

/-- The tick of `first` comes before that of `second`. Their ticks may also be
    the same, and then `first` fell asleep first unless some thread returned. -/
def WakesBefore (s : Scheduler) (steps : List (Scheduler × SchedulerCall)) (asleep : List ThreadId)
    (first second : ThreadId) : Prop :=
  ∃ early late, s.state? first = some (.sleeping early) ∧ s.state? second = some (.sleeping late) ∧
    (early < late ∨ early = late ∧ (NeverReturns steps → CameBefore asleep first second))

theorem woken_inOrder {steps : List (Scheduler × SchedulerCall)} {asleep : List ThreadId}
    (sorted : s.Sorted) (tidy : NeverReturns steps → s.Tidy steps asleep) (now : UInt64) :
    (s.woken now).Pairwise (s.WakesBefore steps asleep) := by
  apply List.pairwise_iff_forall_sublist.mpr
  intro first second ahead
  -- The records by which the two wake stand in the same order.
  obtain ⟨records, inLine, same⟩ := List.sublist_map_iff.mp (ahead.trans (s.calledBy_sublist _))
  obtain ⟨early, _, rfl, rfl, others⟩ := List.map_eq_cons_iff.mp same.symm
  obtain ⟨late, _, rfl, rfl, nobody⟩ := List.map_eq_cons_iff.mp others
  obtain rfl := List.map_eq_nil_iff.mp nobody
  have live {sleeper : Sleeper} (member : sleeper ∈ [early, late]) :
      s.state? sleeper.id = some (.sleeping sleeper.deadline) :=
    isLive_iff.mp (List.mem_filter.mp (inLine.subset member)).2
  have recorded : [early, late].Sublist s.sleepers :=
    inLine.trans (List.filter_sublist.trans List.filter_sublist)
  have ordered : early.deadline ≤ late.deadline :=
    List.pairwise_iff_forall_sublist.mp sorted recorded
  refine ⟨early.deadline, late.deadline, live (by simp), live (by simp), ?_⟩
  rcases UInt64.lt_or_eq_of_le ordered with less | equal
  · exact .inl less
  · refine .inr ⟨equal, fun never => ?_⟩
    have together : [early, late].Sublist
        ((s.sleepers.filter (·.deadline == early.deadline)).filter s.isLive) := by
      have kept := (recorded.filter (·.deadline == early.deadline)).filter s.isLive
      simpa [← equal, isLive_iff.mpr (live _)] using kept
    exact (tidy never).inOrder.cameBefore (together.map Sleeper.id)

/-- What serving the wake-ups at `now` does, after a run of which `steps` and
    `asleep` tell. -/
structure Punctual (s : Scheduler) (steps : List (Scheduler × SchedulerCall))
    (asleep : List ThreadId) (now : UInt64) : Prop where
  /-- Who is due is made ready, and nothing else happens to any thread. -/
  threads : ∀ id : ThreadId, (s.wakeExpired now).2.threads[id]? = s.threads[id]?.map (·.wokenBy now)
  due : ∀ id, id ∈ s.woken now ↔ ∃ deadline ≤ now, s.state? id = some (.sleeping deadline)
  once : (s.woken now).Nodup
  count : (s.wakeExpired now).1 = (s.woken now).length
  queues : ∀ priority, (s.wakeExpired now).2.queue priority =
    s.queue priority ++ (s.woken now).filter fun id => s.priority? id == some priority
  inOrder : (s.woken now).Pairwise (s.WakesBefore steps asleep)
  none_late : ∀ id deadline, deadline ≤ now →
    (s.wakeExpired now).2.state? id ≠ some (.sleeping deadline)
  none_early : ∀ id deadline, now < deadline → s.state? id = some (.sleeping deadline) →
    (s.wakeExpired now).2.state? id = some (.sleeping deadline)
  nothing_next : s.nextDeadline? = none → ∀ id deadline, s.state? id ≠ some (.sleeping deadline)
  next_le : ∀ tick, s.nextDeadline? = some tick →
    ∀ id deadline, s.state? id = some (.sleeping deadline) → tick ≤ deadline

theorem performAll_punctual (calls : List SchedulerCall) (now : UInt64) :
    (performAll {} calls).Punctual (trace {} calls) (arrivals parks {} calls) now := by
  have wellFormed := performAll_wellFormed wellFormed_empty calls
  have sorted := performAll_sorted (s := {}) .nil calls
  have tidy := performAll_tidy calls
  generalize performAll {} calls = s at wellFormed sorted tidy
  exact {
    threads := threads_wakeExpired wellFormed sorted now
    due := by
      intro id
      rw [mem_woken wellFormed]
      cases s.state? id with
      | none => simp
      | some state => cases state <;> simp [SchedulingState.isDue]
    once := nodup_calledBy s _
    count := count_wakeExpired sorted now
    queues := queue_wakeExpired sorted now
    inOrder := woken_inOrder sorted tidy now
    none_late := by
      intro id deadline due
      rw [state?_wakeExpired wellFormed sorted]
      cases s.state? id with
      | none => simp
      | some state => cases state <;> grind [SchedulingState.isDue]
    none_early := by
      intro id deadline later asleep
      simp [state?_wakeExpired wellFormed sorted, asleep, SchedulingState.isDue, later]
    nothing_next := by
      intro nothing id deadline asleep
      obtain ⟨seq, recorded⟩ := wellFormed.asleep id deadline asleep
      rw [nextDeadline?, Option.map_eq_none_iff, List.head?_eq_none_iff] at nothing
      simp [nothing] at recorded
    next_le := by
      intro tick next id deadline asleep
      obtain ⟨seq, recorded⟩ := wellFormed.asleep id deadline asleep
      obtain ⟨first, head, rfl⟩ := Option.map_eq_some_iff.mp next
      obtain ⟨rest, split⟩ := List.head?_eq_some_iff.mp head
      rw [split] at recorded
      rcases List.mem_cons.mp recorded with rfl | recorded
      · exact UInt64.le_refl _
      · rw [Sorted, split] at sorted
        exact (List.pairwise_cons.mp sorted).1 _ recorded }

-- Thread 1 returns, sleeps again behind thread 2, and wakes by its old record.
example :
    (performAll {} [.add 1 10 1, .add 2 10 1, .next 0, .next 0, .sleep 1 5, .sleep 2 5, .remove 1,
      .add 1 10 1, .next 0, .sleep 1 5]).woken 5 = [1, 2] := by
  decide +kernel

end GuestMachine.Scheduler
