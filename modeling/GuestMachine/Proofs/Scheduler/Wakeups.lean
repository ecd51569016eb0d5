import GuestMachine.Proofs.Scheduler.Representation
import GuestMachine.Proofs.Scheduler.States

/-! # Wake-ups on record

The record of a wake-up outlives its thread's removal, so a record by itself
wakes nobody: it has to be met by a thread that sleeps until the same tick.
Here serving the records is turned into one list, the threads that wake, and
the effect on threads, queues and count is read off that list.
-/

namespace GuestMachine

def SchedulingState.isDue (now : UInt64) : SchedulingState → Bool
  | sleeping deadline => deadline ≤ now
  | _ => false

/-- Ready if it slept until `now` or less. -/
def ScheduledThread.wokenBy (now : UInt64) (thread : ScheduledThread) : ScheduledThread :=
  if thread.state.isDue now then { thread with state := .ready } else thread

namespace Scheduler

variable {s : Scheduler}

/-- The thread of the record sleeps until the tick of the record. -/
def isLive (s : Scheduler) (sleeper : Sleeper) : Bool :=
  s.state? sleeper.id == some (.sleeping sleeper.deadline)

/-- The threads that wake when these records are served in order. -/
def calledBy (s : Scheduler) (called : List Sleeper) : List ThreadId :=
  ((called.filter s.isLive).map Sleeper.id).eraseDups

/-- The threads that wake at `now`, in the order in which they do. -/
def woken (s : Scheduler) (now : UInt64) : List ThreadId :=
  s.calledBy (s.sleepers.filter (·.deadline ≤ now))

section

variable {sleeper : Sleeper}

theorem isLive_iff : s.isLive sleeper ↔ s.state? sleeper.id = some (.sleeping sleeper.deadline) :=
  beq_iff_eq

theorem wake_of_live (live : s.isLive sleeper) :
    ∃ thread, s.threads[sleeper.id]? = some thread ∧
      s.wake sleeper =
        (true, (s.setState sleeper.id .ready).enqueue thread.priority sleeper.id) := by
  obtain ⟨thread, found, asleep⟩ := Option.map_eq_some_iff.mp (isLive_iff.mp live)
  exact ⟨thread, found, by simp [wake, found, asleep]⟩

theorem wake_of_stale (stale : ¬ s.isLive sleeper) : s.wake sleeper = (false, s) := by
  rw [isLive_iff, state?] at stale
  unfold wake
  cases found : s.threads[sleeper.id]? with
  | none => rfl
  | some thread =>
      have awake : thread.state ≠ .sleeping sleeper.deadline := by simpa [found] using stale
      simp [awake]

theorem threads_wake (live : s.isLive sleeper) (id : ThreadId) :
    (s.wake sleeper).2.threads[id]? =
      if id = sleeper.id then s.threads[id]?.map fun thread => { thread with state := .ready }
      else s.threads[id]? := by
  obtain ⟨thread, found, served⟩ := wake_of_live live
  rw [served]
  refine (getElem?_modify s sleeper.id _ id).trans ?_
  by_cases same : id = sleeper.id <;> simp [same]

theorem queue_enqueue (s : Scheduler) (level : Priority) (id : ThreadId) (priority : Priority) :
    (s.enqueue level id).queue priority =
      s.queue priority ++ if priority = level then [id] else [] := by
  rw [enqueue, queue_setQueue]
  by_cases here : priority = level <;> simp [here]

theorem queue_wake (live : s.isLive sleeper) (priority : Priority) :
    (s.wake sleeper).2.queue priority =
      s.queue priority ++ [sleeper.id].filter fun id => s.priority? id == some priority := by
  obtain ⟨thread, found, served⟩ := wake_of_live live
  have level : s.priority? sleeper.id = some thread.priority := by simp [priority?, found]
  rw [served, queue_enqueue]
  by_cases here : priority = thread.priority
  · simp [here, level]
    rfl
  · simp [here, level, Ne.symm here]
    rfl

theorem isLive_wake (live : s.isLive sleeper) (other : Sleeper) :
    (s.wake sleeper).2.isLive other = (s.isLive other && other.id != sleeper.id) := by
  rw [isLive, isLive, state?, state?, threads_wake live]
  by_cases same : other.id = sleeper.id
  · cases s.threads[other.id]? <;> simp [same]
  · simp [same]

theorem calledBy_of_stale (stale : ¬ s.isLive sleeper) (rest : List Sleeper) :
    s.calledBy (sleeper :: rest) = s.calledBy rest := by
  simp [calledBy, stale]

/-- Once a thread is awake its other records have nobody to wake. -/
theorem calledBy_of_live (live : s.isLive sleeper) (rest : List Sleeper) :
    s.calledBy (sleeper :: rest) = sleeper.id :: (s.wake sleeper).2.calledBy rest := by
  have others : (s.wake sleeper).2.isLive = fun other =>
      other.id != sleeper.id && s.isLive other := by
    funext other
    rw [isLive_wake live, Bool.and_comm]
  simp [calledBy, live, others, List.eraseDups_cons, List.filter_map, List.filter_filter,
    Function.comp_def, bne]

end

theorem mem_calledBy {called : List Sleeper} {id : ThreadId} :
    id ∈ s.calledBy called ↔ ∃ sleeper ∈ called, s.isLive sleeper ∧ sleeper.id = id := by
  simp [calledBy, List.mem_eraseDups, and_assoc]

theorem nodup_calledBy (s : Scheduler) (called : List Sleeper) : (s.calledBy called).Nodup := by
  induction called generalizing s with
  | nil => simp [calledBy]
  | cons sleeper rest ih =>
      by_cases live : s.isLive sleeper
      · rw [calledBy_of_live live, List.nodup_cons]
        refine ⟨?_, ih _⟩
        intro again
        obtain ⟨other, _, live', same⟩ := mem_calledBy.mp again
        simp [isLive_wake live, same] at live'
      · rw [calledBy_of_stale live]
        exact ih s

theorem calledBy_sublist (s : Scheduler) (called : List Sleeper) :
    (s.calledBy called).Sublist ((called.filter s.isLive).map Sleeper.id) := by
  induction called generalizing s with
  | nil => simp [calledBy]
  | cons sleeper rest ih =>
      by_cases live : s.isLive sleeper
      · have fewer : (rest.filter (s.wake sleeper).2.isLive).Sublist (rest.filter s.isLive) := by
          apply List.monotone_filter_right
          intro other
          simp +contextual [isLive_wake live]
        rw [calledBy_of_live live, List.filter_cons_of_pos live, List.map_cons]
        exact ((ih _).trans (fewer.map _)).cons_cons _
      · rw [calledBy_of_stale live, List.filter_cons_of_neg live]
        exact ih s

theorem wakeAll_cons (s : Scheduler) (sleeper : Sleeper) (rest : List Sleeper) :
    s.wakeAll (sleeper :: rest) =
      ((if (s.wake sleeper).1 then 1 else 0) + ((s.wake sleeper).2.wakeAll rest).1,
        ((s.wake sleeper).2.wakeAll rest).2) :=
  rfl

theorem threads_wakeAll (s : Scheduler) (called : List Sleeper) (id : ThreadId) :
    (s.wakeAll called).2.threads[id]? =
      if id ∈ s.calledBy called then
        s.threads[id]?.map fun thread => { thread with state := .ready }
      else s.threads[id]? := by
  induction called generalizing s with
  | nil => simp [wakeAll, calledBy]
  | cons sleeper rest ih =>
      rw [wakeAll_cons, ih]
      by_cases live : s.isLive sleeper
      · rw [calledBy_of_live live, threads_wake live]
        by_cases same : id = sleeper.id
        · cases s.threads[id]? <;> simp [same]
        · simp [same]
      · rw [calledBy_of_stale live, wake_of_stale live]

theorem queue_wakeAll (s : Scheduler) (called : List Sleeper) (priority : Priority) :
    (s.wakeAll called).2.queue priority =
      s.queue priority ++ (s.calledBy called).filter fun id => s.priority? id == some priority := by
  induction called generalizing s with
  | nil => simp [wakeAll, calledBy]
  | cons sleeper rest ih =>
      rw [wakeAll_cons, ih]
      simp only [priority?_wake]
      by_cases live : s.isLive sleeper
      · rw [calledBy_of_live live, queue_wake live, List.append_assoc, ← List.filter_append]
        rfl
      · rw [calledBy_of_stale live, wake_of_stale live]

theorem count_wakeAll (s : Scheduler) (called : List Sleeper) :
    (s.wakeAll called).1 = (s.calledBy called).length := by
  induction called generalizing s with
  | nil => simp [wakeAll, calledBy]
  | cons sleeper rest ih =>
      rw [wakeAll_cons, ih]
      by_cases live : s.isLive sleeper
      · obtain ⟨thread, _, served⟩ := wake_of_live live
        simp [calledBy_of_live live, served, Nat.add_comm]
      · simp [calledBy_of_stale live, wake_of_stale live]

abbrev Sorted (s : Scheduler) : Prop :=
  s.sleepers.Pairwise (·.deadline ≤ ·.deadline)

theorem takeWhile_due {sleepers : List Sleeper}
    (sorted : sleepers.Pairwise (·.deadline ≤ ·.deadline)) (now : UInt64) :
    sleepers.takeWhile (·.deadline ≤ now) = sleepers.filter (·.deadline ≤ now) := by
  induction sleepers with
  | nil => rfl
  | cons first rest ih =>
      obtain ⟨later, sorted⟩ := List.pairwise_cons.mp sorted
      by_cases due : first.deadline ≤ now
      · simp [due, ih sorted]
      · have none : ∀ sleeper ∈ rest, ¬ sleeper.deadline ≤ now :=
          fun sleeper member expired => due (UInt64.le_trans (later sleeper member) expired)
        simpa [due] using none

theorem dropWhile_due {sleepers : List Sleeper}
    (sorted : sleepers.Pairwise (·.deadline ≤ ·.deadline)) (now : UInt64) :
    sleepers.dropWhile (·.deadline ≤ now) = sleepers.filter (now < ·.deadline) := by
  induction sleepers with
  | nil => rfl
  | cons first rest ih =>
      obtain ⟨later, sorted⟩ := List.pairwise_cons.mp sorted
      by_cases due : first.deadline ≤ now
      · simp [due, ih sorted, UInt64.not_lt.mpr due]
      · have all : ∀ sleeper ∈ rest, now < sleeper.deadline :=
          fun sleeper member => UInt64.lt_of_lt_of_le (UInt64.not_le.mp due) (later sleeper member)
        simpa [due, UInt64.not_le.mp due] using (List.filter_eq_self.mpr (by simpa using all)).symm

theorem insertSleeper_sorted {sleepers : List Sleeper}
    (sorted : sleepers.Pairwise (·.deadline ≤ ·.deadline)) (sleeper : Sleeper) :
    (insertSleeper sleeper sleepers).Pairwise (·.deadline ≤ ·.deadline) := by
  induction sleepers with
  | nil => simp [insertSleeper]
  | cons first rest ih =>
      obtain ⟨later, sorted⟩ := List.pairwise_cons.mp sorted
      rw [insertSleeper]
      split
      · rename_i first_le
        refine .cons (fun other member => ?_) (ih sorted)
        rcases mem_insertSleeper.mp member with rfl | member
        · exact first_le
        · exact later other member
      · rename_i first_gt
        have first_ge := UInt64.le_of_lt (UInt64.not_le.mp first_gt)
        refine .cons (fun other member => ?_) (.cons later sorted)
        rcases List.mem_cons.mp member with rfl | member
        · exact first_ge
        · exact UInt64.le_trans first_ge (later other member)

/-- Only falling asleep adds a record, and only time takes records away. -/
theorem sleepers_perform (s : Scheduler) (call : SchedulerCall) :
    (s.perform call).sleepers =
      match call with
      | .sleep id deadline =>
          if (s.state? id).any SchedulingState.isRunning then
            insertSleeper { deadline, seq := s.seq + 1, id } s.sleepers
          else s.sleepers
      | .wakeExpired now => s.sleepers.dropWhile (·.deadline ≤ now)
      | _ => s.sleepers := by
  cases call with
  | add id priority coreMask =>
      cases added : s.add id priority coreMask with
      | error e => simp [perform, added, Except.toOption]
      | ok s' =>
          obtain ⟨level, _, _, rfl⟩ := add_eq_ok added
          simp [perform, added, Except.toOption]
          rfl
  | remove id =>
      simp only [perform, remove]
      split
      · rfl
      · split <;> rfl
  | next core =>
      simp only [perform, next]
      split <;> rfl
  | yield id =>
      simp only [perform, yield]
      split
      · split <;> rfl
      · rfl
  | sleep id deadline =>
      by_cases running : (s.state? id).any SchedulingState.isRunning
      · obtain ⟨core, known⟩ := any_isRunning_iff.mp running
        obtain ⟨thread, found, onCore⟩ := found_of_running known
        simp [perform, sleep, running, found, onCore]
      · simp [perform, sleep_of_not_running running, running]
  | wakeExpired now => exact wakeAll_sleepers _ _
  | setPriority id priority =>
      cases changed : s.setPriority id priority with
      | error e => simp [perform, changed, Except.toOption]
      | ok s' =>
          obtain ⟨_, _, _, _, _, kept, _⟩ := setPriority_eq_ok changed
          simp [perform, changed, Except.toOption, kept]

theorem perform_sorted (sorted : s.Sorted) (call : SchedulerCall) : (s.perform call).Sorted := by
  rw [Sorted, sleepers_perform]
  cases call with
  | sleep id deadline =>
      dsimp only
      split
      · exact insertSleeper_sorted sorted _
      · exact sorted
  | wakeExpired now => exact sorted.sublist (List.dropWhile_sublist _)
  | add | remove | next | yield | setPriority => exact sorted

theorem performAll_sorted (sorted : s.Sorted) (calls : List SchedulerCall) :
    (s.performAll calls).Sorted := by
  induction calls generalizing s with
  | nil => exact sorted
  | cons call rest ih => exact ih (perform_sorted sorted call)

theorem woken_eq (sorted : s.Sorted) (now : UInt64) :
    s.woken now = { s with sleepers := s.sleepers.dropWhile (·.deadline ≤ now) }.calledBy
      (s.sleepers.takeWhile (·.deadline ≤ now)) := by
  rw [takeWhile_due sorted]
  rfl

/-- A thread wakes exactly if it sleeps until `now` or less. -/
theorem mem_woken (wellFormed : s.WellFormed) {now : UInt64} {id : ThreadId} :
    id ∈ s.woken now ↔ (s.state? id).any (·.isDue now) := by
  rw [woken, mem_calledBy]
  constructor
  · rintro ⟨sleeper, member, live, rfl⟩
    rw [isLive_iff.mp live]
    simpa [SchedulingState.isDue] using (List.mem_filter.mp member).2
  · intro due
    obtain ⟨state, asleep, due⟩ := (Option.any_eq_true ..).mp due
    cases state with
    | ready | running => cases due
    | sleeping deadline =>
        obtain ⟨seq, recorded⟩ := wellFormed.asleep id deadline asleep
        exact ⟨{ deadline, seq, id }, List.mem_filter.mpr ⟨recorded, due⟩, isLive_iff.mpr asleep, rfl⟩

theorem threads_wakeExpired (wellFormed : s.WellFormed) (sorted : s.Sorted) (now : UInt64)
    (id : ThreadId) :
    (s.wakeExpired now).2.threads[id]? = s.threads[id]?.map (·.wokenBy now) := by
  refine (threads_wakeAll _ _ id).trans ?_
  simp only [← woken_eq sorted, mem_woken wellFormed, state?]
  cases found : s.threads[id]? with
  | none => simp
  | some thread => by_cases due : thread.state.isDue now <;> simp [ScheduledThread.wokenBy, due]

theorem queue_wakeExpired (sorted : s.Sorted) (now : UInt64) (priority : Priority) :
    (s.wakeExpired now).2.queue priority =
      s.queue priority ++ (s.woken now).filter fun id => s.priority? id == some priority := by
  rw [woken_eq sorted]
  exact queue_wakeAll _ _ priority

theorem count_wakeExpired (sorted : s.Sorted) (now : UInt64) :
    (s.wakeExpired now).1 = (s.woken now).length := by
  rw [woken_eq sorted]
  exact count_wakeAll _ _

end Scheduler

end GuestMachine
