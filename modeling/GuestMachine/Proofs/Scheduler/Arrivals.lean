import Mathlib.Data.List.Dedup
import GuestMachine.Proofs.Scheduler.Representation

/-! # Lines in order of arrival

A record of arrivals says who came after whom, also for a thread that came more
than once: its last arrival counts. Lines of threads, one for each place, are in
order if each is the record cut down to the last arrivals of those who stand in
it. This is kept by a thread that goes to the end of a line, and by one that
goes away. Both the ready queues and the sleepers are such lines.
-/

namespace GuestMachine

namespace Scheduler

/-- The calls of a run, each with the scheduler that it was made to. -/
def trace (s : Scheduler) : List SchedulerCall → List (Scheduler × SchedulerCall)
  | [] => []
  | call :: rest => (s, call) :: (s.perform call).trace rest

/-- The threads that the calls of a run bring somewhere, one after another. -/
def arrivals (brings : Scheduler → SchedulerCall → List ThreadId) (s : Scheduler)
    (calls : List SchedulerCall) : List ThreadId :=
  (s.trace calls).flatMap fun (before, call) => brings before call

theorem trace_concat (s : Scheduler) (calls : List SchedulerCall) (call : SchedulerCall) :
    s.trace (calls ++ [call]) = s.trace calls ++ [(s.performAll calls, call)] := by
  induction calls generalizing s with
  | nil => rfl
  | cons first rest ih => simpa [trace, performAll] using ih (s.perform first)

theorem arrivals_concat (brings : Scheduler → SchedulerCall → List ThreadId) (s : Scheduler)
    (calls : List SchedulerCall) (call : SchedulerCall) :
    arrivals brings s (calls ++ [call]) =
      arrivals brings s calls ++ brings (s.performAll calls) call := by
  simp [arrivals, trace_concat]

theorem performAll_concat (s : Scheduler) (calls : List SchedulerCall) (call : SchedulerCall) :
    s.performAll (calls ++ [call]) = (s.performAll calls).perform call := by
  simp [performAll]

end Scheduler

/-- The last arrival of `first` is before the last arrival of `second`. -/
def CameBefore (arrived : List ThreadId) (first second : ThreadId) : Prop :=
  ∃ early late, arrived = early ++ first :: late ∧ first ∉ late ∧ second ∈ late

variable {arrived : List ThreadId}

theorem dedup_concat (arrived : List ThreadId) (id : ThreadId) :
    (arrived ++ [id]).dedup = arrived.dedup.filter (· != id) ++ [id] := by
  induction arrived with
  | nil => rfl
  | cons first rest ih =>
      by_cases again : first ∈ rest
      · have later : first ∈ rest ++ [id] := List.mem_append_left _ again
        rw [List.cons_append, List.dedup_cons_of_mem later, List.dedup_cons_of_mem again, ih]
      · by_cases same : first = id
        · have later : first ∈ rest ++ [id] := by simp [same]
          rw [List.cons_append, List.dedup_cons_of_mem later, List.dedup_cons_of_notMem again, ih]
          simp [same]
        · have last : first ∉ rest ++ [id] := by simp [again, same]
          rw [List.cons_append, List.dedup_cons_of_notMem last, List.dedup_cons_of_notMem again, ih]
          simp [same]

theorem CameBefore.of_sublist {first second : ThreadId}
    (inOrder : [first, second].Sublist arrived.dedup) : CameBefore arrived first second := by
  induction arrived with
  | nil => simp at inOrder
  | cons other rest ih =>
      by_cases again : other ∈ rest
      · rw [List.dedup_cons_of_mem again] at inOrder
        obtain ⟨early, late, split, last, later⟩ := ih inOrder
        exact ⟨other :: early, late, by simp [split], last, later⟩
      · rw [List.dedup_cons_of_notMem again] at inOrder
        cases inOrder with
        | cons _ within =>
            obtain ⟨early, late, split, last, later⟩ := ih within
            exact ⟨other :: early, late, by simp [split], last, later⟩
        | cons_cons _ behind =>
            have later : second ∈ rest := List.mem_dedup.mp (behind.subset List.mem_cons_self)
            exact ⟨[], rest, rfl, again, later⟩

section

variable {κ : Type} {line line' : κ → List ThreadId} {stands stands' : κ → ThreadId → Bool}
  {id : ThreadId}

/-- Each line holds those who stand in it, in the order of their last arrivals. -/
def InOrder (arrived : List ThreadId) (line : κ → List ThreadId) (stands : κ → ThreadId → Bool) :
    Prop :=
  ∀ place, line place = arrived.dedup.filter (stands place)

/-- One thread leaves where it stands, if anywhere, and goes to the end of the
    line in which it stands then. -/
structure Moves (id : ThreadId) (line : κ → List ThreadId) (stands : κ → ThreadId → Bool)
    (line' : κ → List ThreadId) (stands' : κ → ThreadId → Bool) : Prop where
  others : ∀ place other, other ≠ id → stands' place other = stands place other
  line : ∀ place,
    line' place = (line place).filter (· != id) ++ if stands' place id then [id] else []

theorem Moves.filter_stands (moves : Moves id line stands line' stands') (place : κ)
    (ids : List ThreadId) :
    (ids.filter (stands place)).filter (· != id) =
      (ids.filter (· != id)).filter (stands' place) := by
  simp only [List.filter_filter]
  apply List.filter_congr
  intro other _
  by_cases same : other = id
  · simp [same]
  · rw [moves.others place other same, Bool.and_comm]

theorem InOrder.arrive (inOrder : InOrder arrived line stands)
    (moves : Moves id line stands line' stands') : InOrder (arrived ++ [id]) line' stands' := by
  intro place
  rw [moves.line, inOrder, moves.filter_stands, dedup_concat, List.filter_append]
  simp [List.filter_cons]

theorem InOrder.leave (inOrder : InOrder arrived line stands)
    (moves : Moves id line stands line' stands') (away : ∀ place, stands' place id = false) :
    InOrder arrived line' stands' := by
  intro place
  rw [moves.line, inOrder, moves.filter_stands, away, List.filter_filter]
  simp only [Bool.false_eq_true, if_false, List.append_nil]
  apply List.filter_congr
  intro other _
  by_cases same : other = id
  · simp [same, away]
  · simp [same]

theorem InOrder.congr (inOrder : InOrder arrived line stands)
    (sameLine : ∀ place, line' place = line place)
    (sameStands : ∀ place id, stands' place id = stands place id) :
    InOrder arrived line' stands' := by
  intro place
  rw [sameLine, inOrder, funext (sameStands place)]

/-- Who is ahead in a line arrived before. -/
theorem InOrder.cameBefore (inOrder : InOrder arrived line stands) {place : κ}
    {first second : ThreadId} (ahead : [first, second].Sublist (line place)) :
    CameBefore arrived first second := by
  rw [inOrder] at ahead
  exact .of_sublist (ahead.trans List.filter_sublist)

end

end GuestMachine
