import GuestMachine.Proofs.Scheduler.Punctuality

/-! # Wake-ups in a heap

A scheduler may as well keep its wake-ups in a heap: it puts each one in with its
number, and takes a greatest one out as long as that one is due. Until numbers run
out no two wake-ups are alike to the heap, so the greatest one is the first of the
list, and threads are served as they are from the list.
-/

namespace GuestMachine

namespace Sleeper

theorem compare_eq_gt_iff {sleeper other : Sleeper} :
    compare sleeper other = .gt ↔ sleeper.deadline < other.deadline ∨
      sleeper.deadline = other.deadline ∧ sleeper.seq < other.seq := by
  change (compare other.deadline sleeper.deadline).then (compare other.seq sleeper.seq) = .gt ↔ _
  rw [Ordering.then_eq_gt, Std.compare_eq_gt, Std.compare_eq_eq_iff_eq, Std.compare_eq_gt, eq_comm]

theorem compare_eq_lt_iff {sleeper other : Sleeper} :
    compare sleeper other = .lt ↔ compare other sleeper = .gt := by
  rw [compare_eq_gt_iff]
  change (compare other.deadline sleeper.deadline).then (compare other.seq sleeper.seq) = .lt ↔ _
  rw [Ordering.then_eq_lt, Std.compare_eq_lt, Std.compare_eq_eq_iff_eq, Std.compare_eq_lt]

/-- A greatest one of a heap, where they stand in any order. -/
def greatest? : List Sleeper → Option Sleeper
  | [] => none
  | first :: rest => some <|
      match greatest? rest with
      | none => first
      | some best => if compare first best = .lt then best else first

theorem greatest?_eq_none {heap : List Sleeper} (none_left : greatest? heap = none) : heap = [] := by
  cases heap with
  | nil => rfl
  | cons first rest => cases none_left

theorem greatest?_eq_some {heap : List Sleeper} {best : Sleeper} (top : greatest? heap = some best) :
    best ∈ heap ∧ ∀ sleeper ∈ heap, compare sleeper best ≠ .gt := by
  have irrefl (sleeper : Sleeper) : compare sleeper sleeper ≠ .gt := by simp [compare_eq_gt_iff]
  induction heap generalizing best with
  | nil => cases top
  | cons first rest ih =>
      rw [greatest?, Option.some_inj] at top
      rw [List.forall_mem_cons]
      cases found : greatest? rest with
      | none =>
          rw [found] at top
          rw [greatest?_eq_none found, ← top]
          exact ⟨List.mem_cons_self, irrefl first, nofun⟩
      | some other =>
          obtain ⟨member, most⟩ := ih found
          simp only [found] at top
          split at top
          · rename_i less
            rw [← top]
            exact ⟨List.mem_cons_of_mem _ member, by rw [less]; nofun, most⟩
          · rename_i more
            rw [← top]
            refine ⟨List.mem_cons_self, irrefl first, fun sleeper within => ?_⟩
            have not_more := most sleeper within
            rw [compare_eq_lt_iff] at more
            rw [ne_eq, compare_eq_gt_iff] at not_more ⊢
            rw [compare_eq_gt_iff] at more
            grind

/-- A heap has one on top that is greater than all others. -/
theorem greatest?_of_perm {heap rest : List Sleeper} {first : Sleeper}
    (perm : heap.Perm (first :: rest)) (greater : ∀ sleeper ∈ rest, compare first sleeper = .gt) :
    greatest? heap = some first := by
  cases found : greatest? heap with
  | none =>
      rw [greatest?_eq_none found] at perm
      exact absurd perm.length_eq nofun
  | some best =>
      obtain ⟨member, most⟩ := greatest?_eq_some found
      rcases List.mem_cons.mp (perm.mem_iff.mp member) with rfl | member
      · rfl
      · exact absurd (greater best member) (most first (perm.mem_iff.mpr List.mem_cons_self))

end Sleeper

namespace Scheduler

open Sleeper (greatest? greatest?_eq_some greatest?_of_perm compare_eq_gt_iff)

variable {s : Scheduler} {heap : List Sleeper}

/-- The scheduler with these wake-ups in place of its own. -/
def recording (s : Scheduler) (sleepers : List Sleeper) : Scheduler :=
  { s with sleepers }

/-- Park a running thread, and put its wake-up into the heap. -/
def sleepOnHeap (s : Scheduler) (id : ThreadId) (deadline : UInt64) : Scheduler :=
  match s.threads[id]? with
  | some thread =>
      if thread.state.isRunning then
        let seq := s.seq + 1
        { s.setState id (.sleeping deadline) with
          sleepers := { deadline, seq, id } :: s.sleepers, seq }
      else s
  | none => s

/-- As long as the wake-up on top is due take it out and serve it, and count the
    threads that woke. -/
def wakeFromHeap (s : Scheduler) (now : UInt64) : Nat × Scheduler :=
  match top : greatest? s.sleepers with
  | none => (0, s)
  | some sleeper =>
      if now < sleeper.deadline then (0, s)
      else
        let served := (s.recording (s.sleepers.erase sleeper)).wake sleeper
        let others := served.2.wakeFromHeap now
        ((if served.1 then 1 else 0) + others.1, others.2)
termination_by s.sleepers.length
decreasing_by
  have member := (greatest?_eq_some top).1
  rw [wake_sleepers, recording, List.length_erase_of_mem member]
  exact Nat.sub_one_lt (List.length_pos_of_mem member).ne'

/-- The tick of the wake-up on top. -/
def nextOnHeap? (s : Scheduler) : Option UInt64 :=
  (greatest? s.sleepers).map Sleeper.deadline

/-- What a call leaves behind with the wake-ups in a heap. -/
def performOnHeap (s : Scheduler) : SchedulerCall → Scheduler
  | .sleep id deadline => s.sleepOnHeap id deadline
  | .wakeExpired now => (s.wakeFromHeap now).2
  | call => s.perform call

def performAllOnHeap (s : Scheduler) (calls : List SchedulerCall) : Scheduler :=
  calls.foldl performOnHeap s

/-- The greatest wake-ups stand first, and the next number is new. -/
structure Ranked (s : Scheduler) : Prop where
  greatest_first : s.sleepers.Pairwise (compare · · = .gt)
  numbered : ∀ sleeper ∈ s.sleepers, sleeper.seq ≤ s.seq

theorem insertSleeper_perm (sleeper : Sleeper) (sleepers : List Sleeper) :
    (insertSleeper sleeper sleepers).Perm (sleeper :: sleepers) := by
  induction sleepers with
  | nil => exact .refl _
  | cons first rest ih =>
      rw [insertSleeper]
      split
      · exact (ih.cons first).trans (.swap ..)
      · exact .refl _

theorem insertSleeper_greatest_first {sleeper : Sleeper} {sleepers : List Sleeper}
    (ordered : sleepers.Pairwise (compare · · = .gt))
    (last : ∀ other ∈ sleepers, other.seq < sleeper.seq) :
    (insertSleeper sleeper sleepers).Pairwise (compare · · = .gt) := by
  induction sleepers with
  | nil => exact List.pairwise_singleton _ _
  | cons first rest ih =>
      obtain ⟨greater, ordered'⟩ := List.pairwise_cons.mp ordered
      obtain ⟨first_last, rest_last⟩ := List.forall_mem_cons.mp last
      rw [insertSleeper]
      split
      · rename_i not_later
        refine .cons (fun other member => ?_) (ih ordered' rest_last)
        rcases mem_insertSleeper.mp member with rfl | member
        · rw [compare_eq_gt_iff]
          exact (UInt64.lt_or_eq_of_le not_later).imp_right fun same => ⟨same, first_last⟩
        · exact greater other member
      · rename_i later
        refine .cons (List.forall_mem_cons.mpr ⟨?_, fun other member => ?_⟩) ordered
        · exact compare_eq_gt_iff.mpr (.inl (UInt64.not_le.mp later))
        · have behind := compare_eq_gt_iff.mp (greater other member)
          rw [compare_eq_gt_iff]
          grind

theorem seq_wake (s : Scheduler) (sleeper : Sleeper) : (s.wake sleeper).2.seq = s.seq := by
  rw [wake]
  split
  · split <;> rfl
  · rfl

theorem seq_wakeAll (s : Scheduler) (called : List Sleeper) : (s.wakeAll called).2.seq = s.seq := by
  induction called generalizing s with
  | nil => rfl
  | cons sleeper rest ih => exact (ih _).trans (seq_wake s sleeper)

/-- A wake-up gets the next number. -/
theorem seq_perform (s : Scheduler) (call : SchedulerCall) :
    (s.perform call).seq = s.seq + UInt64.ofNat (s.parks call).length := by
  have same : s.seq = s.seq + UInt64.ofNat 0 := (UInt64.add_zero s.seq).symm
  cases call with
  | add id priority coreMask =>
      refine Eq.trans ?_ same
      cases added : s.add id priority coreMask with
      | error e => simp [perform, added, Except.toOption]
      | ok s' =>
          obtain ⟨level, _, _, rfl⟩ := add_eq_ok added
          simp [perform, added, Except.toOption]
          rfl
  | remove id =>
      refine Eq.trans ?_ same
      simp only [perform, remove]
      split
      · rfl
      · split <;> rfl
  | next core =>
      refine Eq.trans ?_ same
      simp only [perform, next]
      split <;> rfl
  | yield id =>
      refine Eq.trans ?_ same
      simp only [perform, yield]
      split
      · split <;> rfl
      · rfl
  | sleep id deadline =>
      by_cases running : (s.state? id).any SchedulingState.isRunning
      · obtain ⟨core, known⟩ := any_isRunning_iff.mp running
        obtain ⟨thread, found, onCore⟩ := found_of_running known
        simp [perform, sleep, parks, running, found, onCore]
      · simp [perform, parks, sleep_of_not_running running, running]
  | wakeExpired now => exact (seq_wakeAll _ _).trans same
  | setPriority id priority =>
      refine Eq.trans ?_ same
      rw [perform, setPriority_eq]
      cases Priority.ofWord priority with
      | error e => rfl
      | ok level =>
          dsimp only [Except.bind]
          cases s.threads[id]? with
          | none => rfl
          | some thread =>
              dsimp only [Except.toOption, Option.getD]
              split <;> rfl

theorem Ranked.of_sublist {s' : Scheduler} (ranked : s.Ranked)
    (fewer : s'.sleepers.Sublist s.sleepers) (same : s'.seq = s.seq) : s'.Ranked where
  greatest_first := ranked.greatest_first.sublist fewer
  numbered sleeper member := by
    rw [same]
    exact ranked.numbered sleeper (fewer.subset member)

theorem Ranked.sleep (ranked : s.Ranked) {id : ThreadId}
    (running : (s.state? id).any SchedulingState.isRunning) (deadline : UInt64)
    (room : s.seq.toNat + 1 < 2 ^ 64) : (s.sleep id deadline).Ranked := by
  have next : ∀ sleeper ∈ s.sleepers, sleeper.seq < s.seq + 1 := by
    intro sleeper member
    have old := UInt64.le_iff_toNat_le.mp (ranked.numbered sleeper member)
    rw [UInt64.lt_iff_toNat_lt, UInt64.toNat_add, UInt64.toNat_one, Nat.mod_eq_of_lt room]
    exact Nat.lt_succ_of_le old
  have sleepers : (s.sleep id deadline).sleepers =
      insertSleeper { deadline, seq := s.seq + 1, id } s.sleepers :=
    (sleepers_perform s (.sleep id deadline)).trans (if_pos running)
  have number : (s.sleep id deadline).seq = s.seq + 1 := by
    refine (seq_perform s (.sleep id deadline)).trans ?_
    rw [parks, if_pos running]
    rfl
  constructor
  · rw [sleepers]
    exact insertSleeper_greatest_first ranked.greatest_first next
  · intro sleeper member
    rw [sleepers] at member
    rw [number]
    rcases mem_insertSleeper.mp member with rfl | member
    · exact UInt64.le_refl _
    · exact UInt64.le_of_lt (next sleeper member)

theorem Ranked.perform (ranked : s.Ranked) (call : SchedulerCall)
    (room : s.seq.toNat + (s.parks call).length < 2 ^ 64) : (s.perform call).Ranked := by
  have sleepers := sleepers_perform s call
  have number := seq_perform s call
  cases call with
  | sleep id deadline =>
      by_cases running : (s.state? id).any SchedulingState.isRunning
      · rw [parks, if_pos running] at room
        exact ranked.sleep running deadline room
      · rwa [Scheduler.perform, sleep_of_not_running running]
  | wakeExpired now =>
      refine ranked.of_sublist ?_ (number.trans (UInt64.add_zero _))
      rw [sleepers]
      exact List.dropWhile_sublist _
  | add | remove | next | yield | setPriority =>
      exact ranked.of_sublist (sleepers ▸ .refl _) (number.trans (UInt64.add_zero _))

theorem wake_recording (s : Scheduler) (sleepers : List Sleeper) (sleeper : Sleeper) :
    (s.recording sleepers).wake sleeper =
      ((s.wake sleeper).1, (s.wake sleeper).2.recording sleepers) := by
  have same : (s.recording sleepers).threads = s.threads := rfl
  rw [wake, wake, same]
  cases s.threads[sleeper.id]? with
  | none => rfl
  | some thread =>
      dsimp only
      split <;> rfl

theorem wakeAll_recording (s : Scheduler) (sleepers called : List Sleeper) :
    (s.recording sleepers).wakeAll called =
      ((s.wakeAll called).1, (s.wakeAll called).2.recording sleepers) := by
  induction called generalizing s with
  | nil => rfl
  | cons sleeper rest ih => rw [wakeAll_cons, wakeAll_cons, wake_recording, ih]

theorem wakeExpired_eq (s : Scheduler) (now : UInt64) :
    s.wakeExpired now =
      ((s.wakeAll (s.sleepers.takeWhile (·.deadline ≤ now))).1,
        (s.wakeAll (s.sleepers.takeWhile (·.deadline ≤ now))).2.recording
          (s.sleepers.dropWhile (·.deadline ≤ now))) :=
  wakeAll_recording s _ _

/-- Serving from the heap comes to serving from the front of the list. -/
theorem wakeFromHeap_recording {sleepers : List Sleeper} (s : Scheduler)
    (ordered : sleepers.Pairwise (compare · · = .gt)) (perm : heap.Perm sleepers) (now : UInt64) :
    ∃ left : List Sleeper, left.Perm (sleepers.dropWhile (·.deadline ≤ now)) ∧
      (s.recording heap).wakeFromHeap now =
        ((s.wakeAll (sleepers.takeWhile (·.deadline ≤ now))).1,
          (s.wakeAll (sleepers.takeWhile (·.deadline ≤ now))).2.recording left) := by
  induction sleepers generalizing s heap with
  | nil =>
      cases perm.eq_nil
      refine ⟨[], .nil, ?_⟩
      rw [wakeFromHeap]
      rfl
  | cons first rest ih =>
      obtain ⟨greater, ordered⟩ := List.pairwise_cons.mp ordered
      have top := greatest?_of_perm perm greater
      have popped : (heap.erase first).Perm rest := by
        simpa using perm.erase first
      rw [wakeFromHeap]
      split
      · rename_i nothing
        cases nothing.symm.trans top
      · rename_i sleeper found
        cases found.symm.trans top
        by_cases due : first.deadline ≤ now
        · obtain ⟨left, same, others⟩ := ih (s.wake first).2 ordered popped
          have again : (s.recording heap).recording ((s.recording heap).sleepers.erase first) =
              s.recording (heap.erase first) := rfl
          have served : (first :: rest).takeWhile (·.deadline ≤ now) =
              first :: rest.takeWhile (·.deadline ≤ now) :=
            List.takeWhile_cons_of_pos (decide_eq_true due)
          refine ⟨left, by simpa [due] using same, ?_⟩
          rw [if_neg (UInt64.not_lt.mpr due), served, wakeAll_cons]
          simp only [again, wake_recording, others]
        · rw [if_pos (UInt64.not_le.mp due)]
          refine ⟨heap, by simpa [due] using perm, ?_⟩
          rw [List.takeWhile_cons_of_neg (by simpa using due)]
          rfl

/-- Nothing but sleeping and waking looks at the wake-ups. -/
theorem perform_recording (s : Scheduler) (sleepers : List Sleeper) {call : SchedulerCall}
    (sleeps : ∀ id deadline, call ≠ .sleep id deadline) (wakes : ∀ now, call ≠ .wakeExpired now) :
    (s.recording sleepers).perform call = (s.perform call).recording sleepers := by
  have same : (s.recording sleepers).threads = s.threads := rfl
  cases call with
  | add id priority coreMask =>
      rw [perform, perform, add_eq, add_eq, same]
      cases Priority.ofWord priority with
      | error e => rfl
      | ok level =>
          dsimp only [Except.bind]
          split
          · rfl
          · split <;> rfl
  | remove id =>
      rw [perform, perform, remove, remove, same]
      cases s.threads[id]? with
      | none => rfl
      | some thread =>
          dsimp only
          split <;> rfl
  | next core =>
      have picked : (s.recording sleepers).candidate? core = s.candidate? core := rfl
      rw [perform, perform, next, next, picked]
      cases s.candidate? core <;> rfl
  | yield id =>
      rw [perform, perform, yield, yield, same]
      cases s.threads[id]? with
      | none => rfl
      | some thread =>
          dsimp only
          split <;> rfl
  | sleep id deadline => exact absurd rfl (sleeps id deadline)
  | wakeExpired now => exact absurd rfl (wakes now)
  | setPriority id priority =>
      rw [perform, perform, setPriority_eq, setPriority_eq, same]
      cases Priority.ofWord priority with
      | error e => rfl
      | ok level =>
          dsimp only [Except.bind]
          cases s.threads[id]? with
          | none => rfl
          | some thread =>
              dsimp only [Except.toOption, Option.getD]
              split <;> rfl

theorem sleepOnHeap_recording (s : Scheduler) (heap : List Sleeper) (id : ThreadId)
    (deadline : UInt64) (perm : heap.Perm s.sleepers) :
    ∃ heap' : List Sleeper, heap'.Perm (s.sleep id deadline).sleepers ∧
      (s.recording heap).sleepOnHeap id deadline = (s.sleep id deadline).recording heap' := by
  have same : (s.recording heap).threads = s.threads := rfl
  rw [sleepOnHeap, sleep, same]
  cases s.threads[id]? with
  | none => exact ⟨heap, perm, rfl⟩
  | some thread =>
      dsimp only
      split
      · exact ⟨_, (perm.cons _).trans (insertSleeper_perm _ _).symm, rfl⟩
      · exact ⟨heap, perm, rfl⟩

/-- One call keeps the two apart in nothing but the order of their wake-ups. -/
theorem performOnHeap_recording (ranked : s.Ranked) (perm : heap.Perm s.sleepers)
    (call : SchedulerCall) :
    ∃ heap' : List Sleeper, heap'.Perm (s.perform call).sleepers ∧
      (s.recording heap).performOnHeap call = (s.perform call).recording heap' := by
  have sleepers := sleepers_perform s call
  cases call with
  | sleep id deadline => exact sleepOnHeap_recording s heap id deadline perm
  | wakeExpired now =>
      obtain ⟨left, same, served⟩ := wakeFromHeap_recording s ranked.greatest_first perm now
      refine ⟨left, by rwa [sleepers], ?_⟩
      rw [performOnHeap, served, perform, wakeExpired_eq]
      rfl
  | add | remove | next | yield | setPriority =>
      refine ⟨heap, by rwa [sleepers], ?_⟩
      simp only [performOnHeap]
      exact perform_recording s heap (by simp) (by simp)

/-- The two answer alike, and differ in nothing but the order of their wake-ups. -/
structure ServesAlike (onHeap s : Scheduler) : Prop where
  same : ∃ heap : List Sleeper, heap.Perm s.sleepers ∧ onHeap = s.recording heap
  woken : ∀ now, (onHeap.wakeFromHeap now).1 = (s.wakeExpired now).1
  next : onHeap.nextOnHeap? = s.nextDeadline?

theorem Ranked.servesAlike (ranked : s.Ranked) (perm : heap.Perm s.sleepers) :
    (s.recording heap).ServesAlike s where
  same := ⟨heap, perm, rfl⟩
  woken now := by
    obtain ⟨_, _, served⟩ := wakeFromHeap_recording s ranked.greatest_first perm now
    rw [served, wakeExpired_eq]
  next := by
    rw [nextOnHeap?, nextDeadline?]
    change (greatest? heap).map _ = _
    have ordered := ranked.greatest_first
    generalize s.sleepers = sleepers at perm ordered
    cases sleepers with
    | nil =>
        cases perm.eq_nil
        rfl
    | cons first rest =>
        rw [greatest?_of_perm perm (List.pairwise_cons.mp ordered).1]
        rfl

/-- As long as fewer than 2 ^ 64 wake-ups were asked for. -/
theorem performAllOnHeap_servesAlike (calls : List SchedulerCall)
    (room : (arrivals parks {} calls).length < 2 ^ 64) :
    (performAllOnHeap {} calls).ServesAlike (performAll {} calls) := by
  have runs : (performAll {} calls).Ranked ∧
      (performAll {} calls).seq.toNat = (arrivals parks {} calls).length ∧
      ∃ heap : List Sleeper, heap.Perm (performAll {} calls).sleepers ∧
        performAllOnHeap {} calls = (performAll {} calls).recording heap := by
    induction calls using List.reverseRecOn with
    | nil => exact ⟨⟨.nil, nofun⟩, rfl, [], .nil, rfl⟩
    | append_singleton calls call ih =>
        rw [arrivals_concat, List.length_append] at room
        obtain ⟨ranked, number, heap, perm, same⟩ := ih (Nat.lt_of_le_of_lt (Nat.le_add_right ..) room)
        rw [← number] at room
        obtain ⟨heap', perm', same'⟩ := performOnHeap_recording ranked perm call
        rw [performAll_concat, arrivals_concat, List.length_append, ← number]
        refine ⟨ranked.perform call room, ?_, heap', perm', ?_⟩
        · rw [seq_perform, UInt64.toNat_add,
            UInt64.toNat_ofNat_of_lt' (Nat.lt_of_le_of_lt (Nat.le_add_left ..) room),
            Nat.mod_eq_of_lt room]
        · rw [← same', ← same, performAllOnHeap, List.foldl_append]
          rfl
  obtain ⟨ranked, _, heap, perm, same⟩ := runs
  rw [same]
  exact ranked.servesAlike perm

end Scheduler

end GuestMachine
