import Mathlib.Data.List.Nodup
import GuestMachine.Proofs.Scheduler.Queues

/-! # The scheduler after any history

What its structures hold together, for a scheduler that started empty and was
asked for anything since, in any order, with any arguments. An id may be removed
and added again, and its old wake-ups may still be on record.
-/

namespace GuestMachine

namespace Scheduler

open SchedulingState

variable {s : Scheduler}

/-- The threads whose state is of this kind. -/
def threadsIn (s : Scheduler) (kind : SchedulingState → Bool) : List ThreadId :=
  s.threads.keys.filter fun id => (s.state? id).any kind

theorem mem_threadsIn {kind : SchedulingState → Bool} {id : ThreadId} :
    id ∈ s.threadsIn kind ↔ ∃ state, s.state? id = some state ∧ kind state := by
  rw [threadsIn, List.mem_filter, Std.TreeMap.mem_keys, Std.TreeMap.mem_iff_isSome_getElem?, state?]
  cases s.threads[id]? with
  | none => simp
  | some thread => simp

theorem nodup_threadsIn (s : Scheduler) (kind : SchedulingState → Bool) : (s.threadsIn kind).Nodup :=
  List.Nodup.filter _ Std.TreeMap.nodup_keys

theorem threadsIn_perm (s : Scheduler) :
    (s.threadsIn isReady ++ s.threadsIn isRunning ++ s.threadsIn isSleeping).Perm s.threads.keys := by
  have state (id : ThreadId) (member : id ∈ s.threads.keys) : ∃ state, s.state? id = some state := by
    rw [Std.TreeMap.mem_keys, Std.TreeMap.mem_iff_isSome_getElem?] at member
    rw [state?, Option.eq_some_of_isSome member]
    exact ⟨_, rfl⟩
  have running : s.threadsIn isRunning = (s.threads.keys.filter fun id =>
      !(s.state? id).any isReady).filter fun id => (s.state? id).any isRunning := by
    rw [List.filter_filter]
    refine List.filter_congr fun id member => ?_
    obtain ⟨state, known⟩ := state id member
    rw [known]
    cases state <;> rfl
  have sleeping : s.threadsIn isSleeping = (s.threads.keys.filter fun id =>
      !(s.state? id).any isReady).filter fun id => !(s.state? id).any isRunning := by
    rw [List.filter_filter]
    refine List.filter_congr fun id member => ?_
    obtain ⟨state, known⟩ := state id member
    rw [known]
    cases state <;> rfl
  rw [List.append_assoc, running, sleeping]
  exact ((List.filter_append_perm _ _).append_left _).trans (List.filter_append_perm _ _)

theorem WellFormed.nodup_queue (wellFormed : s.WellFormed) (priority : Priority) :
    (s.queue priority).Nodup := by
  rw [List.nodup_iff_count_le_one]
  intro id
  rw [wellFormed.queued]
  split
  · exact Nat.le_refl 1
  · exact Nat.zero_le 1

theorem waits_iff {priority : Priority} {id : ThreadId} :
    s.waits priority id ↔ s.state? id = some .ready ∧ s.priority? id = some priority := by
  constructor
  · intro waiting
    obtain ⟨thread, found, ready, here⟩ := waits_eq_true waiting
    rw [state?, priority?, found, Option.map_some, ready, Option.map_some, here]
    exact ⟨rfl, rfl⟩
  · rintro ⟨ready, here⟩
    obtain ⟨thread, found, ready⟩ := Option.map_eq_some_iff.mp ready
    rw [priority?, found] at here
    rw [waits, found, Option.any_some, ScheduledThread.waitsAt, ready, Option.some.inj here]
    exact beq_self_eq_true priority

theorem WellFormed.mem_queue (wellFormed : s.WellFormed) {priority : Priority} {id : ThreadId} :
    id ∈ s.queue priority ↔ s.state? id = some .ready ∧ s.priority? id = some priority := by
  rw [← waits_iff, ← List.count_pos_iff, wellFormed.queued]
  cases s.waits priority id with
  | false => simp
  | true => simp

theorem mem_queues_toList {queue : List ThreadId} :
    queue ∈ s.queues.toList ↔ ∃ priority : Priority, s.queue priority = queue := by
  rw [Vector.mem_toList_iff, Vector.mem_iff_getElem]
  constructor
  · rintro ⟨i, small, here⟩
    exact ⟨⟨i, small⟩, here⟩
  · rintro ⟨priority, here⟩
    exact ⟨priority.val, priority.isLt, here⟩

theorem WellFormed.nodup_queues (wellFormed : s.WellFormed) : s.queues.toList.flatten.Nodup := by
  refine List.nodup_flatten.mpr ⟨?_, List.pairwise_iff_getElem.mpr ?_⟩
  · intro queue member
    obtain ⟨priority, rfl⟩ := mem_queues_toList.mp member
    exact wellFormed.nodup_queue priority
  · intro i j small small' apart id here there
    rw [Vector.length_toList] at small small'
    rw [Vector.getElem_toList] at here there
    have first : id ∈ s.queue ⟨i, small⟩ := here
    have second : id ∈ s.queue ⟨j, small'⟩ := there
    have same := (wellFormed.mem_queue.mp first).2.symm.trans (wellFormed.mem_queue.mp second).2
    exact absurd (congrArg Fin.val (Option.some.inj same)) (Nat.ne_of_lt apart)

theorem WellFormed.queues_perm (wellFormed : s.WellFormed) :
    s.queues.toList.flatten.Perm (s.threadsIn isReady) := by
  refine (List.perm_ext_iff_of_nodup wellFormed.nodup_queues (s.nodup_threadsIn _)).mpr ?_
  intro id
  rw [List.mem_flatten, mem_threadsIn]
  constructor
  · rintro ⟨queue, member, here⟩
    obtain ⟨priority, rfl⟩ := mem_queues_toList.mp member
    exact ⟨.ready, (wellFormed.mem_queue.mp here).1, rfl⟩
  · rintro ⟨state, known, kind⟩
    cases state with
    | ready =>
        obtain ⟨thread, found, _⟩ := Option.map_eq_some_iff.mp known
        have level : s.priority? id = some thread.priority := by rw [priority?, found]; rfl
        exact ⟨_, mem_queues_toList.mpr ⟨thread.priority, rfl⟩,
          wellFormed.mem_queue.mpr ⟨known, level⟩⟩
    | running core => cases kind
    | sleeping deadline => cases kind

theorem WellFormed.readyCount_eq (wellFormed : s.WellFormed) :
    s.readyCount = (s.threadsIn isReady).length := by
  rw [readyCount, ← List.length_flatten]
  exact wellFormed.queues_perm.length_eq

end Scheduler

/-- A request to the scheduler, with any arguments. -/
inductive SchedulerCall where
  | add (id : ThreadId) (priority : UInt32) (coreMask : UInt64)
  | remove (id : ThreadId)
  | next (core : Fin 64)
  | yield (id : ThreadId)
  | sleep (id : ThreadId) (deadline : UInt64)
  | wakeExpired (now : UInt64)
  | setPriority (id : ThreadId) (priority : UInt32)
  deriving Repr, DecidableEq

namespace Scheduler

open SchedulingState

variable {s : Scheduler}

/-- What a call leaves behind. A refused one leaves what was there. -/
def perform (s : Scheduler) : SchedulerCall → Scheduler
  | .add id priority coreMask => (s.add id priority coreMask).toOption.getD s
  | .remove id => (s.remove id).2
  | .next core => (s.next core).2
  | .yield id => s.yield id
  | .sleep id deadline => s.sleep id deadline
  | .wakeExpired now => (s.wakeExpired now).2
  | .setPriority id priority => (s.setPriority id priority).toOption.getD s

def performAll (s : Scheduler) (calls : List SchedulerCall) : Scheduler :=
  calls.foldl perform s

theorem getD_wellFormed (wellFormed : s.WellFormed) {answer : Except KernelError Scheduler}
    (accepted : ∀ s', answer = .ok s' → s'.WellFormed) : (answer.toOption.getD s).WellFormed := by
  cases answer with
  | error e => exact wellFormed
  | ok s' => exact accepted s' rfl

theorem perform_wellFormed (wellFormed : s.WellFormed) (call : SchedulerCall) :
    (s.perform call).WellFormed := by
  cases call with
  | add id priority coreMask =>
      exact getD_wellFormed wellFormed fun _ => add_wellFormed wellFormed
  | remove id => exact remove_wellFormed wellFormed id
  | next core => exact next_wellFormed wellFormed core.isLt
  | yield id => exact yield_wellFormed wellFormed id
  | sleep id deadline => exact sleep_wellFormed wellFormed id deadline
  | wakeExpired now => exact wakeExpired_wellFormed wellFormed now
  | setPriority id priority =>
      exact getD_wellFormed wellFormed fun _ => setPriority_wellFormed wellFormed

theorem performAll_wellFormed (wellFormed : s.WellFormed) (calls : List SchedulerCall) :
    (s.performAll calls).WellFormed := by
  induction calls generalizing s with
  | nil => exact wellFormed
  | cons call rest ih => exact ih (perform_wellFormed wellFormed call)

/-- What the structures of the scheduler hold, read off the threads' states. -/
structure Represents (s : Scheduler) : Prop where
  /-- Every scheduled thread is ready, running or sleeping, and only one of them. -/
  states : (s.threadsIn isReady ++ s.threadsIn isRunning ++ s.threadsIn isSleeping).Perm
    s.threads.keys
  /-- Together the queues hold every ready thread once, and nothing else. -/
  ready : s.queues.toList.flatten.Perm (s.threadsIn isReady)
  /-- A queue holds threads of its own priority only. -/
  queued : ∀ (priority : Priority), ∀ id ∈ s.queue priority,
    s.state? id = some .ready ∧ s.priority? id = some priority
  asleep : ∀ id deadline, s.state? id = some (.sleeping deadline) →
    ∃ seq, { deadline, seq, id } ∈ s.sleepers
  allowed : ∀ (id : ThreadId) thread core, s.threads[id]? = some thread →
    thread.state = .running core → core < 64 ∧ thread.coreMask.toNat.testBit core
  counted : s.readyCount = (s.threadsIn isReady).length

theorem performAll_represents (calls : List SchedulerCall) :
    (({} : Scheduler).performAll calls).Represents :=
  have wellFormed := performAll_wellFormed wellFormed_empty calls
  { states := threadsIn_perm _
    ready := wellFormed.queues_perm
    queued := fun _ _ => wellFormed.mem_queue.mp
    asleep := wellFormed.asleep
    allowed := wellFormed.allowed
    counted := wellFormed.readyCount_eq }

end Scheduler

end GuestMachine
