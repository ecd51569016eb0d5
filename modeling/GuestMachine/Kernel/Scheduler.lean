import Std.Data.TreeMap
import GuestMachine.Basic
import GuestMachine.Error
import GuestMachine.Operation

/-! # Thread scheduler

Which thread runs next. Each priority has a queue of its own, served first in,
first out, and a thread is picked only by cores of its affinity mask. Sleeping
threads wait in order of their deadlines. Only the order is kept here; what a
thread computes is not the scheduler's business.
-/

namespace GuestMachine

/-- Number of priorities, of which zero is the most urgent. -/
def priorityCount : Nat := 64

abbrev Priority := Fin priorityCount

/-- A priority as guest code gives it. -/
def Priority.ofWord? (priority : UInt32) : Option Priority :=
  if h : priority.toNat < priorityCount then some ⟨priority.toNat, h⟩ else none

def Priority.toWord (priority : Priority) : UInt32 :=
  UInt32.ofNat priority.val

/-- A priority as guest code gives it, or the refusal. -/
def Priority.ofWord (priority : UInt32) : Except KernelError Priority :=
  match Priority.ofWord? priority with
  | some p => .ok p
  | none => .error (.invalidPriority priority)

inductive SchedulingState where
  /-- Waiting in the queue of its priority. -/
  | ready
  /-- Given to a core. -/
  | running (core : CoreIndex)
  /-- Waiting for a tick. -/
  | sleeping (deadline : UInt64)
  deriving Repr, DecidableEq

def SchedulingState.isRunning : SchedulingState → Bool
  | running _ => true
  | _ => false

structure ScheduledThread where
  priority : Priority
  /-- Bit `c` allows core `c`. -/
  coreMask : UInt64
  state : SchedulingState
  deriving Repr, DecidableEq

/-- `core` is in the affinity mask. -/
def ScheduledThread.allows (thread : ScheduledThread) (core : CoreIndex) : Bool :=
  thread.coreMask &&& (1 <<< UInt64.ofNat core) != 0

/-- A wake-up that was asked for. It outlives its thread's removal. -/
structure Sleeper where
  deadline : UInt64
  /-- Numbers the wake-ups in the order in which they were asked for. -/
  seq : UInt64
  id : ThreadId
  deriving Repr, DecidableEq

/-- The greatest one is served first: it has the earliest deadline, and among equal
    ones it was asked for first. -/
instance : Ord Sleeper where
  compare sleeper other :=
    (compare other.deadline sleeper.deadline).then (compare other.seq sleeper.seq)

structure Scheduler where
  /-- Ready threads of each priority, longest waiting first. -/
  queues : Vector (List ThreadId) priorityCount := Vector.replicate priorityCount []
  threads : Std.TreeMap ThreadId ScheduledThread := {}
  /-- Wake-ups by deadline; among equal ones the first to fall asleep leads. -/
  sleepers : List Sleeper := []
  /-- The last number that a wake-up was given. -/
  seq : UInt64 := 0

namespace Scheduler

instance : Inhabited Scheduler := ⟨{}⟩

def state? (scheduler : Scheduler) (id : ThreadId) : Option SchedulingState :=
  scheduler.threads[id]?.map ScheduledThread.state

def priority? (scheduler : Scheduler) (id : ThreadId) : Option Priority :=
  scheduler.threads[id]?.map ScheduledThread.priority

/-- Number of threads that were added and not removed. -/
def threadCount (scheduler : Scheduler) : Nat :=
  scheduler.threads.size

/-- Ready threads of one priority, longest waiting first. -/
def queue (scheduler : Scheduler) (priority : Priority) : List ThreadId :=
  scheduler.queues[priority]

-- The sum starts from the literal zero, not from that of a semiring.
attribute [local instance (high)] Zero.ofOfNat0 in
def readyCount (scheduler : Scheduler) : Nat :=
  (scheduler.queues.toList.map List.length).sum

/-- The earliest wake-up on record. -/
def nextDeadline? (scheduler : Scheduler) : Option UInt64 :=
  scheduler.sleepers.head?.map Sleeper.deadline

def setQueue (scheduler : Scheduler) (priority : Priority) (queue : List ThreadId) :
    Scheduler :=
  { scheduler with queues := scheduler.queues.set priority queue }

def enqueue (scheduler : Scheduler) (priority : Priority) (id : ThreadId) : Scheduler :=
  scheduler.setQueue priority (scheduler.queue priority ++ [id])

def dequeue (scheduler : Scheduler) (priority : Priority) (id : ThreadId) : Scheduler :=
  scheduler.setQueue priority ((scheduler.queue priority).filter (· != id))

def setState (scheduler : Scheduler) (id : ThreadId) (state : SchedulingState) : Scheduler :=
  { scheduler with threads := scheduler.threads.modify id fun thread => { thread with state } }

/-- Forget a thread, and say whether there was one. A wake-up on record for it
    stays. -/
def remove (scheduler : Scheduler) (id : ThreadId) : Bool × Scheduler :=
  match scheduler.threads[id]? with
  | none => (false, scheduler)
  | some thread =>
      let scheduler := { scheduler with threads := scheduler.threads.erase id }
      (true, if thread.state = .ready then scheduler.dequeue thread.priority id else scheduler)

/-- `core` may run thread `id`. -/
def mayRun (scheduler : Scheduler) (core : CoreIndex) (id : ThreadId) : Bool :=
  scheduler.threads[id]?.any (·.allows core)

/-- The most urgent ready thread that `core` may run, with its queue. -/
def candidate? (scheduler : Scheduler) (core : CoreIndex) : Option (Priority × ThreadId) :=
  (List.finRange priorityCount).findSome? fun priority =>
    ((scheduler.queue priority).find? (scheduler.mayRun core)).map (priority, ·)

/-- Give `core` its most urgent ready thread. -/
def next (scheduler : Scheduler) (core : CoreIndex) : Option ThreadId × Scheduler :=
  match scheduler.candidate? core with
  | none => (none, scheduler)
  | some (priority, id) =>
      let left := scheduler.setQueue priority ((scheduler.queue priority).erase id)
      (some id, left.setState id (.running core))

/-- Put a running thread behind its peers. -/
def yield (scheduler : Scheduler) (id : ThreadId) : Scheduler :=
  match scheduler.threads[id]? with
  | some thread =>
      if thread.state.isRunning then (scheduler.setState id .ready).enqueue thread.priority id
      else scheduler
  | none => scheduler

/-- Insert behind every wake-up that is not later. -/
def insertSleeper (sleeper : Sleeper) : List Sleeper → List Sleeper
  | [] => [sleeper]
  | first :: rest =>
      if first.deadline ≤ sleeper.deadline then first :: insertSleeper sleeper rest
      else sleeper :: first :: rest

/-- Park a running thread until `deadline`. -/
def sleep (scheduler : Scheduler) (id : ThreadId) (deadline : UInt64) : Scheduler :=
  match scheduler.threads[id]? with
  | some thread =>
      if thread.state.isRunning then
        let seq := scheduler.seq + 1
        { scheduler.setState id (.sleeping deadline) with
          sleepers := insertSleeper { deadline, seq, id } scheduler.sleepers, seq }
      else scheduler
  | none => scheduler

/-- Serve one wake-up, and say whether a thread woke. A record left behind by a
    thread that was removed, or that sleeps until another tick, wakes nobody. -/
def wake (scheduler : Scheduler) (sleeper : Sleeper) : Bool × Scheduler :=
  match scheduler.threads[sleeper.id]? with
  | some thread =>
      if thread.state = .sleeping sleeper.deadline then
        (true, (scheduler.setState sleeper.id .ready).enqueue thread.priority sleeper.id)
      else (false, scheduler)
  | none => (false, scheduler)

/-- Serve wake-ups in order, and count the threads that woke. -/
def wakeAll (scheduler : Scheduler) : List Sleeper → Nat × Scheduler
  | [] => (0, scheduler)
  | sleeper :: rest =>
      let (woke, scheduler) := scheduler.wake sleeper
      let (count, scheduler) := scheduler.wakeAll rest
      ((if woke then 1 else 0) + count, scheduler)

/-- Make every thread ready whose deadline is at or before `now`, and count
    them. -/
def wakeExpired (scheduler : Scheduler) (now : UInt64) : Nat × Scheduler :=
  let due := scheduler.sleepers.takeWhile (·.deadline ≤ now)
  let waiting := scheduler.sleepers.dropWhile (·.deadline ≤ now)
  { scheduler with sleepers := waiting }.wakeAll due

end Scheduler

/-- An operation on the scheduler. -/
abbrev SchedulerM := Operation KernelError Scheduler

namespace SchedulerM

open Scheduler

/-- Queue a new thread behind its peers. -/
def add (id : ThreadId) (priority : UInt32) (coreMask : UInt64) : SchedulerM Unit := do
  let level ← Operation.ofExcept (Priority.ofWord priority)
  if coreMask = 0 then throw .invalidCombination
  else if (← get).threads.contains id then
    throw (.invalidState ("thread " ++ toString id.toNat ++ " is already scheduled"))
  else
    modify fun scheduler => { scheduler with
      threads := scheduler.threads.insert id { priority := level, coreMask, state := .ready } }
    modify (·.enqueue level id)

/-- Change a thread's priority. A ready thread that gets a new one goes behind
    its new peers. -/
def setPriority (id : ThreadId) (priority : UInt32) : SchedulerM Unit := do
  let level ← Operation.ofExcept (Priority.ofWord priority)
  match (← get).threads[id]? with
  | none => throw (.invalidThreadId id)
  | some thread =>
      if thread.state = .ready ∧ thread.priority ≠ level then
        modify fun scheduler => (scheduler.dequeue thread.priority id).enqueue level id
      modify fun scheduler => { scheduler with
        threads := scheduler.threads.modify id fun thread => { thread with priority := level } }

end SchedulerM

namespace Scheduler

/-- The scheduler after `SchedulerM.add`. -/
def add (scheduler : Scheduler) (id : ThreadId) (priority : UInt32) (coreMask : UInt64) :
    Except KernelError Scheduler :=
  (SchedulerM.add id priority coreMask).result scheduler

/-- The scheduler after `SchedulerM.setPriority`. -/
def setPriority (scheduler : Scheduler) (id : ThreadId) (priority : UInt32) :
    Except KernelError Scheduler :=
  (SchedulerM.setPriority id priority).result scheduler

end Scheduler

end GuestMachine
