import GuestMachine.Basic

/-! # Invalidation bus

A change to guest code has to reach the translated blocks of every core. Ranges
are published here, one queue per core, and each core takes its own at block
boundaries. Cores that are not registered receive nothing.
-/

namespace GuestMachine

/-- The ranges waiting for one core. -/
structure CoreQueue where
  registered : Bool := false
  /-- Raised by a publication. A core looks at the ranges only if it is. -/
  pending : Bool := false
  /-- Oldest first. -/
  ranges : List (Address × UInt64) := []
  deriving Repr, DecidableEq, Inhabited

namespace CoreQueue

def push (queue : CoreQueue) (addr : Address) (size : UInt64) : CoreQueue :=
  if queue.registered then
    { queue with ranges := queue.ranges ++ [(addr, size)], pending := true }
  else queue

/-- All ranges at once, if any are pending. -/
def drain (queue : CoreQueue) : List (Address × UInt64) × CoreQueue :=
  if queue.pending then (queue.ranges, { queue with pending := false, ranges := [] })
  else ([], queue)

end CoreQueue

structure InvalidationBus where
  queues : List CoreQueue := List.replicate maxCores {}
  deriving Repr, DecidableEq, Inhabited

namespace InvalidationBus

/-- Start to deliver to `core`. -/
def register (bus : InvalidationBus) (core : CoreIndex) : InvalidationBus :=
  { queues := bus.queues.modify core fun queue => { queue with registered := true } }

/-- Stop to deliver to `core`, and drop what waits for it. -/
def unregister (bus : InvalidationBus) (core : CoreIndex) : InvalidationBus :=
  { queues := bus.queues.modify core fun _ => {} }

def publish (bus : InvalidationBus) (addr : Address) (size : UInt64) : InvalidationBus :=
  { queues := bus.queues.map (·.push addr size) }

/-- Queue a range for one core, if it is registered. -/
def publishTo (bus : InvalidationBus) (core : CoreIndex) (addr : Address) (size : UInt64) :
    InvalidationBus :=
  { queues := bus.queues.modify core (·.push addr size) }

/-- The ranges waiting for `core`, which are then gone. -/
def take (bus : InvalidationBus) (core : CoreIndex) :
    List (Address × UInt64) × InvalidationBus :=
  match bus.queues[core]? with
  | none => ([], bus)
  | some queue =>
      let (ranges, queue) := queue.drain
      (ranges, { queues := bus.queues.set core queue })

end InvalidationBus

end GuestMachine
