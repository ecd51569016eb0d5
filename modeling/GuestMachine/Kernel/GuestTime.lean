import GuestMachine.Cpu.Counter

/-! # Guest time

Guest time is the host's tick count plus a skew by which it was moved ahead.
Ticks are those of the console's clock, and deadlines are ticks.
-/

namespace GuestMachine

/-- Ticks in `ns` nanoseconds, rounded down, at most the largest number. -/
def ticksOfNanos (ns : UInt64) : UInt64 :=
  UInt64.ofNat (min (ns.toNat * baseClockRate.toNat / 1000000000) (2 ^ 64 - 1))

/-- Nanoseconds in `ticks`, rounded down, at most the largest number. -/
def nanosOfTicks (ticks : UInt64) : UInt64 :=
  UInt64.ofNat (min (ticks.toNat * 1000000000 / baseClockRate.toNat) (2 ^ 64 - 1))

/-- How far guest time is ahead of the host. -/
structure GuestTime where
  skew : UInt64 := 0
  deriving Repr, DecidableEq, Inhabited

namespace GuestTime

/-- Guest ticks when the host is at tick `host`, up to the end of time. -/
def ticks (time : GuestTime) (host : UInt64) : UInt64 :=
  saturatingAdd host time.skew

def counter (time : GuestTime) (host : UInt64) : UInt64 :=
  counterOfTicks (time.ticks host)

/-- Move guest time ahead. The skew itself wraps around. -/
def advance (time : GuestTime) (ticks : UInt64) : GuestTime :=
  { skew := time.skew + ticks }

def deadlineAfter (time : GuestTime) (host ns : UInt64) : UInt64 :=
  saturatingAdd (time.ticks host) (ticksOfNanos ns)

/-- Nanoseconds until `deadline`, zero once it has passed. -/
def nanosUntil (time : GuestTime) (host deadline : UInt64) : UInt64 :=
  nanosOfTicks (UInt64.ofNat (deadline.toNat - (time.ticks host).toNat))

end GuestTime

end GuestMachine
