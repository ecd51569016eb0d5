import Mathlib.Data.Nat.Basic
import GuestMachine.Kernel.GuestTime
import GuestMachine.Proofs.Memory.ByteRange

/-! # Rounding of times

Counter values, ticks and nanoseconds are converted by one multiplication and one
division that rounds down. A conversion to fewer units always has room for its
result; the one to more units stops at the largest number. Until then a round trip
from nanoseconds to ticks and back loses one nanosecond at most.
-/

namespace GuestMachine

section

variable {num den a b : Nat}

theorem mul_div_le_mul_div (le : a ≤ b) : a * num / den ≤ b * num / den :=
  Nat.div_le_div_right (Nat.mul_le_mul_right num le)

theorem mul_div_le_of_le (slower : num ≤ den) (a : Nat) : a * num / den ≤ a :=
  Nat.div_le_of_le_mul (by rw [Nat.mul_comm den]; exact Nat.mul_le_mul_left a slower)

/-- What is rounded off two parts makes up one unit at most. -/
theorem add_mul_div (positive : 0 < den) (a b : Nat) :
    ∃ carry ≤ 1, (a + b) * num / den = a * num / den + b * num / den + carry := by
  refine ⟨if den ≤ a * num % den + b * num % den then 1 else 0, ?_, ?_⟩
  · split <;> omega
  · rw [Nat.add_mul, Nat.add_div positive]

/-- A number in finer units determines the one in coarser units up to one. -/
theorem mul_div_mul_div (positive : 0 < den) (finer : den ≤ num) (a : Nat) :
    a * num / den * den / num = a ∨ a * num / den * den / num + 1 = a := by
  have unit : 0 < num := Nat.lt_of_lt_of_le positive finer
  have below : a * num / den * den ≤ a * num := Nat.div_mul_le_self _ _
  have close : a * num ≤ a * num / den * den + num := by
    have remainder := Nat.mod_lt (a * num) positive
    have whole := Nat.div_add_mod' (a * num) den
    omega
  have upper : a * num / den * den / num ≤ a := Nat.div_le_of_le_mul (Nat.mul_comm a num ▸ below)
  have lower : a ≤ a * num / den * den / num + 1 := by
    rw [← Nat.add_div_right _ unit, Nat.le_div_iff_mul_le unit]
    exact close
  omega

end

/-- The counter is slower than the clock, so that counter values fit. -/
theorem toNat_counterOfTicks (ticks : UInt64) :
    (counterOfTicks ticks).toNat =
      ticks.toNat * counterFrequency.toNat / baseClockRate.toNat := by
  have slower := mul_div_le_of_le (show counterFrequency.toNat ≤ baseClockRate.toNat by decide)
    ticks.toNat
  exact UInt64.toNat_ofNat_of_lt' (Nat.lt_of_le_of_lt slower ticks.toNat_lt)

theorem toNat_ticksOfNanos (ns : UInt64) :
    (ticksOfNanos ns).toNat =
      min (ns.toNat * baseClockRate.toNat / 1000000000) (2 ^ 64 - 1) := by
  have cap := Nat.min_le_right (ns.toNat * baseClockRate.toNat / 1000000000) (2 ^ 64 - 1)
  exact UInt64.toNat_ofNat_of_lt' (Nat.lt_of_le_of_lt cap (by decide))

/-- A tick takes less than a nanosecond, so that no number of ticks is too large. -/
theorem toNat_nanosOfTicks (ticks : UInt64) :
    (nanosOfTicks ticks).toNat = ticks.toNat * 1000000000 / baseClockRate.toNat := by
  have slower := mul_div_le_of_le (show 1000000000 ≤ baseClockRate.toNat by decide) ticks.toNat
  have below := Nat.lt_of_le_of_lt slower ticks.toNat_lt
  rw [nanosOfTicks, Nat.min_eq_left (Nat.le_sub_one_of_lt below)]
  exact UInt64.toNat_ofNat_of_lt' below

theorem counterOfTicks_le {ticks later : UInt64} (le : ticks ≤ later) :
    counterOfTicks ticks ≤ counterOfTicks later := by
  rw [UInt64.le_iff_toNat_le] at le ⊢
  rw [toNat_counterOfTicks, toNat_counterOfTicks]
  exact mul_div_le_mul_div le

/-- Counting in two parts loses one counter value at most. -/
theorem counterOfTicks_add {ticks more : UInt64} (room : ticks.toNat + more.toNat < 2 ^ 64) :
    ∃ carry ≤ 1, (counterOfTicks (ticks + more)).toNat =
      (counterOfTicks ticks).toNat + (counterOfTicks more).toNat + carry := by
  have sum : (ticks + more).toNat = ticks.toNat + more.toNat := by
    rw [UInt64.toNat_add, Nat.mod_eq_of_lt room]
  rw [toNat_counterOfTicks, toNat_counterOfTicks, toNat_counterOfTicks, sum]
  exact add_mul_div (by decide) ticks.toNat more.toNat

theorem ticksOfNanos_le {ns longer : UInt64} (le : ns ≤ longer) :
    ticksOfNanos ns ≤ ticksOfNanos longer := by
  rw [UInt64.le_iff_toNat_le] at le ⊢
  rw [toNat_ticksOfNanos, toNat_ticksOfNanos]
  have rescaled : ns.toNat * baseClockRate.toNat / 1000000000 ≤
      longer.toNat * baseClockRate.toNat / 1000000000 := mul_div_le_mul_div le
  omega

theorem nanosOfTicks_le {ticks later : UInt64} (le : ticks ≤ later) :
    nanosOfTicks ticks ≤ nanosOfTicks later := by
  rw [UInt64.le_iff_toNat_le] at le ⊢
  rw [toNat_nanosOfTicks, toNat_nanosOfTicks]
  exact mul_div_le_mul_div le

theorem nanosOfTicks_le_self (ticks : UInt64) : nanosOfTicks ticks ≤ ticks := by
  rw [UInt64.le_iff_toNat_le, toNat_nanosOfTicks]
  exact mul_div_le_of_le (by decide) ticks.toNat

theorem nanosOfTicks_ticksOfNanos {ns : UInt64} (below : (ticksOfNanos ns).toNat < 2 ^ 64 - 1) :
    (nanosOfTicks (ticksOfNanos ns)).toNat = ns.toNat ∨
      (nanosOfTicks (ticksOfNanos ns)).toNat + 1 = ns.toNat := by
  have ticks := toNat_ticksOfNanos ns
  rw [Nat.min_eq_left (by omega)] at ticks
  rw [toNat_nanosOfTicks, ticks]
  exact mul_div_mul_div (by decide) (by decide) ns.toNat

namespace GuestTime

variable {time : GuestTime} {host ns longer : UInt64}

theorem ticks_le_deadlineAfter (time : GuestTime) (host ns : UInt64) :
    time.ticks host ≤ time.deadlineAfter host ns := by
  have small := (time.ticks host).toNat_lt
  rw [UInt64.le_iff_toNat_le, deadlineAfter, toNat_saturatingAdd]
  omega

theorem deadlineAfter_le (le : ns ≤ longer) :
    time.deadlineAfter host ns ≤ time.deadlineAfter host longer := by
  have ticks := UInt64.le_iff_toNat_le.mp (ticksOfNanos_le le)
  rw [UInt64.le_iff_toNat_le, deadlineAfter, deadlineAfter, toNat_saturatingAdd,
    toNat_saturatingAdd]
  omega

end GuestTime

/-- Conversions keep the order of times and have room for their results, except that
    nanoseconds may be too many for ticks. What is lost in rounding is one unit at
    most, of a sum as well as of a round trip. Deadlines are in order, too, and none
    has passed when it is set. -/
theorem conversions_round :
    (∀ ticks later, ticks ≤ later → counterOfTicks ticks ≤ counterOfTicks later) ∧
      (∀ ticks : UInt64, ticks.toNat * counterFrequency.toNat / baseClockRate.toNat < 2 ^ 64 ∧
        (counterOfTicks ticks).toNat =
          ticks.toNat * counterFrequency.toNat / baseClockRate.toNat) ∧
      (∀ ticks more : UInt64, ticks.toNat + more.toNat < 2 ^ 64 →
        ∃ carry ≤ 1, (counterOfTicks (ticks + more)).toNat =
          (counterOfTicks ticks).toNat + (counterOfTicks more).toNat + carry) ∧
      (∀ ns longer, ns ≤ longer → ticksOfNanos ns ≤ ticksOfNanos longer) ∧
      (∀ ticks later, ticks ≤ later → nanosOfTicks ticks ≤ nanosOfTicks later) ∧
      (∀ ticks, (nanosOfTicks ticks).toNat =
          ticks.toNat * 1000000000 / baseClockRate.toNat ∧ nanosOfTicks ticks ≤ ticks) ∧
      (∀ ns, (ticksOfNanos ns).toNat < 2 ^ 64 - 1 →
        (nanosOfTicks (ticksOfNanos ns)).toNat = ns.toNat ∨
          (nanosOfTicks (ticksOfNanos ns)).toNat + 1 = ns.toNat) ∧
      ∀ (time : GuestTime) (host : UInt64),
        (∀ ns, time.ticks host ≤ time.deadlineAfter host ns) ∧
          ∀ ns longer, ns ≤ longer → time.deadlineAfter host ns ≤ time.deadlineAfter host longer := by
  refine ⟨fun _ _ => counterOfTicks_le, fun ticks => ⟨?_, toNat_counterOfTicks ticks⟩,
    fun _ _ => counterOfTicks_add, fun _ _ => ticksOfNanos_le, fun _ _ => nanosOfTicks_le,
    fun ticks => ⟨toNat_nanosOfTicks ticks, nanosOfTicks_le_self ticks⟩,
    fun _ => nanosOfTicks_ticksOfNanos, fun time host => ⟨time.ticks_le_deadlineAfter host, ?_⟩⟩
  · rw [← toNat_counterOfTicks]
    exact (counterOfTicks ticks).toNat_lt
  · intro _ _
    exact GuestTime.deadlineAfter_le

/-- Two parts of 53 ticks are less than a counter value each, and together more than
    one; a nanosecond is a tick, and a tick no whole nanosecond; and a deadline at the
    end of time is as good as one beyond. -/
theorem conversions_round_down :
    ((53 : UInt64) ≤ 106 ∧ counterOfTicks 53 ≤ counterOfTicks 106) ∧
      ((53 : UInt64).toNat + (53 : UInt64).toNat < 2 ^ 64 ∧
        (counterOfTicks 53).toNat = 0 ∧
        ∃ carry ≤ 1, (counterOfTicks (53 + 53)).toNat =
          (counterOfTicks 53).toNat + (counterOfTicks 53).toNat + carry) ∧
      ((ticksOfNanos 1).toNat < 2 ^ 64 - 1 ∧ (nanosOfTicks (ticksOfNanos 1)).toNat = 0 ∧
        ((nanosOfTicks (ticksOfNanos 1)).toNat = (1 : UInt64).toNat ∨
          (nanosOfTicks (ticksOfNanos 1)).toNat + 1 = (1 : UInt64).toNat)) ∧
      ((1 : UInt64) ≤ 2 ∧ GuestTime.deadlineAfter { skew := 0xfffffffffffffffe } 0 1 ≤
        GuestTime.deadlineAfter { skew := 0xfffffffffffffffe } 0 2) := by
  obtain ⟨inOrder, _, sums, _, _, _, trips, deadlines⟩ := conversions_round
  exact ⟨⟨by decide, inOrder 53 106 (by decide)⟩,
    ⟨by decide, by decide, sums 53 53 (by decide)⟩, ⟨by decide, by decide, trips 1 (by decide)⟩,
    by decide, (deadlines { skew := 0xfffffffffffffffe } 0).2 1 2 (by decide)⟩

end GuestMachine
