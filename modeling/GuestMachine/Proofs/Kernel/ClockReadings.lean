import GuestMachine.Proofs.Kernel.TickConversions

/-! # Readings of the guest's clock

The clock is read now and then, while the host goes on and the clock is moved ahead
by any amounts. A reading is the host's tick plus all advances, up to the end of
time, for as long as the advances have 64 bits. Their sum starts over after that,
and the clock falls back.
-/

namespace GuestMachine

inductive ClockEvent where
  /-- The clock is moved ahead. -/
  | advance (ticks : UInt64)
  /-- The clock is read when the host is at this tick. -/
  | read (host : UInt64)

/-- The host's tick at a reading. -/
def ClockEvent.host? : ClockEvent → Option UInt64
  | advance _ => none
  | read host => some host

structure ClockReading where
  host : UInt64
  /-- What the clock had been moved ahead by. -/
  advanced : Nat
  ticks : UInt64
  counter : UInt64

/-- The reading counts all advances, up to the end of time. -/
def ClockReading.OnTime (reading : ClockReading) : Prop :=
  reading.ticks.toNat = min (2 ^ 64 - 1) (reading.host.toNat + reading.advanced)

instance (reading : ClockReading) : Decidable reading.OnTime :=
  inferInstanceAs (Decidable (_ = _))

namespace GuestTime

/-- What is read from a clock that has been moved ahead by `advanced` ticks before. -/
def readings (time : GuestTime) (advanced : Nat) : List ClockEvent → List ClockReading
  | [] => []
  | .advance ticks :: rest => (time.advance ticks).readings (advanced + ticks.toNat) rest
  | .read host :: rest =>
      { host, advanced, ticks := time.ticks host, counter := time.counter host } ::
        time.readings advanced rest

/-- The skew is what 64 bits hold of the advances. -/
def HasAdvanced (time : GuestTime) (advanced : Nat) : Prop :=
  time.skew.toNat = advanced % 2 ^ 64

variable {time : GuestTime} {advanced : Nat}

theorem HasAdvanced.advance (held : time.HasAdvanced advanced) (ticks : UInt64) :
    (time.advance ticks).HasAdvanced (advanced + ticks.toNat) := by
  rw [HasAdvanced] at held ⊢
  rw [GuestTime.advance, UInt64.toNat_add, held, Nat.mod_add_mod]

theorem HasAdvanced.toNat_ticks (held : time.HasAdvanced advanced) (host : UInt64) :
    (time.ticks host).toNat = min (2 ^ 64 - 1) (host.toNat + advanced % 2 ^ 64) := by
  rw [ticks, toNat_saturatingAdd, held, Nat.min_comm]

theorem HasAdvanced.ticks_of_mem (held : time.HasAdvanced advanced) {events : List ClockEvent}
    {reading : ClockReading} (member : reading ∈ time.readings advanced events) :
    reading.ticks.toNat =
        min (2 ^ 64 - 1) (reading.host.toNat + reading.advanced % 2 ^ 64) ∧
      reading.counter = counterOfTicks reading.ticks := by
  induction events generalizing time advanced with
  | nil => cases member
  | cons event rest ih =>
      cases event with
      | advance ticks => exact ih (held.advance ticks) member
      | read host =>
          cases member with
          | head => exact ⟨held.toNat_ticks host, rfl⟩
          | tail _ member => exact ih held member

/-- Once the advances do not have 64 bits, the clock is at the end of time only by
    chance. -/
theorem onTime_iff {reading : ClockReading} (ticks : reading.ticks.toNat =
      min (2 ^ 64 - 1) (reading.host.toNat + reading.advanced % 2 ^ 64)) :
    reading.OnTime ↔ reading.advanced < 2 ^ 64 ∨
      2 ^ 64 - 1 ≤ reading.host.toNat + reading.advanced % 2 ^ 64 := by
  rw [ClockReading.OnTime, ticks]
  by_cases within : reading.advanced < 2 ^ 64
  · simp only [Nat.mod_eq_of_lt within, within, true_or]
  · omega

theorem map_host_readings (time : GuestTime) (advanced : Nat) (events : List ClockEvent) :
    (time.readings advanced events).map ClockReading.host =
      events.filterMap ClockEvent.host? := by
  induction events generalizing time advanced with
  | nil => rfl
  | cons event rest ih =>
      cases event with
      | advance ticks => exact ih _ _
      | read host => exact congrArg (host :: ·) (ih time advanced)

theorem le_advanced_of_mem {events : List ClockEvent} {reading : ClockReading}
    (member : reading ∈ time.readings advanced events) : advanced ≤ reading.advanced := by
  induction events generalizing time advanced with
  | nil => cases member
  | cons event rest ih =>
      cases event with
      | advance ticks => exact Nat.le_trans (Nat.le_add_right _ _) (ih member)
      | read host =>
          cases member with
          | head => exact Nat.le_refl _
          | tail _ member => exact ih member

theorem advanced_inOrder (time : GuestTime) (advanced : Nat) (events : List ClockEvent) :
    (time.readings advanced events).Pairwise fun earlier later =>
      earlier.advanced ≤ later.advanced := by
  induction events generalizing time advanced with
  | nil => exact List.Pairwise.nil
  | cons event rest ih =>
      cases event with
      | advance ticks => exact ih _ _
      | read host =>
          exact List.Pairwise.cons (fun _ member => le_advanced_of_mem member) (ih time advanced)

/-- As long as the sum of the advances does not start over in between, the later
    reading is not less. -/
theorem ticks_le_of_same_lap {earlier later : ClockReading}
    (ticks : earlier.ticks.toNat =
      min (2 ^ 64 - 1) (earlier.host.toNat + earlier.advanced % 2 ^ 64))
    (ticks' : later.ticks.toNat =
      min (2 ^ 64 - 1) (later.host.toNat + later.advanced % 2 ^ 64))
    (host : earlier.host ≤ later.host) (advanced : earlier.advanced ≤ later.advanced)
    (lap : earlier.advanced / 2 ^ 64 = later.advanced / 2 ^ 64) : earlier.ticks ≤ later.ticks := by
  rw [UInt64.le_iff_toNat_le] at host ⊢
  omega

/-- However often a new clock is moved ahead, and read while the host goes on: every
    reading counts all advances exactly if they have 64 bits or the clock is at the end
    of time anyway, and later readings are not less unless the sum of the advances has
    started over between the two. -/
theorem readings_inOrder {events : List ClockEvent}
    (onward : (events.filterMap ClockEvent.host?).Pairwise (· ≤ ·)) :
    (({} : GuestTime).readings 0 events).map ClockReading.host =
        events.filterMap ClockEvent.host? ∧
      (∀ reading ∈ ({} : GuestTime).readings 0 events,
        reading.ticks.toNat =
            min (2 ^ 64 - 1) (reading.host.toNat + reading.advanced % 2 ^ 64) ∧
          (reading.OnTime ↔ reading.advanced < 2 ^ 64 ∨
            2 ^ 64 - 1 ≤ reading.host.toNat + reading.advanced % 2 ^ 64)) ∧
      (({} : GuestTime).readings 0 events).Pairwise fun earlier later =>
        earlier.advanced / 2 ^ 64 = later.advanced / 2 ^ 64 →
          earlier.ticks ≤ later.ticks ∧ earlier.counter ≤ later.counter := by
  have new : ({} : GuestTime).HasAdvanced 0 := rfl
  have hosts := map_host_readings {} 0 events
  refine ⟨hosts, fun reading member => ?_, ?_⟩
  · obtain ⟨ticks, _⟩ := new.ticks_of_mem member
    exact ⟨ticks, onTime_iff ticks⟩
  · rw [← hosts, List.pairwise_map] at onward
    have ordered := onward.and (advanced_inOrder {} 0 events)
    refine ordered.imp_of_mem fun {earlier later} member member' both lap => ?_
    obtain ⟨ticks, counter⟩ := new.ticks_of_mem member
    obtain ⟨ticks', counter'⟩ := new.ticks_of_mem member'
    have le := ticks_le_of_same_lap ticks ticks' both.1 both.2 lap
    rw [counter, counter']
    exact ⟨le, counterOfTicks_le le⟩

/-- The clock is moved to the end of time, and on by a tick. -/
def beyondTheEnd : List ClockEvent :=
  [.read 3, .advance 0xffffffffffffffff, .read 5, .advance 1, .read 7]

/-- The first two readings count all advances, and are in order. -/
theorem readings_inOrder_beyondTheEnd :
    (beyondTheEnd.filterMap ClockEvent.host?).Pairwise (· ≤ ·) ∧
      (({} : GuestTime).readings 0 beyondTheEnd).map ClockReading.advanced =
        [0, 0xffffffffffffffff, 0x10000000000000000] ∧
      (({} : GuestTime).readings 0 beyondTheEnd).map ClockReading.host = [3, 5, 7] ∧
      (∀ reading ∈ ({} : GuestTime).readings 0 beyondTheEnd,
        reading.OnTime ↔ reading.advanced < 2 ^ 64 ∨
          2 ^ 64 - 1 ≤ reading.host.toNat + reading.advanced % 2 ^ 64) ∧
      (({} : GuestTime).readings 0 beyondTheEnd).Pairwise fun earlier later =>
        earlier.advanced / 2 ^ 64 = later.advanced / 2 ^ 64 →
          earlier.ticks ≤ later.ticks ∧ earlier.counter ≤ later.counter := by
  have onward : (beyondTheEnd.filterMap ClockEvent.host?).Pairwise (· ≤ ·) := by decide
  obtain ⟨hosts, shown, ordered⟩ := readings_inOrder onward
  exact ⟨onward, by decide, hosts, fun reading member => (shown reading member).2, ordered⟩

/-- After that it goes with the host again: the last reading is less than the one
    before, and far from what it should be. -/
theorem readings_fall_back :
    (beyondTheEnd.filterMap ClockEvent.host?).Pairwise (· ≤ ·) ∧
      (({} : GuestTime).readings 0 beyondTheEnd).map ClockReading.ticks =
        [3, 0xffffffffffffffff, 7] ∧
      ¬ (∀ reading ∈ ({} : GuestTime).readings 0 beyondTheEnd, reading.OnTime) ∧
      ¬ (({} : GuestTime).readings 0 beyondTheEnd).Pairwise fun earlier later =>
        earlier.ticks ≤ later.ticks := by
  decide

end GuestTime

end GuestMachine
