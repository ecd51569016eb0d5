import GuestMachine.Proofs.Monitor.Reservations

/-! # Load-linked and store-conditional

Cores share one monitor and call it in any order. Whether an exclusive write
commits is decided by the history of calls alone, together with what memory
holds: the table of reservations is shown to be a summary of the history.
-/

namespace GuestMachine

open Layout

abbrev ExclusiveWidth := { w : Width // w ≠ .quad }

/-- A call to the monitor. A store comes with the range it is for, which is
    not empty, and may do to memory whatever it likes. -/
inductive MonitorCall where
  | exclusiveRead (core : CoreIndex) (w : ExclusiveWidth) (addr : Address)
  | exclusiveWrite (core : CoreIndex) (w : ExclusiveWidth) (addr : Address)
      (value : BitVec w.val.bits)
  | guardedStore (core : CoreIndex) (addr : Address) (size : UInt64) (nonempty : 0 < size.toNat)
      (store : AddressSpace → Bool × AddressSpace)
  | externalStore (addr : Address) (size : UInt64) (nonempty : 0 < size.toNat)
      (store : AddressSpace → Bool × AddressSpace)
  | clearExclusive (core : CoreIndex)

/-- What a call did, as its caller sees it. -/
inductive MonitorEvent where
  | exclusiveRead (core : CoreIndex) (w : ExclusiveWidth) (addr : Address)
      (value : BitVec w.val.bits)
  | exclusiveWrite (core : CoreIndex) (w : ExclusiveWidth) (addr : Address) (committed : Bool)
  /-- By a core, or on the guest's behalf. -/
  | store (writer : Option CoreIndex) (addr : Address) (size : UInt64) (stored : Bool)
  | clearExclusive (core : CoreIndex)

structure MonitoredMemory where
  memory : AddressSpace
  monitor : ExclusiveMonitor

namespace MonitoredMemory

def perform (state : MonitoredMemory) : MonitorCall → MonitorEvent × MonitoredMemory
  | .exclusiveRead core w addr =>
      let (value, monitor) := state.monitor.exclusiveRead state.memory w core addr
      (.exclusiveRead core w addr value, { state with monitor })
  | .exclusiveWrite core w addr value =>
      let (committed, memory, monitor) := state.monitor.exclusiveWrite state.memory w core addr value
      (.exclusiveWrite core w addr committed, { memory, monitor })
  | .guardedStore core addr size _ store =>
      let (stored, memory, monitor) := state.monitor.guardedStore state.memory core addr size store
      (.store (some core) addr size stored, { memory, monitor })
  | .externalStore addr size _ store =>
      let (stored, memory, monitor) := state.monitor.externalStore state.memory addr size store
      (.store none addr size stored, { memory, monitor })
  | .clearExclusive core => (.clearExclusive core, { state with monitor := state.monitor.clear core })

/-- The history that a sequence of calls makes, and the state it ends in. -/
def performAll (state : MonitoredMemory) : List MonitorCall → List MonitorEvent × MonitoredMemory
  | [] => ([], state)
  | call :: calls =>
      let (event, state) := state.perform call
      let (events, state) := state.performAll calls
      (event :: events, state)

end MonitoredMemory

/-- The core's last exclusive read no longer counts: it read again, wrote, or
    gave up. -/
def MonitorEvent.Ends (core : CoreIndex) : MonitorEvent → Prop
  | .exclusiveRead c .. => c = core
  | .exclusiveWrite c .. => c = core
  | .store .. => False
  | .clearExclusive c => c = core

/-- Somebody else stored to the bytes at `addr`. -/
def MonitorEvent.Disturbs (core : CoreIndex) (addr len : Nat) : MonitorEvent → Prop
  | .exclusiveWrite c w a committed =>
      committed ∧ c ≠ core ∧ SharesByte a.toNat w.val.bytes addr len
  | .store writer a size stored =>
      stored ∧ writer ≠ some core ∧ SharesByte a.toNat size.toNat addr len
  | _ => False

/-- The core's last exclusive read gave `value` at `addr`, the core did nothing
    to end it since, and nobody else stored to its bytes. -/
def Live (history : List MonitorEvent) (core : CoreIndex) (w : ExclusiveWidth) (addr : Address)
    (value : BitVec w.val.bits) : Prop :=
  ∃ before after, history = before ++ .exclusiveRead core w addr value :: after ∧
    ∀ event ∈ after, ¬ event.Ends core ∧ ¬ event.Disturbs core addr.toNat w.val.bytes

theorem not_live_nil {core : CoreIndex} {w : ExclusiveWidth} {addr : Address}
    {value : BitVec w.val.bits} : ¬ Live [] core w addr value := by
  rintro ⟨before, after, whole, _⟩
  simp at whole

/-- An entry of a list with one more at its end is that one, or an entry of the
    list before. -/
theorem append_singleton_eq_iff {l before after : List α} {last entry : α} :
    l ++ [last] = before ++ entry :: after ↔
      (l = before ∧ last = entry ∧ after = []) ∨
        ∃ between, l = before ++ entry :: between ∧ after = between ++ [last] := by
  constructor
  · intro whole
    rcases List.eq_nil_or_concat after with rfl | ⟨between, final, rfl⟩
    · obtain ⟨same, ends⟩ := List.append_inj' whole rfl
      exact .inl ⟨same, List.singleton_inj.mp ends, rfl⟩
    · rw [List.concat_eq_append, ← List.cons_append, ← List.append_assoc] at whole
      obtain ⟨same, ends⟩ := List.append_inj' whole rfl
      rw [List.singleton_inj.mp ends]
      exact .inr ⟨between, same, List.concat_eq_append⟩
  · rintro (⟨rfl, rfl, rfl⟩ | ⟨between, rfl, rfl⟩)
    · rfl
    · simp

theorem live_append_iff {history : List MonitorEvent} {event : MonitorEvent} {core : CoreIndex}
    {w : ExclusiveWidth} {addr : Address} {value : BitVec w.val.bits} :
    Live (history ++ [event]) core w addr value ↔
      event = .exclusiveRead core w addr value ∨
        Live history core w addr value ∧ ¬ event.Ends core ∧
          ¬ event.Disturbs core addr.toNat w.val.bytes := by
  constructor
  · rintro ⟨before, after, whole, quiet⟩
    rcases append_singleton_eq_iff.mp whole with ⟨_, same, _⟩ | ⟨between, same, rfl⟩
    · exact .inl same
    · refine .inr ⟨⟨before, between, same, fun e member => quiet e ?_⟩, quiet event (by simp)⟩
      exact List.mem_append_left [event] member
  · rintro (rfl | ⟨⟨before, after, rfl, quiet⟩, calm⟩)
    · exact ⟨history, [], rfl, by simp⟩
    · refine ⟨before, after ++ [event], by simp, ?_⟩
      intro e member
      rcases List.mem_append.mp member with earlier | last
      · exact quiet e earlier
      · rw [List.mem_singleton.mp last]
        exact calm

def observation (w : ExclusiveWidth) (addr : Address) (value : BitVec w.val.bits) : Reservation :=
  { addr, size := w.val.size, value := UInt64.ofBitVec (value.setWidth 64) }

theorem observation_value (w : ExclusiveWidth) (addr : Address) (value : BitVec w.val.bits) :
    (observation w addr value).value.toBitVec.setWidth w.val.bits = value := by
  rw [observation, UInt64.toBitVec_ofBitVec]
  exact (BitVec.setWidth_setWidth_of_le value (Width.bits_le_of_ne_quad w.property)).trans
    (BitVec.setWidth_eq value)

/-- The history leaves the core with reservation `r`. -/
def Holds (history : List MonitorEvent) (core : CoreIndex) (r : Reservation) : Prop :=
  ∃ w value, r = observation w r.addr value ∧ Live history core w r.addr value

theorem Holds.nonempty {history : List MonitorEvent} {core : CoreIndex} {r : Reservation}
    (holds : Holds history core r) : 0 < r.size.toNat := by
  obtain ⟨w, value, same, _⟩ := holds
  rw [same, observation, Width.toNat_size]
  exact w.val.bytes_pos

theorem holds_append_iff {history : List MonitorEvent} {event : MonitorEvent} {core : CoreIndex}
    {r : Reservation} :
    Holds (history ++ [event]) core r ↔
      (∃ w value, r = observation w r.addr value ∧ event = .exclusiveRead core w r.addr value) ∨
        Holds history core r ∧ ¬ event.Ends core ∧
          ¬ event.Disturbs core r.addr.toNat r.size.toNat := by
  have size {w : ExclusiveWidth} {value : BitVec w.val.bits}
      (same : r = observation w r.addr value) : r.size.toNat = w.val.bytes := by
    rw [same, observation, Width.toNat_size]
  constructor
  · rintro ⟨w, value, same, live⟩
    rcases live_append_iff.mp live with read | ⟨live, calm⟩
    · exact .inl ⟨w, value, same, read⟩
    · exact .inr ⟨⟨w, value, same, live⟩, size same ▸ calm⟩
  · rintro (⟨w, value, same, read⟩ | ⟨⟨w, value, same, live⟩, calm⟩)
    · exact ⟨w, value, same, live_append_iff.mpr (.inl read)⟩
    · exact ⟨w, value, same, live_append_iff.mpr (.inr ⟨live, size same ▸ calm⟩)⟩

/-- For every reservation inside the address space, a core holds it exactly if
    the history says so. Beyond it the ranges of stores saturate, but nothing is
    ever committed there. -/
structure Summarises (cores : Nat) (monitor : ExclusiveMonitor) (history : List MonitorEvent) :
    Prop where
  coreCount : monitor.coreCount = cores
  counted : monitor.Counted
  held : ∀ core r, r.addr.toNat + r.size.toNat ≤ addressSpaceSize →
    (monitor.reservation? core = some r ↔ core < cores ∧ Holds history core r)

theorem summarises_ofCores (cores : Nat) :
    Summarises cores (ExclusiveMonitor.ofCores cores) [] where
  coreCount := by simp [ExclusiveMonitor.coreCount, ExclusiveMonitor.ofCores]
  counted := ExclusiveMonitor.counted_ofCores cores
  held core r _ := by
    rw [ExclusiveMonitor.reservation?_ofCores]
    constructor
    · intro held
      cases held
    · rintro ⟨_, w, value, _, live⟩
      exact absurd live not_live_nil

section

variable {cores : Nat} {monitor after : ExclusiveMonitor} {history : List MonitorEvent}
  {event : MonitorEvent}

theorem Summarises.nonempty (summary : Summarises cores monitor history) {core : CoreIndex}
    {r : Reservation} (inside : r.addr.toNat + r.size.toNat ≤ addressSpaceSize)
    (held : monitor.reservation? core = some r) : 0 < r.size.toNat :=
  ((summary.held core r inside).mp held).2.nonempty

theorem Summarises.reserved_iff (summary : Summarises cores monitor history) {core : CoreIndex}
    {w : ExclusiveWidth} {addr : Address} {observed : UInt64}
    (inside : addr.toNat + w.val.bytes ≤ addressSpaceSize) :
    monitor.reservation? core = some ⟨addr, w.val.size, observed⟩ ↔
      core < cores ∧ ∃ value, observed = UInt64.ofBitVec (value.setWidth 64) ∧
        Live history core w addr value := by
  rw [summary.held core _ (by rwa [Width.toNat_size])]
  constructor
  · rintro ⟨lower, w', value, same, live⟩
    obtain ⟨_, size, seen⟩ := Reservation.mk.inj same
    obtain rfl : w = w' := Subtype.ext (Width.size_inj.mp size)
    exact ⟨lower, value, seen, live⟩
  · rintro ⟨lower, value, seen, live⟩
    exact ⟨lower, w, value, by rw [observation, seen], live⟩

theorem Summarises.overlaps_iff (summary : Summarises cores monitor history) {core : CoreIndex}
    {r : Reservation} (inside : r.addr.toNat + r.size.toNat ≤ addressSpaceSize)
    (held : monitor.reservation? core = some r) {addr size : UInt64} (nonempty : 0 < size.toNat) :
    r.overlaps addr size ↔ SharesByte addr.toNat size.toNat r.addr.toNat r.size.toNat :=
  Reservation.overlaps_iff inside nonempty (summary.nonempty inside held)

/-- One more event: a reservation is made by it, or was there and survives. -/
theorem Summarises.append (summary : Summarises cores monitor history)
    (coreCount : after.coreCount = monitor.coreCount) (counted : after.Counted)
    (step : ∀ core r, r.addr.toNat + r.size.toNat ≤ addressSpaceSize →
      (after.reservation? core = some r ↔
        (core < cores ∧ ∃ w value, r = observation w r.addr value ∧
            event = .exclusiveRead core w r.addr value) ∨
          monitor.reservation? core = some r ∧ ¬ event.Ends core ∧
            ¬ event.Disturbs core r.addr.toNat r.size.toNat)) :
    Summarises cores after (history ++ [event]) where
  coreCount := coreCount.trans summary.coreCount
  counted := counted
  held core r inside := by
    rw [step core r inside, summary.held core r inside, holds_append_iff]
    constructor
    · rintro (⟨lower, read⟩ | ⟨⟨lower, holds⟩, calm⟩)
      · exact ⟨lower, .inl read⟩
      · exact ⟨lower, .inr ⟨holds, calm⟩⟩
    · rintro ⟨lower, read | ⟨holds, calm⟩⟩
      · exact .inl ⟨lower, read⟩
      · exact .inr ⟨⟨lower, holds⟩, calm⟩

theorem summarises_exclusiveRead (summary : Summarises cores monitor history) (core : CoreIndex)
    (w : ExclusiveWidth) (addr : Address) (value : BitVec w.val.bits) :
    Summarises cores (monitor.reserve core (observation w addr value))
      (history ++ [.exclusiveRead core w addr value]) := by
  have counted := ExclusiveMonitor.counted_reserve summary.counted core (observation w addr value)
  apply summary.append (monitor.coreCount_reserve core _) counted
  intro c r _
  rw [ExclusiveMonitor.reservation?_reserve, summary.coreCount]
  by_cases own : c = core
  · subst own
    by_cases lower : c < cores
    · rw [if_pos ⟨rfl, lower⟩]
      constructor
      · rintro ⟨⟩
        exact .inl ⟨lower, w, value, rfl, rfl⟩
      · rintro (⟨_, w', value', same, read⟩ | ⟨_, quiet, _⟩)
        · cases read
          exact congrArg some same.symm
        · exact absurd rfl quiet
    · rw [if_neg fun both => lower both.2]
      constructor
      · intro held
        exact absurd (summary.coreCount ▸ ExclusiveMonitor.lt_coreCount held) lower
      · rintro (⟨lower', _⟩ | ⟨_, quiet, _⟩)
        · exact absurd lower' lower
        · exact absurd rfl quiet
  · rw [if_neg fun both => own both.1]
    constructor
    · intro held
      exact .inr ⟨held, fun ends => own ends.symm, id⟩
    · rintro (⟨_, _, _, _, read⟩ | ⟨held, _⟩)
      · cases read
        exact absurd rfl own
      · exact held

theorem summarises_drop (summary : Summarises cores monitor history) (core : CoreIndex)
    (ends : ∀ c, event.Ends c ↔ core = c) (quiet : ∀ c addr len, ¬ event.Disturbs c addr len)
    (silent : ∀ c w addr value, event ≠ .exclusiveRead c w addr value) :
    Summarises cores (monitor.drop core) (history ++ [event]) := by
  have counted := ExclusiveMonitor.counted_drop summary.counted core
  apply summary.append (monitor.coreCount_drop core) counted
  intro c r _
  rw [ExclusiveMonitor.reservation?_drop, ends]
  constructor
  · intro held
    by_cases own : c = core
    · simp [own] at held
    · rw [if_neg own] at held
      exact .inr ⟨held, Ne.symm own, quiet c _ _⟩
  · rintro (⟨_, _, _, _, read⟩ | ⟨held, own, _⟩)
    · exact absurd read (silent c _ _ _)
    · rwa [if_neg (Ne.symm own)]

theorem summarises_committed (summary : Summarises cores monitor history) (core : CoreIndex)
    (w : ExclusiveWidth) (addr : Address) :
    Summarises cores ((monitor.drop core).breakOverlapping (some core) addr w.val.size)
      (history ++ [.exclusiveWrite core w addr true]) := by
  have nonempty : 0 < w.val.size.toNat := by
    rw [Width.toNat_size]
    exact w.val.bytes_pos
  have coreCount : ((monitor.drop core).breakOverlapping (some core) addr w.val.size).coreCount =
      monitor.coreCount :=
    (ExclusiveMonitor.coreCount_breakOverlapping _ _ _).trans (monitor.coreCount_drop core)
  have dropped := ExclusiveMonitor.counted_drop summary.counted core
  have counted :=
    ExclusiveMonitor.counted_breakOverlapping dropped (some core) addr w.val.size
  apply summary.append coreCount counted
  intro c r inside
  rw [ExclusiveMonitor.reservation?_breakOverlapping_iff, ExclusiveMonitor.reservation?_drop]
  constructor
  · rintro ⟨held, spared⟩
    by_cases own : c = core
    · simp [own] at held
    · rw [if_neg own] at held
      refine .inr ⟨held, Ne.symm own, ?_⟩
      rintro ⟨_, _, shared⟩
      rw [← Width.toNat_size, ← summary.overlaps_iff inside held nonempty] at shared
      exact own (Option.some.inj (spared shared)).symm
  · rintro (⟨_, _, _, _, read⟩ | ⟨held, own, quiet⟩)
    · cases read
    · refine ⟨by rwa [if_neg (Ne.symm own)], fun shared => absurd ⟨rfl, own, ?_⟩ quiet⟩
      rwa [← Width.toNat_size, ← summary.overlaps_iff inside held nonempty]

theorem summarises_store (summary : Summarises cores monitor history) (memory : AddressSpace)
    (writer : Option CoreIndex) (addr : Address) {size : UInt64} (nonempty : 0 < size.toNat)
    (store : AddressSpace → Bool × AddressSpace) :
    let outcome := monitor.storeAndBreak memory writer addr size store
    Summarises cores outcome.2.2 (history ++ [.store writer addr size outcome.1]) := by
  obtain ⟨after, outcome, coreCount, counted, spared⟩ :=
    ExclusiveMonitor.storeAndBreak_spec summary.counted memory writer addr size store
  simp only [outcome]
  apply summary.append coreCount counted
  intro c r inside
  rw [spared]
  constructor
  · rintro ⟨held, kept⟩
    refine .inr ⟨held, id, ?_⟩
    rintro ⟨stored, other, shared⟩
    rw [← summary.overlaps_iff inside held nonempty] at shared
    exact other (kept stored shared)
  · rintro (⟨_, _, _, _, read⟩ | ⟨held, _, quiet⟩)
    · cases read
    · refine ⟨held, ?_⟩
      intro stored shared
      by_contra other
      rw [summary.overlaps_iff inside held nonempty] at shared
      exact quiet ⟨stored, other, shared⟩

end

namespace MonitoredMemory

variable {cores : Nat} {history : List MonitorEvent} {state : MonitoredMemory}

theorem perform_summarises (summary : Summarises cores state.monitor history) (call : MonitorCall) :
    Summarises cores (state.perform call).2.monitor (history ++ [(state.perform call).1]) := by
  cases call with
  | exclusiveRead core w addr => exact summarises_exclusiveRead summary core w addr _
  | exclusiveWrite core w addr value =>
      rcases state.monitor.exclusiveWrite_cases state.memory w core addr value with
        ⟨_, _, _, _, _, _, outcome⟩ | ⟨_, outcome⟩
      · simp only [perform, outcome]
        exact summarises_committed summary core w addr
      · simp only [perform, outcome]
        refine summarises_drop summary core (fun c => Iff.rfl) ?_ ?_
        · rintro c a len ⟨committed, _⟩
          cases committed
        · intro c w' a v read
          cases read
  | guardedStore core addr size nonempty store =>
      exact summarises_store summary state.memory (some core) addr nonempty store
  | externalStore addr size nonempty store =>
      exact summarises_store summary state.memory none addr nonempty store
  | clearExclusive core =>
      simp only [perform, ExclusiveMonitor.clear_eq_drop summary.counted]
      refine summarises_drop summary core (fun c => Iff.rfl) (fun c a len => id) ?_
      intro c w a v read
      cases read

theorem performAll_summarises (summary : Summarises cores state.monitor history)
    (calls : List MonitorCall) :
    Summarises cores (state.performAll calls).2.monitor
      (history ++ (state.performAll calls).1) := by
  induction calls generalizing state history with
  | nil => simpa [performAll] using summary
  | cons call calls ih => simpa [performAll] using ih (perform_summarises summary call)

theorem exclusiveWrite_committed_iff (summary : Summarises cores state.monitor history)
    (core : CoreIndex) (w : ExclusiveWidth) (addr : Address) (value : BitVec w.val.bits) :
    (state.monitor.exclusiveWrite state.memory w core addr value).1 ↔
      core < cores ∧ ∃ read, Live history core w addr read ∧
        state.memory.Allows PageFlags.rw addr.toNat w.val.bytes ∧
        state.memory.load w addr = read := by
  rcases state.monitor.exclusiveWrite_cases state.memory w core addr value with
    ⟨observed, after, held, allowed, same, _, outcome⟩ | ⟨refused, outcome⟩
  · obtain ⟨lower, read, rfl, live⟩ := (summary.reserved_iff allowed.1).mp held
    rw [outcome]
    exact iff_of_true rfl ⟨lower, read, live, allowed, same.trans (observation_value w addr read)⟩
  · rw [outcome]
    refine iff_of_false Bool.false_ne_true ?_
    rintro ⟨lower, read, live, allowed, gave⟩
    refine refused _ ((summary.reserved_iff allowed.1).mpr ⟨lower, read, rfl, live⟩) allowed ?_
    exact gave.trans (observation_value w addr read).symm

/-- Whatever cores called before, an exclusive write commits exactly if its
    core's last exclusive read was of these very bytes and nothing came between,
    nobody else stored to one of them since, and memory may be read and written
    there and still gives the value that was read. A committed write changes
    these bytes only, any other none, and the core has no reservation after it. -/
theorem exclusiveWrite_commits_iff (memory : AddressSpace) (cores : Nat) (calls : List MonitorCall)
    (core : CoreIndex) (w : ExclusiveWidth) (addr : Address) (value : BitVec w.val.bits) :
    let start : MonitoredMemory := { memory, monitor := ExclusiveMonitor.ofCores cores }
    let (history, state) := start.performAll calls
    let (committed, after, monitor) :=
      state.monitor.exclusiveWrite state.memory w core addr value
    (committed ↔ core < cores ∧ ∃ read, Live history core w addr read ∧
        state.memory.Allows PageFlags.rw addr.toNat w.val.bytes ∧
        state.memory.load w addr = read) ∧
      (committed → state.memory.Written after addr.toNat (w.val.toBytes value) ∧
        after.load w addr = value) ∧
      (¬ committed → after = state.memory) ∧
      ¬ monitor.isReserved core := by
  intro start
  have summary : Summarises cores (start.performAll calls).2.monitor (start.performAll calls).1 :=
    @performAll_summarises cores [] start (summarises_ofCores cores) calls
  refine ⟨exclusiveWrite_committed_iff summary core w addr value, ?_⟩
  exact ExclusiveMonitor.exclusiveWrite_effect _ _ w core addr value

end MonitoredMemory

end GuestMachine
