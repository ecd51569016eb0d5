import GuestMachine.Proofs.Monitor.History

/-! # The short cut past the table

A monitor that counts no reservation neither looks for one to drop nor for one that a
store breaks. That is sound as long as the count is right, and every operation keeps it
right. Here stores may be for any range, also an empty one.
-/

namespace GuestMachine

namespace ExclusiveMonitor

variable {monitor : ExclusiveMonitor}

/-- A store that consults the table whatever the count says. -/
def storeAndBreakLocked (monitor : ExclusiveMonitor) (memory : AddressSpace)
    (writer : Option CoreIndex) (addr : Address) (size : UInt64)
    (store : AddressSpace → Bool × AddressSpace) : Bool × AddressSpace × ExclusiveMonitor :=
  let (stored, memory) := store memory
  (stored, memory, if stored then monitor.breakOverlapping writer addr size else monitor)

theorem active_drop (counted : monitor.Counted) (core : CoreIndex) :
    (monitor.drop core).active + (if monitor.isReserved core then 1 else 0) = monitor.active := by
  rw [drop]
  split
  · rename_i reserved
    have positive : monitor.active ≠ 0 := by
      intro idle
      rw [isReserved, reservation?_of_idle counted idle] at reserved
      cases reserved
    exact Nat.sub_add_cancel (Nat.one_le_iff_ne_zero.mpr positive)
  · rfl

theorem active_breakOverlapping (counted : monitor.Counted) (writer : Option CoreIndex)
    (addr : Address) (size : UInt64) :
    (monitor.breakOverlapping writer addr size).active +
      (monitor.brokenSlots writer addr size).length = monitor.active := by
  rw [counted_breakOverlapping counted, countP_breakOverlapping, counted]

theorem active_le_coreCount (counted : monitor.Counted) : monitor.active ≤ monitor.coreCount := by
  rw [counted]
  exact List.countP_le_length

theorem breakOverlapping_of_idle (counted : monitor.Counted) (idle : monitor.active = 0)
    (writer : Option CoreIndex) (addr : Address) (size : UInt64) :
    monitor.breakOverlapping writer addr size = monitor := by
  have accounts := active_breakOverlapping counted writer addr size
  have none : monitor.brokenSlots writer addr size = [] := by
    apply List.eq_nil_of_length_eq_zero
    omega
  have slots : (monitor.breakOverlapping writer addr size).reservations =
      monitor.reservations := by
    apply List.ext_getElem List.length_mapIdx
    intro i _ inside
    have kept := List.filter_eq_nil_iff.mp none (monitor.reservations[i], i)
      (List.mk_mem_zipIdx_iff_getElem?.mpr (List.getElem?_eq_getElem inside))
    exact List.getElem_mapIdx.trans (if_neg kept)
  have active : (monitor.breakOverlapping writer addr size).active = monitor.active := by omega
  exact congrArg₂ ExclusiveMonitor.mk slots active

/-- A store consults the table only if the count is not zero, to the same effect. -/
theorem storeAndBreak_eq_locked (counted : monitor.Counted) (memory : AddressSpace)
    (writer : Option CoreIndex) (addr : Address) (size : UInt64)
    (store : AddressSpace → Bool × AddressSpace) :
    monitor.storeAndBreak memory writer addr size store =
      monitor.storeAndBreakLocked memory writer addr size store := by
  rw [storeAndBreak, storeAndBreakLocked]
  by_cases idle : monitor.active = 0
  · simp [idle, breakOverlapping_of_idle counted idle]
  · cases stored : (store memory).1 with
    | false => simp [idle, stored]
    | true => simp [idle, stored]

end ExclusiveMonitor

/-- A call to the monitor, of a core that it may not even know. -/
inductive MonitorRequest where
  | exclusiveRead (core : CoreIndex) (w : ExclusiveWidth) (addr : Address)
  | exclusiveWrite (core : CoreIndex) (w : ExclusiveWidth) (addr : Address)
      (value : BitVec w.val.bits)
  | guardedStore (core : CoreIndex) (addr : Address) (size : UInt64)
      (store : AddressSpace → Bool × AddressSpace)
  | externalStore (addr : Address) (size : UInt64) (store : AddressSpace → Bool × AddressSpace)
  | clearExclusive (core : CoreIndex)

namespace MonitoredMemory

def serve (state : MonitoredMemory) : MonitorRequest → MonitorEvent × MonitoredMemory
  | .exclusiveRead core w addr => state.perform (.exclusiveRead core w addr)
  | .exclusiveWrite core w addr value => state.perform (.exclusiveWrite core w addr value)
  | .guardedStore core addr size store =>
      let (stored, memory, monitor) := state.monitor.guardedStore state.memory core addr size store
      (.store (some core) addr size stored, { memory, monitor })
  | .externalStore addr size store =>
      let (stored, memory, monitor) := state.monitor.externalStore state.memory addr size store
      (.store none addr size stored, { memory, monitor })
  | .clearExclusive core => state.perform (.clearExclusive core)

/-- The same without the short cut. -/
def serveLocked (state : MonitoredMemory) : MonitorRequest → MonitorEvent × MonitoredMemory
  | .guardedStore core addr size store =>
      let (stored, memory, monitor) :=
        state.monitor.storeAndBreakLocked state.memory (some core) addr size store
      (.store (some core) addr size stored, { memory, monitor })
  | .externalStore addr size store =>
      let (stored, memory, monitor) :=
        state.monitor.storeAndBreakLocked state.memory none addr size store
      (.store none addr size stored, { memory, monitor })
  | .clearExclusive core =>
      (.clearExclusive core, { state with monitor := state.monitor.drop core })
  | request => state.serve request

/-- Serve one request after the other. -/
def serveAll (serve : MonitoredMemory → MonitorRequest → MonitorEvent × MonitoredMemory)
    (state : MonitoredMemory) : List MonitorRequest → List MonitorEvent × MonitoredMemory
  | [] => ([], state)
  | request :: requests =>
      let (event, state) := serve state request
      let (events, state) := serveAll serve state requests
      (event :: events, state)

open ExclusiveMonitor

theorem serve_counted {state : MonitoredMemory} (counted : state.monitor.Counted)
    (request : MonitorRequest) : (state.serve request).2.monitor.Counted := by
  cases request with
  | exclusiveRead core w addr => exact counted_reserve counted core _
  | exclusiveWrite core w addr value =>
      rw [serve, perform]
      have dropped := counted_drop counted core
      rcases state.monitor.exclusiveWrite_cases state.memory w core addr value with
        ⟨_, _, _, _, _, _, outcome⟩ | ⟨_, outcome⟩
      · simpa only [outcome] using counted_breakOverlapping dropped (some core) addr w.val.size
      · simpa only [outcome] using dropped
  | guardedStore core addr size store =>
      obtain ⟨after, outcome, -, kept, -⟩ :=
        storeAndBreak_spec counted state.memory (some core) addr size store
      simpa only [serve, guardedStore, outcome] using kept
  | externalStore addr size store =>
      obtain ⟨after, outcome, -, kept, -⟩ :=
        storeAndBreak_spec counted state.memory none addr size store
      simpa only [serve, externalStore, outcome] using kept
  | clearExclusive core =>
      rw [serve, perform, clear_eq_drop counted]
      exact counted_drop counted core

theorem serveLocked_eq {state : MonitoredMemory} (counted : state.monitor.Counted)
    (request : MonitorRequest) : state.serveLocked request = state.serve request := by
  cases request with
  | exclusiveRead | exclusiveWrite => rfl
  | guardedStore core addr size store =>
      rw [serve, serveLocked, guardedStore, storeAndBreak_eq_locked counted]
  | externalStore addr size store =>
      rw [serve, serveLocked, externalStore, storeAndBreak_eq_locked counted]
  | clearExclusive core => rw [serve, serveLocked, perform, clear_eq_drop counted]

theorem serveAll_counted {state : MonitoredMemory} (counted : state.monitor.Counted)
    (requests : List MonitorRequest) : (serveAll serve state requests).2.monitor.Counted := by
  induction requests generalizing state with
  | nil => exact counted
  | cons request requests ih => exact ih (serve_counted counted request)

theorem serveAll_locked {state : MonitoredMemory} (counted : state.monitor.Counted)
    (requests : List MonitorRequest) :
    serveAll serveLocked state requests = serveAll serve state requests := by
  induction requests generalizing state with
  | nil => rfl
  | cons request requests ih =>
      rw [serveAll, serveAll, serveLocked_eq counted]
      simp only [ih (serve_counted counted request)]

/-- Whatever a monitor was asked, by whichever cores, its count is the number of its
    reservations. No operation takes more off it than it holds, and at zero there is
    nothing to drop and nothing to break: with or without the short cut, the answers, the
    memory and the table are the same. -/
theorem short_cut_sound (memory : AddressSpace) (cores : Nat) (requests : List MonitorRequest) :
    let start : MonitoredMemory := { memory, monitor := ofCores cores }
    let monitor := (serveAll serve start requests).2.monitor
    monitor.active = monitor.reservations.countP Option.isSome ∧
      monitor.active ≤ monitor.coreCount ∧
      (∀ core, (monitor.drop core).active + (if monitor.isReserved core then 1 else 0) =
        monitor.active) ∧
      (∀ writer addr size, (monitor.breakOverlapping writer addr size).active +
        (monitor.brokenSlots writer addr size).length = monitor.active) ∧
      (∀ core, monitor.clear core = monitor.drop core) ∧
      (∀ memory writer addr size store, monitor.storeAndBreak memory writer addr size store =
        monitor.storeAndBreakLocked memory writer addr size store) ∧
      serveAll serveLocked start requests = serveAll serve start requests := by
  intro start monitor
  have empty : start.monitor.Counted := counted_ofCores cores
  have counted : monitor.Counted := serveAll_counted empty requests
  exact ⟨counted, active_le_coreCount counted, active_drop counted,
    active_breakOverlapping counted, clear_eq_drop counted,
    storeAndBreak_eq_locked counted, serveAll_locked empty requests⟩

end MonitoredMemory

end GuestMachine
