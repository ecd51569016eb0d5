import GuestMachine.Proofs.Board.HaltRequests
import GuestMachine.Proofs.Monitor.Reservations

/-! # The reservation of one core

What a core has reserved at the monitor it is wired to, as seen from the board.
Only its own load-exclusive can give it a reservation; whatever else happens
leaves the one it has or takes it away.
-/

namespace GuestMachine

open A64

namespace ExclusiveMonitor

variable {monitor : ExclusiveMonitor} {index : CoreIndex}

/-- Nothing in between gave the core a reservation. -/
structure ReservesNothing (index : CoreIndex) (before after : ExclusiveMonitor) : Prop where
  counted : before.Counted → after.Counted
  reservation : before.Counted → ∀ r, after.reservation? index = some r →
    before.reservation? index = some r

theorem storeAndBreak_reservesNothing (memory : AddressSpace) (writer : Option CoreIndex)
    (addr : Address) (size : UInt64) (store : AddressSpace → Bool × AddressSpace) :
    monitor.ReservesNothing index (monitor.storeAndBreak memory writer addr size store).2.2 := by
  have spec (counted : monitor.Counted) :=
    monitor.storeAndBreak_spec counted memory writer addr size store
  constructor
  · intro counted
    obtain ⟨after, outcome, _, counted, _⟩ := spec counted
    rw [outcome]
    exact counted
  · intro counted r held
    obtain ⟨after, outcome, _, _, kept⟩ := spec counted
    rw [outcome] at held
    exact ((kept index r).mp held).1

theorem exclusiveRead_reservesNothing {reader : CoreIndex} (other : reader ≠ index)
    (memory : AddressSpace) (w : Width) (addr : Address) :
    monitor.ReservesNothing index (monitor.exclusiveRead memory w reader addr).2 where
  counted counted := counted_reserve counted reader _
  reservation _ r held := by
    change (monitor.reserve reader _).reservation? index = some r at held
    rw [reservation?_reserve, if_neg fun both => other both.1.symm] at held
    exact held

theorem drop_reservesNothing (writer : CoreIndex) :
    monitor.ReservesNothing index (monitor.drop writer) where
  counted counted := counted_drop counted writer
  reservation _ r held := by
    rw [reservation?_drop] at held
    split at held
    · cases held
    · exact held

theorem exclusiveWrite_reservesNothing (memory : AddressSpace) (w : Width) (writer : CoreIndex)
    (addr : Address) (value : BitVec w.bits) :
    monitor.ReservesNothing index (monitor.exclusiveWrite memory w writer addr value).2.2 := by
  have dropped : monitor.ReservesNothing index (monitor.drop writer) :=
    monitor.drop_reservesNothing writer
  rcases monitor.exclusiveWrite_cases memory w writer addr value with
    ⟨_, _, _, _, _, _, outcome⟩ | ⟨_, outcome⟩
  · rw [outcome]
    refine ⟨fun counted => ?_, fun counted r held => ?_⟩
    · exact counted_breakOverlapping (dropped.counted counted) _ _ _
    · rw [reservation?_breakOverlapping_iff] at held
      exact dropped.reservation counted r held.1
  · rw [outcome]
    exact dropped

theorem clear_reservesNothing (core : CoreIndex) :
    monitor.ReservesNothing index (monitor.clear core) where
  counted counted := by
    rw [clear_eq_drop counted]
    exact counted_drop counted core
  reservation counted := by
    rw [clear_eq_drop counted]
    exact (monitor.drop_reservesNothing core).reservation counted

end ExclusiveMonitor

theorem CpuManager.monitorOf?_eq_some_iff {manager : CpuManager} {handle : MonitorHandle}
    {monitor : ExclusiveMonitor} :
    manager.monitorOf? handle = some monitor ↔
      handle.manager = manager.id ∧ manager.monitor = some (handle.serial, monitor) := by
  rw [monitorOf?, owns]
  cases manager.monitor with
  | none => simp
  | some live =>
      obtain ⟨serial, here⟩ := live
      by_cases foreign : handle.manager = manager.id
      · by_cases stale : serial = handle.serial <;> simp [foreign, stale]
      · simp [foreign]

namespace Board

variable {board after : Board} {index : CoreIndex} {handle : Option MonitorHandle}

/-- The live monitor, if there is one, counts what it holds. -/
def Counted (board : Board) : Prop :=
  ∀ live, board.manager.monitor = some live → live.2.Counted

/-- What a core with this handle has reserved. -/
def reservation? (board : Board) (index : CoreIndex) (handle : Option MonitorHandle) :
    Option Reservation :=
  (handle.bind board.manager.monitorOf?).bind (·.reservation? index)

/-- Nothing in between gave the core a reservation. -/
structure ReservesNothing (index : CoreIndex) (handle : Option MonitorHandle)
    (before after : Board) : Prop where
  counted : before.Counted → after.Counted
  reservation : before.Counted → ∀ r, after.reservation? index handle = some r →
    before.reservation? index handle = some r

/-- Only the handle of the live monitor leads to a reservation. -/
theorem reservation?_eq_some_iff {r : Reservation} :
    board.reservation? index handle = some r ↔
      ∃ wired monitor, handle = some wired ∧ wired.manager = board.manager.id ∧
        board.manager.monitor = some (wired.serial, monitor) ∧
        monitor.reservation? index = some r := by
  rw [reservation?]
  cases handle with
  | none => simp
  | some wired => simp [Option.bind_eq_some_iff, CpuManager.monitorOf?_eq_some_iff, and_assoc]

namespace ReservesNothing

theorem refl (index : CoreIndex) (handle : Option MonitorHandle) (board : Board) :
    ReservesNothing index handle board board :=
  ⟨id, fun _ _ => id⟩

theorem trans {first second third : Board} (step : ReservesNothing index handle first second)
    (next : ReservesNothing index handle second third) :
    ReservesNothing index handle first third :=
  ⟨next.counted ∘ step.counted, fun counted r held =>
    step.reservation counted r (next.reservation (step.counted counted) r held)⟩

/-- Whatever does not touch the monitor. -/
theorem of_same (id : after.manager.id = board.manager.id)
    (monitor : after.manager.monitor = board.manager.monitor) :
    ReservesNothing index handle board after where
  counted counted live found := counted live (monitor ▸ found)
  reservation _ r held := by
    rw [reservation?_eq_some_iff, id, monitor] at held
    exact reservation?_eq_some_iff.mpr held

/-- Whatever some handle's owner did to the monitor. -/
theorem of_monitor {acting : Option MonitorHandle} {monitor monitor' : ExclusiveMonitor}
    (live : acting.bind board.manager.monitorOf? = some monitor)
    (step : monitor.ReservesNothing index monitor') (id : after.manager.id = board.manager.id)
    (set : after.manager.monitor = (board.manager.setMonitor monitor').monitor) :
    ReservesNothing index handle board after := by
  obtain ⟨owner, _, live⟩ := Option.bind_eq_some_iff.mp live
  obtain ⟨_, found⟩ := CpuManager.monitorOf?_eq_some_iff.mp live
  have now : after.manager.monitor = some (owner.serial, monitor') := by
    rw [set, CpuManager.setMonitor, found]
    rfl
  constructor
  · intro counted last same
    cases now.symm.trans same
    exact step.counted (counted _ found)
  · intro counted r held
    rw [reservation?_eq_some_iff] at held ⊢
    obtain ⟨wired, last, names, manager, same, held⟩ := held
    injection now.symm.trans same with same
    injection same with serial same
    subst same
    exact ⟨wired, monitor, names, manager.trans id, serial ▸ found,
      step.reservation (counted _ found) r held⟩

end ReservesNothing

theorem publish_reservesNothing (board : Board) (addr : Address) (size : UInt64) :
    ReservesNothing index handle board (board.publish addr size) :=
  .of_same rfl rfl

theorem storeThrough_reservesNothing (board : Board) (acting : Option MonitorHandle)
    {guarded : ExclusiveMonitor → Bool × AddressSpace × ExclusiveMonitor}
    (step : ∀ monitor : ExclusiveMonitor, monitor.ReservesNothing index (guarded monitor).2.2)
    (direct : Bool × AddressSpace) :
    ReservesNothing index handle board (board.storeThrough acting guarded direct).2 := by
  rw [storeThrough]
  split
  · rename_i monitor live
    exact .of_monitor live (step monitor) rfl rfl
  · exact .of_same rfl rfl

theorem coreStore_reservesNothing (board : Board) (core : CoreIndex)
    (acting : Option MonitorHandle) (w : Width) (addr : Address) (value : BitVec w.bits) :
    ReservesNothing index handle board (board.coreStore core acting w addr value).2 := by
  rw [coreStore]
  dsimp only
  have stored : ReservesNothing index handle board (board.storeThrough acting
      (fun monitor => monitor.guardedStore board.memory core addr w.size
        fun memory => memory.store w addr value)
      (board.memory.store w addr value)).2 :=
    storeThrough_reservesNothing _ _ (fun _ => ExclusiveMonitor.storeAndBreak_reservesNothing ..) _
  split
  · exact stored.trans (publish_reservesNothing ..)
  · exact stored

theorem externalStore_reservesNothing (board : Board) (acting : Option MonitorHandle)
    (addr : Address) (data : List UInt8) :
    ReservesNothing index handle board (board.externalStore acting addr data).2 := by
  rw [externalStore]
  dsimp only
  have stored : ReservesNothing index handle board (board.storeThrough acting
      (fun monitor => monitor.externalStore board.memory addr (UInt64.ofNat data.length)
        fun memory => memory.writeBlock addr data)
      (board.memory.writeBlock addr data)).2 :=
    storeThrough_reservesNothing _ _ (fun _ => ExclusiveMonitor.storeAndBreak_reservesNothing ..) _
  split
  · exact stored.trans (publish_reservesNothing ..)
  · exact stored

theorem coreExclusiveRead_reservesNothing {reader : CoreIndex} (other : reader ≠ index)
    (board : Board) (acting : Option MonitorHandle) (w : Width) (addr : Address) :
    ReservesNothing index handle board (board.coreExclusiveRead reader acting w addr).2 := by
  rw [coreExclusiveRead]
  split
  · rename_i monitor live
    exact .of_monitor live (monitor.exclusiveRead_reservesNothing other board.memory w addr) rfl rfl
  · exact .refl ..

theorem coreExclusiveWrite_reservesNothing (board : Board) (writer : CoreIndex)
    (acting : Option MonitorHandle) (w : Width) (addr : Address) (value : BitVec w.bits) :
    ReservesNothing index handle board
      (board.coreExclusiveWrite writer acting w addr value).2 := by
  rw [coreExclusiveWrite]
  split
  · rename_i monitor live
    have written : monitor.ReservesNothing index
        (monitor.exclusiveWrite board.memory w writer addr value).2.2 :=
      monitor.exclusiveWrite_reservesNothing ..
    dsimp only
    split
    · exact .of_monitor live written rfl rfl
    · exact .of_monitor live written rfl rfl
  · exact .refl ..

theorem clearExclusive_reservesNothing (board : Board) (core : CoreIndex)
    (acting : Option MonitorHandle) :
    ReservesNothing index handle board (board.clearExclusive core acting) := by
  rw [clearExclusive]
  split
  · rename_i monitor live
    exact .of_monitor live (monitor.clear_reservesNothing core) rfl rfl
  · exact .refl ..

theorem atBlockBoundary_reservesNothing (board : Board) (line : Nat) :
    ReservesNothing index handle board (board.atBlockBoundary line) := by
  rw [atBlockBoundary]
  dsimp only
  split <;> exact .of_same rfl rfl

end Board

/-- A callback of another core. -/
theorem Core.Does.reservesNothing {core : Core} {index : CoreIndex}
    {handle : Option MonitorHandle} {board after : Board} (other : core.index ≠ index)
    (does : core.Does board after) : Board.ReservesNothing index handle board after := by
  cases does with
  | nothing => exact .refl ..
  | store => exact Board.coreStore_reservesNothing ..
  | exclusiveRead => exact Board.coreExclusiveRead_reservesNothing other ..
  | exclusiveWrite => exact Board.coreExclusiveWrite_reservesNothing ..
  | clearExclusive => exact Board.clearExclusive_reservesNothing ..
  | request => exact .of_same rfl rfl
  | boundary => exact Board.atBlockBoundary_reservesNothing ..
  | drain => exact .of_same rfl rfl
  | look => exact .of_same rfl rfl

namespace Board

variable {board after : Board} {index : CoreIndex} {handle : Option MonitorHandle}

/-- The handle leads to the monitor that was set. -/
theorem reservation?_of_set {monitor monitor' : ExclusiveMonitor}
    (live : handle.bind board.manager.monitorOf? = some monitor)
    (id : after.manager.id = board.manager.id)
    (set : after.manager.monitor = (board.manager.setMonitor monitor').monitor) :
    after.reservation? index handle = monitor'.reservation? index := by
  obtain ⟨owner, rfl, live⟩ := Option.bind_eq_some_iff.mp live
  obtain ⟨manager, found⟩ := CpuManager.monitorOf?_eq_some_iff.mp live
  have now : after.manager.monitorOf? owner = some monitor' := by
    rw [CpuManager.monitorOf?_eq_some_iff, id, set, CpuManager.setMonitor, found]
    exact ⟨manager, rfl⟩
  rw [reservation?, Option.bind_some, now, Option.bind_some]

theorem reservation?_of_unwired (unwired : handle.bind board.manager.monitorOf? = none) :
    board.reservation? index handle = none := by
  rw [reservation?, unwired, Option.bind_none]

theorem counted_of_live {monitor : ExclusiveMonitor} (counted : board.Counted)
    (live : handle.bind board.manager.monitorOf? = some monitor) : monitor.Counted := by
  obtain ⟨_, _, live⟩ := Option.bind_eq_some_iff.mp live
  exact counted _ (CpuManager.monitorOf?_eq_some_iff.mp live).2

theorem reservation?_clearExclusive (counted : board.Counted) :
    (board.clearExclusive index handle).reservation? index handle = none := by
  rw [clearExclusive]
  split
  · rename_i monitor live
    have cleared : (monitor.clear index).reservation? index = none := by
      rw [ExclusiveMonitor.clear_eq_drop (counted_of_live counted live),
        ExclusiveMonitor.reservation?_drop, if_pos rfl]
    refine Eq.trans ?_ cleared
    exact reservation?_of_set live rfl rfl
  · rename_i unwired
    exact reservation?_of_unwired unwired

/-- A load-exclusive reserves its own bytes, if any. -/
theorem reservation?_coreExclusiveRead {w : Width} {addr : Address} {r : Reservation}
    (held : (board.coreExclusiveRead index handle w addr).2.reservation? index handle = some r) :
    r.addr = addr ∧ r.size = w.size := by
  rw [coreExclusiveRead] at held
  split at held
  · rename_i monitor live
    have reserved : (monitor.exclusiveRead board.memory w index addr).2.reservation? index =
        some r := by
      refine Eq.trans (Eq.symm ?_) held
      exact reservation?_of_set live rfl rfl
    change (monitor.reserve index _).reservation? index = some r at reserved
    rw [ExclusiveMonitor.reservation?_reserve] at reserved
    split at reserved
    · cases reserved
      exact ⟨rfl, rfl⟩
    · rename_i outside
      exact absurd ⟨rfl, ExclusiveMonitor.lt_coreCount reserved⟩ outside
  · rename_i unwired
    rw [reservation?_of_unwired unwired] at held
    cases held

theorem counted_coreExclusiveRead (counted : board.Counted) (reader : CoreIndex)
    (acting : Option MonitorHandle) (w : Width) (addr : Address) :
    (board.coreExclusiveRead reader acting w addr).2.Counted :=
  -- Seen from any other core nothing is reserved, and the count is the same for all.
  have other : reader ≠ reader + 1 := Nat.ne_of_lt (Nat.lt_succ_self reader)
  have read : ReservesNothing (reader + 1) none board
      (board.coreExclusiveRead reader acting w addr).2 :=
    coreExclusiveRead_reservesNothing other ..
  read.counted counted

theorem reservation?_coreExclusiveWrite (w : Width) (addr : Address) (value : BitVec w.bits) :
    (board.coreExclusiveWrite index handle w addr value).2.reservation? index handle = none := by
  rw [coreExclusiveWrite]
  split
  · rename_i monitor live
    have used := (monitor.exclusiveWrite_effect board.memory w index addr value).2.2
    rw [ExclusiveMonitor.isReserved, Option.not_isSome_iff_eq_none] at used
    refine Eq.trans ?_ used
    dsimp only
    split <;> exact reservation?_of_set live rfl rfl
  · rename_i unwired
    exact reservation?_of_unwired unwired

/-- A store-exclusive commits only with a reservation of exactly its bytes. -/
theorem reservation?_of_committed {w : Width} {addr : Address} {value : BitVec w.bits}
    (committed : (board.coreExclusiveWrite index handle w addr value).1) :
    ∃ observed, board.reservation? index handle = some ⟨addr, w.size, observed⟩ := by
  rw [coreExclusiveWrite] at committed
  split at committed
  · rename_i monitor live
    rcases monitor.exclusiveWrite_cases board.memory w index addr value with
      ⟨observed, _, held, _⟩ | ⟨_, refused⟩
    · refine ⟨observed, ?_⟩
      rw [reservation?, live]
      exact held
    · rw [refused] at committed
      cases committed
  · cases committed

/-- What a service call may make of the board: memory may change, halts may be asked
    for and reservations lost, but no request is taken and nothing is reserved. -/
structure Served (before after : Board) : Prop
    extends HaltLines.Grow before.halts after.halts where
  reserves : ∀ index handle, ReservesNothing index handle before after

namespace Served

theorem refl (board : Board) : Served board board :=
  ⟨.refl _, fun _ _ => .refl ..⟩

theorem trans {first second third : Board} (step : Served first second)
    (next : Served second third) : Served first third :=
  ⟨step.toGrow.trans next.toGrow, fun index handle =>
    (step.reserves index handle).trans (next.reserves index handle)⟩

theorem requestHalt (board : Board) (line : Nat) (reason : HaltReason) :
    Served board (board.requestHalt line reason.bit) :=
  ⟨.request _ line reason, fun _ _ => .of_same rfl rfl⟩

theorem setMemory (board : Board) (memory : AddressSpace) : Served board { board with memory } :=
  ⟨.refl _, fun _ _ => .of_same rfl rfl⟩

theorem externalStore (board : Board) (acting : Option MonitorHandle) (addr : Address)
    (data : List UInt8) : Served board (board.externalStore acting addr data).2 :=
  ⟨halts_externalStore .. ▸ .refl _, fun _ _ => externalStore_reservesNothing ..⟩

end Served

end Board

/-- No service call reserves anything, for whatever core. -/
def OperatingSystem.ReservesNothing (os : OperatingSystem κ) : Prop :=
  ∀ caller number, Exec.Steps
    (fun before after => ∀ index handle,
      Board.ReservesNothing index handle before.board after.board)
    (os.serviceCall caller number)

end GuestMachine
