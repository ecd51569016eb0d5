import Mathlib.Logic.Function.Basic
import GuestMachine.Proofs.Board.MemoryAlone

/-! # Who owns a monitor

Several managers over one memory create and destroy monitors and build cores,
while guest code uses them. Which monitor is live, and which cores reach it, is
read off a log of what was done. Serial numbers make a handle of a destroyed
monitor useless for good.
-/

namespace GuestMachine

/-- An access of guest code, or of the operating system on its behalf, through
    whatever handle. -/
inductive GuestAccess where
  | store (core : CoreIndex) (handle : Option MonitorHandle) (w : Width) (addr : Address)
      (value : BitVec w.bits)
  | exclusiveRead (core : CoreIndex) (handle : Option MonitorHandle) (w : Width) (addr : Address)
  | exclusiveWrite (core : CoreIndex) (handle : Option MonitorHandle) (w : Width) (addr : Address)
      (value : BitVec w.bits)
  | clearExclusive (core : CoreIndex) (handle : Option MonitorHandle)
  | externalStore (handle : Option MonitorHandle) (addr : Address) (data : List UInt8)
  /-- Anything that changes memory and nothing else, such as mapping a page. -/
  | remap (change : AddressSpace → AddressSpace)

def Board.access (board : Board) : GuestAccess → Board
  | .store core handle w addr value => (board.coreStore core handle w addr value).2
  | .exclusiveRead core handle w addr => (board.coreExclusiveRead core handle w addr).2
  | .exclusiveWrite core handle w addr value => (board.coreExclusiveWrite core handle w addr value).2
  | .clearExclusive core handle => board.clearExclusive core handle
  | .externalStore handle addr data => (board.externalStore handle addr data).2
  | .remap change => { board with memory := change board.memory }

/-- All managers of a program, by identity, with the memory that they share. -/
structure Fleet where
  board : Board
  managers : Nat → CpuManager

inductive FleetCall where
  | createMonitor (manager : Nat) (cores : Nat)
  | destroyMonitor (manager : Nat) (handle : MonitorHandle)
  | createCore (manager : Nat) (handle : Option MonitorHandle) (index : CoreIndex)
      (maxBlockInstructions : Nat)
  | access (manager : Nat) (access : GuestAccess)

inductive FleetEvent where
  | monitorCreated (manager : Nat) (handle : MonitorHandle)
  /-- There was a live one. -/
  | monitorRefused (manager : Nat)
  | monitorDestroyed (manager : Nat) (handle : MonitorHandle)
  | destroyRefused (manager : Nat) (handle : MonitorHandle)
  | coreCreated (manager : Nat) (handle : Option MonitorHandle) (core : Core)
  | coreRefused (manager : Nat) (error : CpuError)
  | accessed

namespace Fleet

/-- Managers without a monitor. -/
def ofMemory (memory : AddressSpace) : Fleet :=
  { board := { memory }, managers := fun id => { id } }

/-- What the cores of one manager see. -/
def boardOf (fleet : Fleet) (manager : Nat) : Board :=
  { fleet.board with manager := fleet.managers manager }

def setBoard (fleet : Fleet) (manager : Nat) (board : Board) : Fleet :=
  { board, managers := Function.update fleet.managers manager board.manager }

def setManager (fleet : Fleet) (id : Nat) (manager : CpuManager) : Fleet :=
  { fleet with managers := Function.update fleet.managers id manager }

def perform (fleet : Fleet) : FleetCall → FleetEvent × Fleet
  | .createMonitor id cores =>
      match (fleet.managers id).createMonitor cores with
      | some (handle, manager) => (.monitorCreated id handle, fleet.setManager id manager)
      | none => (.monitorRefused id, fleet)
  | .destroyMonitor id handle =>
      match (fleet.managers id).destroyMonitor handle with
      | (true, manager) => (.monitorDestroyed id handle, fleet.setManager id manager)
      | (false, manager) => (.destroyRefused id handle, fleet.setManager id manager)
  | .createCore id handle index maxBlockInstructions =>
      match Core.create (fleet.boardOf id) handle index maxBlockInstructions with
      | .ok (core, board) => (.coreCreated id handle core, fleet.setBoard id board)
      | .error error => (.coreRefused id error, fleet)
  | .access id access => (.accessed, fleet.setBoard id ((fleet.boardOf id).access access))

/-- The log that a sequence of calls makes, and the managers it ends in. -/
def performAll (fleet : Fleet) : List FleetCall → List FleetEvent × Fleet
  | [] => ([], fleet)
  | call :: calls =>
      let (event, fleet) := fleet.perform call
      let (events, fleet) := fleet.performAll calls
      (event :: events, fleet)

end Fleet

/-- The manager made this monitor and has not destroyed it since. -/
def MonitorLive (log : List FleetEvent) (manager : Nat) (handle : MonitorHandle) : Prop :=
  ∃ before after, log = before ++ .monitorCreated manager handle :: after ∧
    .monitorDestroyed manager handle ∉ after

theorem not_monitorLive_nil {manager : Nat} {handle : MonitorHandle} :
    ¬ MonitorLive [] manager handle := by
  rintro ⟨before, after, whole, _⟩
  simp at whole

theorem monitorLive_append_iff {log : List FleetEvent} {event : FleetEvent} {manager : Nat}
    {handle : MonitorHandle} :
    MonitorLive (log ++ [event]) manager handle ↔
      event = .monitorCreated manager handle ∨
        MonitorLive log manager handle ∧ event ≠ .monitorDestroyed manager handle := by
  constructor
  · rintro ⟨before, after, whole, kept⟩
    rcases append_singleton_eq_iff.mp whole with ⟨_, same, _⟩ | ⟨between, same, rfl⟩
    · exact .inl same
    · rw [List.mem_append, List.mem_singleton, not_or] at kept
      exact .inr ⟨⟨before, between, same, kept.1⟩, Ne.symm kept.2⟩
  · rintro (rfl | ⟨⟨before, after, rfl, kept⟩, other⟩)
    · exact ⟨log, [], rfl, by simp⟩
    · exact ⟨before, after ++ [event], by simp, by simp [kept, Ne.symm other]⟩

theorem MonitorLive.created {log : List FleetEvent} {manager : Nat} {handle : MonitorHandle}
    (live : MonitorLive log manager handle) : .monitorCreated manager handle ∈ log := by
  obtain ⟨before, after, rfl, _⟩ := live
  simp

namespace CpuManager

variable {before after : CpuManager}

/-- The same monitor is live, whatever it has reserved. -/
structure SameOwner (before after : CpuManager) : Prop where
  id : after.id = before.id
  created : after.created = before.created
  serial : after.monitor.map Prod.fst = before.monitor.map Prod.fst

theorem SameOwner.refl (manager : CpuManager) : manager.SameOwner manager :=
  ⟨rfl, rfl, rfl⟩

theorem owns_iff {manager : CpuManager} {handle : MonitorHandle} :
    manager.owns handle ↔
      handle.manager = manager.id ∧ manager.monitor.map Prod.fst = some handle.serial := by
  rw [owns, Bool.and_eq_true, beq_iff_eq]
  cases manager.monitor with
  | none => simp
  | some live => simp

theorem SameOwner.owns_iff (same : SameOwner before after) {handle : MonitorHandle} :
    after.owns handle ↔ before.owns handle := by
  rw [CpuManager.owns_iff, CpuManager.owns_iff, same.id, same.serial]

theorem setMonitor_sameOwner (manager : CpuManager) (monitor : ExclusiveMonitor) :
    manager.SameOwner (manager.setMonitor monitor) := by
  refine ⟨rfl, rfl, ?_⟩
  rw [setMonitor, Option.map_map]
  rfl

theorem isSome_monitorOf? {manager : CpuManager} {handle : MonitorHandle} :
    (manager.monitorOf? handle).isSome ↔ manager.owns handle := by
  rw [monitorOf?]
  split
  · rename_i owned
    obtain ⟨_, serial⟩ := owns_iff.mp owned
    obtain ⟨live, found, _⟩ := Option.map_eq_some_iff.mp serial
    simp [found, owned]
  · rename_i foreign
    simp [foreign]

end CpuManager

namespace CpuManager

/-- A monitor is created if there is none, under a serial number not used yet. -/
theorem createMonitor_cases (manager : CpuManager) (cores : Nat) :
    (manager.monitor = none ∧ ∃ made,
        manager.createMonitor cores =
            some ({ manager := manager.id, serial := manager.created }, made) ∧
          made.id = manager.id ∧ made.created = manager.created + 1 ∧
          made.monitor.map Prod.fst = some manager.created) ∨
      ∃ live, manager.monitor = some live ∧ manager.createMonitor cores = none := by
  rw [createMonitor]
  cases manager.monitor with
  | none => exact .inl ⟨rfl, _, rfl, rfl, rfl, rfl⟩
  | some live => exact .inr ⟨live, rfl, rfl⟩

end CpuManager

theorem Core.hasMonitor_iff {core : Core} {board : Board} :
    core.hasMonitor board ↔ ∃ handle, core.monitor = some handle ∧ board.manager.owns handle := by
  rw [hasMonitor]
  cases core.monitor with
  | none => simp
  | some handle => simp [CpuManager.isSome_monitorOf?]

namespace Board

open CpuManager (SameOwner setMonitor_sameOwner)

theorem publish_sameOwner {board : Board} {manager : CpuManager}
    (same : manager.SameOwner board.manager) (addr : Address) (size : UInt64) :
    manager.SameOwner (board.publish addr size).manager :=
  ⟨same.id, same.created, same.serial⟩

theorem storeThrough_sameOwner (board : Board) (handle : Option MonitorHandle)
    (guarded : ExclusiveMonitor → Bool × AddressSpace × ExclusiveMonitor)
    (direct : Bool × AddressSpace) :
    board.manager.SameOwner (board.storeThrough handle guarded direct).2.manager := by
  rw [storeThrough]
  split
  · exact setMonitor_sameOwner ..
  · exact .refl _

/-- Accesses leave the managers their monitors. -/
theorem access_sameOwner (board : Board) (access : GuestAccess) :
    board.manager.SameOwner (board.access access).manager := by
  cases access with
  | store core handle w addr value =>
      rw [Board.access, coreStore]
      dsimp only
      split
      · exact publish_sameOwner (storeThrough_sameOwner ..) addr w.size
      · exact storeThrough_sameOwner ..
  | exclusiveRead core handle w addr =>
      rw [Board.access, coreExclusiveRead]
      split
      · exact setMonitor_sameOwner ..
      · exact .refl _
  | exclusiveWrite core handle w addr value =>
      rw [Board.access, coreExclusiveWrite]
      split
      · dsimp only
        split
        · exact publish_sameOwner (setMonitor_sameOwner ..) addr w.size
        · exact setMonitor_sameOwner ..
      · exact .refl _
  | clearExclusive core handle =>
      rw [Board.access, clearExclusive]
      split
      · exact setMonitor_sameOwner ..
      · exact .refl _
  | externalStore handle addr data =>
      rw [Board.access, Board.externalStore]
      dsimp only
      split
      · exact publish_sameOwner (storeThrough_sameOwner ..) addr _
      · exact storeThrough_sameOwner ..
  | remap change => exact .refl _

end Board

namespace Fleet

variable {fleet : Fleet} {log : List FleetEvent}

/-- The log is about these managers: each of them owns exactly the monitor that
    is live by the log, and serial numbers yet to come are not in it. -/
structure Logged (log : List FleetEvent) (fleet : Fleet) : Prop where
  id : ∀ manager, (fleet.managers manager).id = manager
  owns_iff : ∀ manager handle, (fleet.managers manager).owns handle ↔ MonitorLive log manager handle
  issued : ∀ manager handle, .monitorCreated manager handle ∈ log →
    handle.manager = manager ∧ handle.serial < (fleet.managers manager).created
  gone : ∀ manager handle, .monitorDestroyed manager handle ∈ log →
    .monitorCreated manager handle ∈ log ∧ ¬ MonitorLive log manager handle
  cores : ∀ before after manager handle core,
    log = before ++ .coreCreated manager handle core :: after → ∀ wired,
      core.monitor = some wired ↔ handle = some wired ∧ MonitorLive before manager wired

theorem logged_ofMemory (memory : AddressSpace) : Logged [] (ofMemory memory) where
  id _ := rfl
  owns_iff manager handle := by
    refine iff_of_false (fun owned => ?_) not_monitorLive_nil
    have nothing := (CpuManager.owns_iff.mp owned).2
    cases nothing
  issued _ _ member := by cases member
  gone _ _ member := by cases member
  cores before after manager handle core whole := by simp at whole

/-- One more event that makes and destroys no monitor. -/
theorem Logged.quietly (logged : Logged log fleet) {event : FleetEvent} {after : Fleet}
    (none : ∀ manager handle, event ≠ .monitorCreated manager handle)
    (kept : ∀ manager handle, event ≠ .monitorDestroyed manager handle)
    (same : ∀ manager, (fleet.managers manager).SameOwner (after.managers manager))
    (core : ∀ manager handle core, event = .coreCreated manager handle core → ∀ wired,
      core.monitor = some wired ↔ handle = some wired ∧ MonitorLive log manager wired) :
    Logged (log ++ [event]) after := by
  have live (manager : Nat) (handle : MonitorHandle) :
      MonitorLive (log ++ [event]) manager handle ↔ MonitorLive log manager handle := by
    rw [monitorLive_append_iff]
    simp [none manager handle, kept manager handle]
  refine ⟨fun manager => (same manager).id.trans (logged.id manager), ?_, ?_, ?_, ?_⟩
  · intro manager handle
    rw [(same manager).owns_iff, live]
    exact logged.owns_iff manager handle
  · intro manager handle member
    rcases List.mem_append.mp member with earlier | last
    · rw [(same manager).created]
      exact logged.issued manager handle earlier
    · exact absurd (List.mem_singleton.mp last).symm (none manager handle)
  · intro manager handle member
    rcases List.mem_append.mp member with earlier | last
    · obtain ⟨created, dead⟩ := logged.gone manager handle earlier
      exact ⟨List.mem_append_left _ created, by rwa [live]⟩
    · exact absurd (List.mem_singleton.mp last).symm (kept manager handle)
  · intro before after manager handle built whole
    rcases append_singleton_eq_iff.mp whole with ⟨rfl, last, _⟩ | ⟨between, earlier, _⟩
    · exact core manager handle built last
    · exact logged.cores before between manager handle built earlier

theorem managers_setManager (fleet : Fleet) (id : Nat) (made : CpuManager) (manager : Nat) :
    (fleet.setManager id made).managers manager =
      if manager = id then made else fleet.managers manager :=
  Function.update_apply ..

theorem setManager_self (fleet : Fleet) (id : Nat) :
    fleet.setManager id (fleet.managers id) = fleet := by
  rw [setManager, Function.update_eq_self]

theorem sameOwner_setBoard {id : Nat} {board : Board}
    (same : (fleet.managers id).SameOwner board.manager) (manager : Nat) :
    (fleet.managers manager).SameOwner ((fleet.setBoard id board).managers manager) := by
  change CpuManager.SameOwner _ (Function.update fleet.managers id board.manager manager)
  rw [Function.update_apply]
  split
  · rename_i here
    exact here ▸ same
  · exact .refl _

theorem logged_created (logged : Logged log fleet) {id : Nat}
    (free : (fleet.managers id).monitor = none) {made : CpuManager} (sameId : made.id = id)
    (count : made.created = (fleet.managers id).created + 1)
    (serial : made.monitor.map Prod.fst = some (fleet.managers id).created) :
    Logged (log ++ [.monitorCreated id { manager := id, serial := (fleet.managers id).created }])
      (fleet.setManager id made) := by
  have unowned (handle : MonitorHandle) : ¬ MonitorLive log id handle := by
    intro live
    have owned := CpuManager.owns_iff.mp ((logged.owns_iff id handle).mpr live)
    rw [free] at owned
    cases owned.2
  refine ⟨fun manager => ?_, fun manager handle => ?_, fun manager handle member => ?_,
    fun manager handle member => ?_, fun before after manager handle core whole => ?_⟩
  · rw [managers_setManager]
    split
    · exact sameId.trans (Eq.symm ‹_›)
    · exact logged.id manager
  · rw [monitorLive_append_iff, managers_setManager]
    split
    · rename_i here
      subst here
      rw [CpuManager.owns_iff, sameId, serial]
      obtain ⟨owner, number⟩ := handle
      simp [unowned, eq_comm]
    · rename_i elsewhere
      rw [logged.owns_iff]
      simp [Ne.symm elsewhere]
  · rw [managers_setManager]
    rcases List.mem_append.mp member with earlier | last
    · obtain ⟨owner, below⟩ := logged.issued manager handle earlier
      refine ⟨owner, ?_⟩
      split
      · rename_i here
        rw [count, ← here]
        exact Nat.lt_succ_of_lt below
      · exact below
    · obtain ⟨rfl, rfl⟩ := FleetEvent.monitorCreated.inj (List.mem_singleton.mp last)
      simp [count]
  · have destroyed : .monitorDestroyed manager handle ∈ log := by simpa using member
    obtain ⟨issued, dead⟩ := logged.gone manager handle destroyed
    refine ⟨List.mem_append_left _ issued, ?_⟩
    rw [monitorLive_append_iff]
    rintro (again | ⟨live, _⟩)
    · obtain ⟨rfl, rfl⟩ := FleetEvent.monitorCreated.inj again
      exact absurd (logged.issued _ _ issued).2 (Nat.lt_irrefl _)
    · exact dead live
  · rcases append_singleton_eq_iff.mp whole with ⟨_, last, _⟩ | ⟨between, earlier, _⟩
    · cases last
    · exact logged.cores before between manager handle core earlier

theorem Logged.single (logged : Logged log fleet) {manager : Nat} {handle handle' : MonitorHandle}
    (live : MonitorLive log manager handle) (live' : MonitorLive log manager handle') :
    handle = handle' := by
  have owned := CpuManager.owns_iff.mp ((logged.owns_iff manager handle).mpr live)
  have owned' := CpuManager.owns_iff.mp ((logged.owns_iff manager handle').mpr live')
  obtain ⟨owner, serial⟩ := handle
  obtain ⟨owner', serial'⟩ := handle'
  rw [MonitorHandle.mk.injEq]
  exact ⟨owned.1.trans owned'.1.symm, Option.some.inj (owned.2.symm.trans owned'.2)⟩

theorem logged_destroyed (logged : Logged log fleet) {id : Nat} {handle : MonitorHandle}
    (owned : (fleet.managers id).owns handle) :
    Logged (log ++ [.monitorDestroyed id handle])
      (fleet.setManager id { fleet.managers id with monitor := none }) := by
  have live := (logged.owns_iff id handle).mp owned
  have dead (other : MonitorHandle) :
      ¬ MonitorLive (log ++ [.monitorDestroyed id handle]) id other := by
    rw [monitorLive_append_iff]
    rintro (made | ⟨others, kept⟩)
    · cases made
    · exact kept (by rw [logged.single live others])
  refine ⟨fun manager => ?_, fun manager other => ?_, fun manager other member => ?_,
    fun manager other member => ?_, fun before after manager handle core whole => ?_⟩
  · rw [managers_setManager]
    split
    · exact (logged.id id).trans (Eq.symm ‹_›)
    · exact logged.id manager
  · rw [managers_setManager]
    split
    · rename_i here
      subst here
      rw [CpuManager.owns_iff]
      exact iff_of_false (fun both => by cases both.2) (dead other)
    · rename_i elsewhere
      rw [logged.owns_iff, monitorLive_append_iff]
      simp [Ne.symm elsewhere]
  · have issued : .monitorCreated manager other ∈ log := by simpa using member
    obtain ⟨owner, below⟩ := logged.issued manager other issued
    refine ⟨owner, ?_⟩
    rw [managers_setManager]
    split
    · rename_i here
      exact here ▸ below
    · exact below
  · rcases List.mem_append.mp member with earlier | last
    · obtain ⟨issued, gone⟩ := logged.gone manager other earlier
      refine ⟨List.mem_append_left _ issued, ?_⟩
      rw [monitorLive_append_iff]
      rintro (made | ⟨live, _⟩)
      · cases made
      · exact gone live
    · obtain ⟨rfl, rfl⟩ := FleetEvent.monitorDestroyed.inj (List.mem_singleton.mp last)
      exact ⟨List.mem_append_left _ live.created, dead other⟩
  · rcases append_singleton_eq_iff.mp whole with ⟨_, last, _⟩ | ⟨between, earlier, _⟩
    · cases last
    · exact logged.cores before between manager handle core earlier

/-- A core is created just if its index is below `maxCores`, and wired just if its
    handle names the monitor that is live at that time. -/
theorem create_cases (board : Board) (handle : Option MonitorHandle) (index : CoreIndex)
    (maxBlockInstructions : Nat) :
    maxCores ≤ index ∧
        Core.create board handle index maxBlockInstructions = .error (.invalidCoreIndex index) ∨
      index < maxCores ∧ ∃ core after,
        Core.create board handle index maxBlockInstructions = .ok (core, after) ∧
          core.index = index ∧ board.manager.SameOwner after.manager ∧
          ∀ wired, core.monitor = some wired ↔ handle = some wired ∧ board.manager.owns wired := by
  rw [Core.create]
  split
  · rename_i beyond
    exact .inl ⟨beyond, rfl⟩
  · rename_i real
    refine .inr ⟨Nat.lt_of_not_le real, _, _, rfl, rfl, ⟨rfl, rfl, rfl⟩, fun wired => ?_⟩
    exact Option.filter_eq_some_iff

theorem perform_logged (logged : Logged log fleet) (call : FleetCall) :
    Logged (log ++ [(fleet.perform call).1]) (fleet.perform call).2 := by
  cases call with
  | createMonitor id cores =>
      rw [perform]
      rcases (fleet.managers id).createMonitor_cases cores with
        ⟨free, made, created, sameId, count, serial⟩ | ⟨live, _, refused⟩
      · simp only [created, logged.id]
        exact logged_created logged free (sameId.trans (logged.id id)) count serial
      · simp only [refused]
        exact logged.quietly nofun nofun (fun _ => .refl _) nofun
  | destroyMonitor id handle =>
      rw [perform, CpuManager.destroyMonitor]
      by_cases owned : (fleet.managers id).owns handle
      · simp only [owned, if_true]
        exact logged_destroyed logged owned
      · simp only [owned, if_false, Bool.false_eq_true, setManager_self]
        exact logged.quietly nofun nofun (fun _ => .refl _) nofun
  | createCore id handle index maxBlockInstructions =>
      rw [perform]
      rcases create_cases (fleet.boardOf id) handle index maxBlockInstructions with
        ⟨_, refused⟩ | ⟨_, core, board, built, _, same, wired⟩
      · simp only [refused]
        exact logged.quietly nofun nofun (fun _ => .refl _) nofun
      · simp only [built]
        refine logged.quietly nofun nofun (sameOwner_setBoard same) ?_
        rintro _ _ _ ⟨⟩ handle'
        rw [wired, ← logged.owns_iff]
        rfl
  | access id access =>
      have same := (fleet.boardOf id).access_sameOwner access
      exact logged.quietly nofun nofun (sameOwner_setBoard same) nofun

theorem performAll_logged (logged : Logged log fleet) (calls : List FleetCall) :
    Logged (log ++ (fleet.performAll calls).1) (fleet.performAll calls).2 := by
  induction calls generalizing log fleet with
  | nil => simpa [performAll] using logged
  | cons call calls ih => simpa [performAll] using ih (perform_logged logged call)

/-- What managers do about their monitors, told by the log of what they did. -/
structure Ownership (log : List FleetEvent) (fleet : Fleet) : Prop where
  /-- A manager has at most one live monitor. -/
  single : ∀ manager handle handle', MonitorLive log manager handle →
    MonitorLive log manager handle' → handle = handle'
  /-- A monitor is created just if none is live, under a handle that no manager
      gave out before. Otherwise all stays as it is. -/
  create : ∀ manager cores,
    (∀ handle, ¬ MonitorLive log manager handle) ∧ (∃ handle after,
        fleet.perform (.createMonitor manager cores) = (.monitorCreated manager handle, after) ∧
          ∀ other, .monitorCreated other handle ∉ log) ∨
      (∃ handle, MonitorLive log manager handle) ∧
        fleet.perform (.createMonitor manager cores) = (.monitorRefused manager, fleet)
  /-- A monitor is destroyed just if it is this manager's live one. Otherwise all
      stays as it is. -/
  destroy : ∀ manager handle,
    MonitorLive log manager handle ∧ (∃ after,
        fleet.perform (.destroyMonitor manager handle) = (.monitorDestroyed manager handle, after)) ∨
      ¬ MonitorLive log manager handle ∧
        fleet.perform (.destroyMonitor manager handle) = (.destroyRefused manager handle, fleet)
  /-- A monitor that was destroyed is not live, at whatever time. -/
  gone : ∀ manager handle, .monitorDestroyed manager handle ∈ log → ¬ MonitorLive log manager handle
  /-- A core is created just if its index is below `maxCores`. It is wired just if
      the handle it is given is that of the live monitor. -/
  core : ∀ manager handle index maxBlockInstructions,
    index < maxCores ∧ (∃ core after,
        fleet.perform (.createCore manager handle index maxBlockInstructions) =
            (.coreCreated manager handle core, after) ∧
          core.index = index ∧
          (core.hasMonitor (after.boardOf manager) ↔
            ∃ wired, handle = some wired ∧ MonitorLive log manager wired)) ∨
      maxCores ≤ index ∧
        fleet.perform (.createCore manager handle index maxBlockInstructions) =
          (.coreRefused manager (.invalidCoreIndex index), fleet)
  /-- Whatever happened since, a core reaches the monitor that it was wired to as
      long as it is live, and no other. -/
  reaches : ∀ before after manager handle core,
    log = before ++ .coreCreated manager handle core :: after →
      (core.hasMonitor (fleet.boardOf manager) ↔ ∃ wired, handle = some wired ∧
        MonitorLive before manager wired ∧ MonitorLive log manager wired)
  /-- A core that reaches none meets memory alone. -/
  alone : ∀ manager (core : Core), ¬ core.hasMonitor (fleet.boardOf manager) →
    core.MeetsMemoryAlone (fleet.boardOf manager)

theorem Logged.create (logged : Logged log fleet) (manager cores : Nat) :
    (∀ handle, ¬ MonitorLive log manager handle) ∧ (∃ handle after,
        fleet.perform (.createMonitor manager cores) = (.monitorCreated manager handle, after) ∧
          ∀ other, .monitorCreated other handle ∉ log) ∨
      (∃ handle, MonitorLive log manager handle) ∧
        fleet.perform (.createMonitor manager cores) = (.monitorRefused manager, fleet) := by
  rw [perform]
  rcases (fleet.managers manager).createMonitor_cases cores with
    ⟨free, made, created, _⟩ | ⟨live, held, refused⟩
  · simp only [created]
    refine .inl ⟨fun handle live => ?_, _, _, rfl, fun other issued => ?_⟩
    · have owned := CpuManager.owns_iff.mp ((logged.owns_iff manager handle).mpr live)
      rw [free] at owned
      cases owned.2
    · obtain ⟨owner, below⟩ := logged.issued other _ issued
      obtain rfl : manager = other := (logged.id manager).symm.trans owner
      exact absurd below (Nat.lt_irrefl _)
  · simp only [refused]
    refine .inr ⟨⟨{ manager := (fleet.managers manager).id, serial := live.1 }, ?_⟩, trivial⟩
    rw [← logged.owns_iff, CpuManager.owns_iff, held]
    exact ⟨rfl, rfl⟩

theorem Logged.ownership (logged : Logged log fleet) : fleet.Ownership log where
  single _ _ _ := logged.single
  create := logged.create
  destroy manager handle := by
    rw [← logged.owns_iff, perform, CpuManager.destroyMonitor]
    by_cases owned : (fleet.managers manager).owns handle
    · simp only [owned, if_true]
      exact .inl ⟨trivial, _, rfl⟩
    · simp only [owned, if_false, Bool.false_eq_true, setManager_self]
      exact .inr ⟨not_false, trivial⟩
  gone manager handle destroyed := (logged.gone manager handle destroyed).2
  core manager handle index maxBlockInstructions := by
    rw [perform]
    rcases create_cases (fleet.boardOf manager) handle index maxBlockInstructions with
      ⟨beyond, refused⟩ | ⟨real, core, board, built, named, same, wired⟩
    · simp only [refused]
      exact .inr ⟨beyond, trivial⟩
    · simp only [built]
      refine .inl ⟨real, core, _, rfl, named, ?_⟩
      have now : ((fleet.setBoard manager board).boardOf manager).manager = board.manager :=
        Function.update_self ..
      rw [Core.hasMonitor_iff, now]
      simp only [same.owns_iff, wired, ← logged.owns_iff]
      exact ⟨fun ⟨h, ⟨given, owned⟩, _⟩ => ⟨h, given, owned⟩,
        fun ⟨h, given, owned⟩ => ⟨h, ⟨given, owned⟩, owned⟩⟩
  reaches before after manager handle core whole := by
    rw [Core.hasMonitor_iff]
    simp only [logged.cores before after manager handle core whole, ← logged.owns_iff, and_assoc]
    rfl
  alone manager core unwired := (Core.unwired_iff.mpr unwired).meetsMemoryAlone

/-- Whatever is asked of managers that share a memory, in whatever order and with
    whatever handles, each of them has at most one live monitor, which only its own
    handle destroys; a handle never comes to name a later monitor; and a core
    reaches the monitor it was wired to or memory alone. -/
theorem performAll_ownership (memory : AddressSpace) (calls : List FleetCall) :
    let (log, fleet) := (ofMemory memory).performAll calls
    fleet.Ownership log :=
  (@performAll_logged _ [] (logged_ofMemory memory) calls).ownership

end Fleet

end GuestMachine
