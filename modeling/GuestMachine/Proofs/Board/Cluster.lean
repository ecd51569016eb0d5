import Mathlib.Logic.Function.Basic
import GuestMachine.Proofs.Board.BurstReservations
import GuestMachine.Proofs.Board.ServedBoards

/-! # Cores that share a monitor

Guest threads are loaded into the cores of one board and run there in bursts. A
reservation that a thread leaves behind is of no use to the next one, however
the burst ended and whatever the other cores do.
-/

namespace GuestMachine

open A64

variable {κ β : Type} {os : OperatingSystem κ}

/-- Several cores on one board, and what the others remember. -/
structure Cluster (κ β : Type) where
  cores : Nat → Core
  machine : Machine κ
  others : β

inductive ClusterCall where
  /-- Whatever the core ran before, it goes on with this. -/
  | load (position : Nat) (context : ThreadContext)
  | execute (position rounds : Nat)

inductive ClusterEvent where
  | loaded (position : Nat)
  /-- A burst, with its callbacks. -/
  | ran (position : Nat) (result : BurstResult) (log : List Callback)

/-- What goes on besides a core, by its index. -/
abbrev Besides (κ β : Type) := CoreIndex → Machine κ × β → Machine κ × β

namespace Cluster

def setCore (cluster : Cluster κ β) (position : Nat) (core : Core) : Cluster κ β :=
  { cluster with cores := Function.update cluster.cores position core }

def perform (os : OperatingSystem κ) (besides : Besides κ β) (cluster : Cluster κ β) :
    ClusterCall → ClusterEvent × Cluster κ β
  | .load position context =>
      (.loaded position, cluster.setCore position { cluster.cores position with context })
  | .execute position rounds =>
      let core := cluster.cores position
      let act := besides core.index
      let start := (cluster.machine, cluster.others)
      let (result, core', machine, others) := core.executeAmid os act rounds start
      (.ran position result (core.callbacksAmid os act rounds start),
        { cluster.setCore position core' with machine, others })

/-- The log of a sequence of calls, and what it ends in. -/
def performAll (os : OperatingSystem κ) (besides : Besides κ β) (cluster : Cluster κ β) :
    List ClusterCall → List ClusterEvent × Cluster κ β
  | [] => ([], cluster)
  | call :: calls =>
      let (event, cluster) := cluster.perform os besides call
      let (events, cluster) := cluster.performAll os besides calls
      (event :: events, cluster)

end Cluster

/-- Nobody else reserves for the core with this index. -/
def Besides.ReserveNothing (besides : Besides κ β) : Prop :=
  ∀ index handle p, Board.ReservesNothing index handle p.1.board (besides index p).1.board

namespace Cluster

variable {besides : Besides κ β} {cluster : Cluster κ β}

theorem perform_counted (others : besides.ReserveNothing) (service : os.ReservesNothing)
    (counted : cluster.machine.board.Counted) (call : ClusterCall) :
    (cluster.perform os besides call).2.machine.board.Counted := by
  cases call with
  | load position context => exact counted
  | execute position rounds =>
      let core := cluster.cores position
      exact core.executeAmid_counted
        (fun p => (others core.index core.monitor p).counted) service rounds counted

theorem perform_paired (others : besides.ReserveNothing) (service : os.ReservesNothing)
    (counted : cluster.machine.board.Counted) {call : ClusterCall} {position : Nat}
    {result : BurstResult} {log : List Callback}
    (ran : (cluster.perform os besides call).1 = .ran position result log) : Paired log := by
  cases call with
  | load position context => cases ran
  | execute position rounds =>
      let core := cluster.cores position
      cases ran
      exact core.callbacksAmid_paired (others core.index core.monitor) service rounds counted

/-- Whatever was loaded and run before, and whoever runs besides: in each burst a
    store-exclusive that reports success pairs with a load-exclusive of that burst. -/
theorem performAll_paired (others : besides.ReserveNothing) (service : os.ReservesNothing)
    (counted : cluster.machine.board.Counted) (calls : List ClusterCall) :
    ∀ position result log,
      .ran position result log ∈ (cluster.performAll os besides calls).1 → Paired log := by
  induction calls generalizing cluster with
  | nil => exact fun _ _ _ member => nomatch member
  | cons call calls ih =>
      intro position result log member
      rcases List.mem_cons.mp member with now | later
      · exact perform_paired others service counted now.symm
      · exact ih (perform_counted others service counted call) position result log later

end Cluster

/-- Other cores take turns, one block each. -/
def takeTurns (os : OperatingSystem κ) : Besides κ (List Core)
  | _, (machine, []) => (machine, [])
  | index, (machine, core :: waiting) =>
      if core.index = index then (machine, waiting ++ [core])
      else
        let (_, core, machine) := core.execute os 1 machine
        (machine, waiting ++ [core])

theorem takeTurns_reserveNothing (service : os.ReservesNothing) :
    (takeTurns os).ReserveNothing := by
  rintro index handle ⟨machine, _ | ⟨core, waiting⟩⟩
  · exact .refl ..
  · rw [takeTurns]
    split
    · exact .refl ..
    · rename_i other
      exact core.execute_reservesNothing other service 1 machine

/-- A new monitor counts what it holds. -/
theorem Board.counted_createMonitor {manager : CpuManager} {handle : MonitorHandle} {cores : Nat}
    {board : Board} (created : manager.createMonitor cores = some (handle, board.manager)) :
    board.Counted := by
  rintro live found
  rw [CpuManager.createMonitor] at created
  split at created
  · cases created
  · injection created with both
    injection both with _ same
    rw [← same] at found
    cases found
    exact ExclusiveMonitor.counted_ofCores cores

/-- One monitor for two cores. -/
def pairManager : MonitorHandle × CpuManager :=
  ((({} : CpuManager).createMonitor 2).get rfl)

/-- A thread that reserves and calls, one that stores, reserves and stores again, and
    one that reserves for ever. -/
def reservingCode : AddressSpace :=
  let page : AddressSpace :=
    { pages := Std.TreeMap.empty.insert 0x8000 (Page.zeroed PageFlags.rwx), everMapped := true }
  let code : List (Address × BitVec 32) :=
    [(0x8000000, 0x885f7c20), (0x8000004, 0xd4000001), (0x8000008, 0x88027c20),
      (0x800000c, 0x885f7c20), (0x8000010, 0x88027c20), (0x8000014, 0xd4000001),
      (0x8000018, 0x885f7c20), (0x800001c, 0x17ffffff)]
  code.foldl (fun memory (addr, word) => (memory.store .word addr word).2) page

/-- A thread with the address of the reserved word in X1. -/
def reservingThread (pc : Address) : ThreadContext :=
  { registers := { ({} : RegisterFile).setXzr 1 0x8000800 with pc } }

/-- Core 0 runs threads; core 1 takes its turn whenever core 0 pauses. -/
def pairOfCores : Cluster CallLog (List Core) where
  cores _ :=
    { index := 0, line := 0, monitor := some pairManager.1, maxBlockInstructions := 64 }
  machine :=
    { board := { memory := reservingCode, manager := pairManager.2, halts := { bits := [0, 0] } }
      os := {} }
  others :=
    [{ index := 1, line := 1, monitor := some pairManager.1, maxBlockInstructions := 64
       context := reservingThread 0x8000018 }]

/-- The second thread begins with a store to what the first one had reserved. -/
def changeOfThreads : List ClusterCall :=
  [.load 0 (reservingThread 0x8000000), .execute 0 2, .load 0 (reservingThread 0x8000008),
    .execute 0 2]

theorem performAll_paired_changeOfThreads :
    pairOfCores.machine.board.Counted ∧ ∀ position result log,
      .ran position result log ∈ (pairOfCores.performAll CallLog.operatingSystem
        (takeTurns CallLog.operatingSystem) changeOfThreads).1 → Paired log := by
  have service := CallLog.servesBoard.reservesNothing
  have counted : pairOfCores.machine.board.Counted :=
    Board.counted_createMonitor (show ({} : CpuManager).createMonitor 2 = some pairManager from rfl)
  exact ⟨counted, Cluster.performAll_paired (takeTurns_reserveNothing service) service counted
    changeOfThreads⟩

/-- The store fails, and the one after a load of the same thread does not. -/
example : (pairOfCores.performAll CallLog.operatingSystem
    (takeTurns CallLog.operatingSystem) changeOfThreads).1.map
      (fun event => match event with
        | .loaded _ => none
        | .ran _ result log => some (result, log.filterMap fun callback => match callback with
            | .exclusiveWrite _ _ _ _ committed => committed
            | _ => none)) =
    [none, some (.halted .supervisorCall, []), none,
      some (.halted .supervisorCall, [false, true])] := by
  decide +kernel

end GuestMachine
