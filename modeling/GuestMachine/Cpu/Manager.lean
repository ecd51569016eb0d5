import GuestMachine.Cpu.ExclusiveMonitor
import GuestMachine.Cpu.InvalidationBus

/-! # CPU manager

Owns what the cores of one system share: at most one exclusive monitor at a
time, and the invalidation bus. A monitor is named by a handle, and the handle
of a destroyed monitor never names a later one.
-/

namespace GuestMachine

/-- Names one monitor of one manager for good. -/
structure MonitorHandle where
  manager : Nat
  serial : Nat
  deriving Repr, DecidableEq

structure CpuManager where
  /-- Tells the managers of a program apart. -/
  id : Nat := 0
  /-- The live monitor and its serial number. -/
  monitor : Option (Nat × ExclusiveMonitor) := none
  created : Nat := 0
  bus : InvalidationBus := {}
  deriving Repr, DecidableEq, Inhabited

namespace CpuManager

/-- Name of the one translator there is. -/
def backendName : String := "interpreter"

/-- Create the monitor, unless one is live. -/
def createMonitor (manager : CpuManager) (cores : Nat) : Option (MonitorHandle × CpuManager) :=
  match manager.monitor with
  | some _ => none
  | none =>
      some ({ manager := manager.id, serial := manager.created },
        { manager with
          monitor := some (manager.created, ExclusiveMonitor.ofCores cores)
          created := manager.created + 1 })

/-- `handle` names the live monitor. -/
def owns (manager : CpuManager) (handle : MonitorHandle) : Bool :=
  handle.manager == manager.id && manager.monitor.any (·.1 == handle.serial)

/-- Destroy the monitor if `handle` names it, and say whether it did. -/
def destroyMonitor (manager : CpuManager) (handle : MonitorHandle) : Bool × CpuManager :=
  if manager.owns handle then (true, { manager with monitor := none }) else (false, manager)

def monitorOf? (manager : CpuManager) (handle : MonitorHandle) : Option ExclusiveMonitor :=
  if manager.owns handle then manager.monitor.map (·.2) else none

def setMonitor (manager : CpuManager) (monitor : ExclusiveMonitor) : CpuManager :=
  { manager with monitor := manager.monitor.map fun (serial, _) => (serial, monitor) }

end CpuManager

end GuestMachine
