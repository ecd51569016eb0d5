import GuestMachine.Kernel.Process
import GuestMachine.Proofs.Kernel.Handles
import GuestMachine.Proofs.Memory.Mapping

/-! # Operations on a process

What a process does with its handles and its heap either happens or leaves process
and memory as they were. What it comes to is one equation for each operation.
-/

namespace GuestMachine

open Layout Operation

namespace ProcessM

theorem addHandle_atomic (object : KernelObject) : Atomic (addHandle object) :=
  (HandleM.add_atomic object).within id fun _ => rfl

theorem closeHandle_atomic (handle : Handle) : Atomic (closeHandle handle) :=
  (HandleM.close_atomic handle).within id fun _ => rfl

end ProcessM

namespace GuestProcess

theorem addHandle_eq (process : GuestProcess) (object : KernelObject) :
    process.addHandle object = (do
      let (handle, handles) ← process.handles.add object
      return (handle, { process with handles })) := by
  rw [addHandle, ProcessM.addHandle, ProcessM.onHandles, outcome_within, mapError_id,
    HandleTable.add]
  cases (HandleM.add object).outcome process.handles <;> rfl

theorem closeHandle_eq (process : GuestProcess) (handle : Handle) :
    process.closeHandle handle = (do
      let (object, handles) ← process.handles.close handle
      return (object, { process with handles })) := by
  rw [closeHandle, ProcessM.closeHandle, ProcessM.onHandles, outcome_within, mapError_id,
    HandleTable.close]
  cases (HandleM.close handle).outcome process.handles <;> rfl

theorem addHandle_eq_ok {process process' : GuestProcess} {object : KernelObject}
    {handle : Handle} (opens : process.addHandle object = .ok (handle, process')) :
    ∃ handles, process.handles.add object = .ok (handle, handles) ∧
      process' = { process with handles } := by
  rw [addHandle_eq] at opens
  obtain ⟨⟨_, handles⟩, added, opens⟩ := exceptBind_eq_ok opens
  cases opens
  exact ⟨handles, added, rfl⟩

theorem closeHandle_eq_ok {process process' : GuestProcess} {object : KernelObject}
    {handle : Handle} (closes : process.closeHandle handle = .ok (object, process')) :
    ∃ handles, process.handles.close handle = .ok (object, handles) ∧
      process' = { process with handles } := by
  rw [closeHandle_eq] at closes
  obtain ⟨⟨_, handles⟩, closed, closes⟩ := exceptBind_eq_ok closes
  cases closes
  exact ⟨handles, closed, rfl⟩

theorem addHandle_pid {process process' : GuestProcess} {object : KernelObject}
    {handle : Handle} (opens : process.addHandle object = .ok (handle, process')) :
    process'.pid = process.pid := by
  obtain ⟨handles, _, rfl⟩ := addHandle_eq_ok opens
  rfl

theorem closeHandle_pid {process process' : GuestProcess} {object : KernelObject}
    {handle : Handle} (closes : process.closeHandle handle = .ok (object, process')) :
    process'.pid = process.pid := by
  obtain ⟨handles, _, rfl⟩ := closeHandle_eq_ok closes
  rfl

/-- There is one handle more. -/
theorem addHandle_ne {process process' : GuestProcess} {object : KernelObject} {handle : Handle}
    (opens : process.addHandle object = .ok (handle, process')) : process' ≠ process := by
  obtain ⟨handles, added, rfl⟩ := addHandle_eq_ok opens
  rw [HandleTable.add_eq] at added
  split at added
  · cases added
  · cases added
    intro same
    have longer := congrArg (fun process => process.handles.entries.length) same
    exact absurd longer (Nat.succ_ne_self _)

/-- There is one handle less. -/
theorem closeHandle_ne {process process' : GuestProcess} {object : KernelObject} {handle : Handle}
    (closes : process.closeHandle handle = .ok (object, process')) : process' ≠ process := by
  obtain ⟨handles, closed, rfl⟩ := closeHandle_eq_ok closes
  obtain ⟨named, rfl⟩ := HandleTable.close_eq_ok closed
  intro same
  have kept := congrArg (fun process => process.handles.entries) same
  have stays := List.filter_eq_self.mp kept _ (HandleTable.mem_of_get? named)
  simp at stays

end GuestProcess

namespace ProcessMemoryM

theorem outcome_onMemory_bind (action : MemoryM Unit) (next : Unit → ProcessMemoryM β)
    (process : GuestProcess) (memory : AddressSpace) :
    (onMemory action >>= next).outcome (process, memory) =
      ((action.result memory).mapError .memory).bind fun memory =>
        (next ()).outcome (process, memory) := by
  rw [outcome_bind, onMemory, outcome_within, result_eq]
  cases action.outcome memory <;> rfl

theorem modifyProcess_accepted (f : GuestProcess → GuestProcess) : Accepted (modifyProcess f) :=
  modify_accepted _

theorem onMemory_atomic {action : MemoryM α} (atomic : Atomic action) :
    Atomic (onMemory action) := by
  rw [onMemory]
  exact atomic.within _ fun _ => rfl

theorem setHeapSize_atomic (size : UInt64) : Atomic (setHeapSize size) := by
  rw [setHeapSize]
  split
  · exact throw_atomic _
  · split
    · exact throw_atomic _
    · refine .get_bind fun _ => ?_
      dsimp only
      split
      · exact (onMemory_atomic (MemoryM.map_atomic _ _ _)).bind_accepted fun _ =>
          modifyProcess_accepted _
      · split
        · exact (onMemory_atomic (MemoryM.unmap_atomic _ _)).bind_accepted fun _ =>
            modifyProcess_accepted _
        · exact (modifyProcess_accepted _).atomic

end ProcessMemoryM

namespace GuestProcess

theorem setHeapSize_eq (process : GuestProcess) (memory : AddressSpace) (size : UInt64) :
    process.setHeapSize memory size = (do
      if size % heapAlignment ≠ 0 then .error (.invalidSize size)
      else if Layout.heapSize < size then .error (.memory .outOfMemory)
      else
        let current := process.heapSize
        let memory ←
          if current < size then
            (memory.map (heapBase + current) (size - current) PageFlags.rw).mapError .memory
          else if size < current then
            (memory.unmap (heapBase + size) (current - size)).mapError .memory
          else pure memory
        return ({ process with heapSize := size }, memory)) := by
  rw [setHeapSize, ProcessMemoryM.setHeapSize, result_eq]
  by_cases odd : size % heapAlignment ≠ 0
  · rw [if_pos odd, if_pos odd]
    rfl
  · rw [if_neg odd, if_neg odd]
    by_cases large : Layout.heapSize < size
    · rw [if_pos large, if_pos large]
      rfl
    · rw [if_neg large, if_neg large, outcome_get_bind]
      dsimp only
      by_cases grows : process.heapSize < size
      · rw [if_pos grows, if_pos grows, ProcessMemoryM.outcome_onMemory_bind]
        change ((memory.map _ _ _).mapError _ |>.bind _).map _ = _
        cases memory.map (heapBase + process.heapSize) (size - process.heapSize) PageFlags.rw <;> rfl
      · rw [if_neg grows, if_neg grows]
        by_cases shrinks : size < process.heapSize
        · rw [if_pos shrinks, if_pos shrinks, ProcessMemoryM.outcome_onMemory_bind]
          change ((memory.unmap _ _).mapError _ |>.bind _).map _ = _
          cases memory.unmap (heapBase + size) (process.heapSize - size) <;> rfl
        · rw [if_neg shrinks, if_neg shrinks]
          rfl

theorem setHeapSize_eq_ok {process process' : GuestProcess}
    {memory memory' : AddressSpace} {size : UInt64}
    (resized : process.setHeapSize memory size = .ok (process', memory')) :
    process' = { process with heapSize := size } := by
  rw [setHeapSize_eq] at resized
  split at resized
  · cases resized
  · split at resized
    · cases resized
    · dsimp only at resized
      split at resized
      · obtain ⟨mapped, _, ended⟩ := exceptBind_eq_ok resized
        cases ended
        rfl
      · split at resized
        · obtain ⟨unmapped, _, ended⟩ := exceptBind_eq_ok resized
          cases ended
          rfl
        · cases resized
          rfl

end GuestProcess

end GuestMachine
