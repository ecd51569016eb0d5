import GuestMachine.Proofs.Kernel.Bookkeeping
import GuestMachine.Proofs.Kernel.HandleAllocation
import GuestMachine.Proofs.Kernel.SlotAllocation

/-! # What a thread gets from the kernel

A core, a slot filled with zeros, a handle that leads to it and a place behind
its peers: each by the operation that hands it out.
-/

namespace GuestMachine

open Layout

theorem HandleTable.opens_of_add {table after : HandleTable} {object : KernelObject}
    {handle : Handle} (wellFormed : table.WellFormed)
    (added : table.add object = .ok (handle, after)) : table.Opens object handle after := by
  have room : table.size < capacity := by
    by_contra full
    rw [add_eq, if_pos (Nat.le_of_not_lt full)] at added
    cases added
  obtain ⟨_, _, added', opens⟩ := add_of_room wellFormed room object
  cases added.symm.trans added'
  exact opens

namespace GuestProcess

variable {process held : GuestProcess} {memory memory' : AddressSpace} {addr : Address}

/-- The slot is cleared even if its page was mapped before. -/
theorem zeros_of_allocateTls (allocated : process.allocateTls memory = .ok (addr, held, memory'))
    {i : Nat} (inside : InArea addr tlsEntrySize i) : memory'.byte? i = some 0 := by
  simp only [allocateTls_eq] at allocated
  split at allocated
  · cases allocated
  · split at allocated
    · obtain ⟨_, _, allocated⟩ := exceptBind_eq_ok allocated
      obtain ⟨_, wrote, allocated⟩ := exceptBind_eq_ok allocated
      cases allocated
      exact (AddressSpace.Written.of_write (mapError_eq_ok wrote)).zeros inside.1 inside.2
    · obtain ⟨_, _, allocated⟩ := exceptBind_eq_ok allocated
      obtain ⟨_, wrote, allocated⟩ := exceptBind_eq_ok allocated
      cases allocated
      exact (AddressSpace.Written.of_write (mapError_eq_ok wrote)).zeros inside.1 inside.2

end GuestProcess

namespace Scheduler

/-- A thread is new and waits behind its peers. -/
structure Appends (before : Scheduler) (id : ThreadId) (level : Priority) (coreMask : UInt64)
    (after : Scheduler) : Prop where
  fresh : before.threads[id]? = none
  entry : after.threads[id]? = some { priority := level, coreMask, state := .ready }
  queue : ∀ other, after.queue other =
    if other = level then before.queue level ++ [id] else before.queue other
  others : ∀ other, other ≠ id → after.threads[other]? = before.threads[other]?

theorem add_appends {before after : Scheduler} {id : ThreadId} {priority : UInt32}
    {coreMask : UInt64} (added : before.add id priority coreMask = .ok after) :
    ∃ level : Priority, level.val = priority.toNat ∧ before.Appends id level coreMask after := by
  obtain ⟨level, valid, fresh, rfl⟩ := add_eq_ok added
  have same : level.val = priority.toNat := by
    rw [← Priority.toWord_of_ofWord valid]
    exact (UInt32.toNat_ofNat_of_lt' (Nat.lt_trans level.isLt (by decide))).symm
  refine ⟨level, same, fresh, ?_, ?_, fun other different => ?_⟩
  · exact (getElem?_insert before id _ id).trans (if_pos rfl)
  · exact queue_setQueue { before with threads := _ } level _
  · exact (getElem?_insert before id _ other).trans (if_neg different)

end Scheduler

namespace Kernel

variable {kernel : Kernel} {pid : ProcessId} {process : GuestProcess}

/-- The mask has the bit of one core of the kernel. -/
theorem coreMaskFor_eq_ok {core : Int32} {mask : UInt64}
    (allowed : kernel.coreMaskFor process core = .ok mask) (few : kernel.coreCount ≤ maxCores) :
    ∃ c : Nat, core.toInt = c ∧ c < kernel.coreCount ∧ mask.toNat = 2 ^ c := by
  rw [coreMaskFor] at allowed
  split at allowed
  · cases allowed
  · rename_i proper
    split at allowed
    · cases allowed
    · cases allowed
      obtain ⟨lower, upper⟩ := not_or.mp proper
      have within : core.toNatClampNeg < kernel.coreCount := Nat.lt_of_not_le upper
      refine ⟨core.toNatClampNeg, ?_, within, ?_⟩
      · rw [Int32.lt_iff_toInt_lt] at lower
        rw [Int32.toNatClampNeg]
        have zero : (0 : Int32).toInt = 0 := rfl
        omega
      · exact toNat_coreBit (Nat.lt_of_lt_of_le within (Nat.le_trans few (by decide)))

namespace Hosts

theorem currentProcess_eq (hosts : kernel.Hosts pid process) (core : CoreIndex) :
    kernel.currentProcess core = .ok process := by
  rw [Kernel.currentProcess]
  split
  · rename_i thread current
    rw [getProcess, (hosts.own_of_get (hosts.currentThread current)).2, hosts.found]
  · rw [hosts.applicationProcess?_eq]

/-- What a thread is created with. The process has its handles and its state from
    before. -/
theorem created_params (hosts : kernel.Hosts pid process)
    (room : kernel.threads.slots.size < 2 ^ 64) {memory memory' : AddressSpace} {entry : Address}
    {argument : UInt64} {stackTop : Address} {priority : UInt32} {idealCore : Int32}
    {id : ThreadId} {made : Kernel}
    (create : kernel.createThread memory process entry argument stackTop priority idealCore =
      .ok (id, made, memory')) :
    ∃ coreMask slot held holder, kernel.coreMaskFor process idealCore = .ok coreMask ∧
      process.TakesSlot memory slot held memory' ∧
      (∀ i, GuestProcess.InSlot slot i → memory'.byte? i = some 0) ∧
      Created pid kernel process id (.ofParams id
        { processId := pid, entry, argument, stackTop, priority, idealCore, coreMask
          tlsAddress := GuestProcess.tlsAddress slot }) made holder ∧
      holder.handles = process.handles ∧ holder.state = process.state := by
  obtain ⟨thread, holder, created⟩ := hosts.created ⟨_, _, _, _, _, _, _, create⟩
  obtain ⟨_, coreMask, _, held, _, allowed, allocated, rfl, made⟩ := createThread_params create
  obtain ⟨slot, rfl, takes⟩ := GuestProcess.TakesSlot.of_allocateTls allocated
  obtain ⟨tlsSlots, same⟩ := takes.same
  have number : held.pid = pid := by rw [same, ← hosts.number]
  rw [number] at made
  obtain ⟨known, holds⟩ := hosts.finds_inserted room made
  cases created.hosts.eq_of_find holds
  cases (created.object room).symm.trans known
  refine ⟨coreMask, slot, held, _, allowed, takes, fun i inside => ?_, created, ?_, ?_⟩
  · exact GuestProcess.zeros_of_allocateTls allocated inside
  · rw [same]
    rfl
  · rw [same]
    rfl

/-- Who runs where does not matter for a handle that was issued. -/
theorem resolveThread_eq (hosts : kernel.Hosts pid process) {handle : Handle} {id : ThreadId}
    {thread : GuestThread} (real : handle < currentProcessHandle)
    (names : process.handles.get handle = .ok (.thread id))
    (known : kernel.threads.get? id = some thread) (core : CoreIndex) :
    kernel.resolveThread core handle = .ok thread := by
  have issued : handle ≠ currentThreadHandle := by
    rintro rfl
    exact absurd real (by decide)
  have found : kernel.getThread id = .ok thread := by rw [Kernel.getThread, known]
  simp only [Kernel.resolveThread, if_neg issued, hosts.currentProcess_eq core, names, found, bind,
    Except.bind]

end Hosts

end Kernel

end GuestMachine
