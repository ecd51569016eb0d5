import GuestMachine.Proofs.Kernel.SlotAllocation
import GuestMachine.Proofs.Kernel.Undisturbed

/-! # Where the thread-local storage of threads is

A thread is given a slot when it is created, and gives it back when its process
gives it up. In between the slot is in use, so no other thread gets it.
-/

namespace GuestMachine

open GuestProcess

namespace Kernel

/-- First byte of the slot that a thread was created with. -/
def tlsAddress? (kernel : Kernel) (id : ThreadId) : Option Address :=
  (kernel.threads.find? id).map GuestThread.tlsAddress

/-- Every thread on the list of its process has a slot to itself. -/
structure Housed (kernel : Kernel) (process : GuestProcess) : Prop where
  home : ∀ id ∈ process.threads, ∃ slot, slot < tlsCapacity ∧ process.usesSlot slot ∧
    kernel.tlsAddress? id = some (tlsAddress slot)
  apart : ∀ id ∈ process.threads, ∀ other ∈ process.threads,
    kernel.tlsAddress? id = kernel.tlsAddress? other → id = other

/-- Threads keep their slots, and stay alone there. -/
structure Resides (before : Kernel) (process : GuestProcess) (after : Kernel)
    (process' : GuestProcess) : Prop where
  addresses : ∀ id addr, before.tlsAddress? id = some addr → after.tlsAddress? id = some addr
  housed : before.Housed process → after.Housed process'

variable {kernel middle made after : Kernel} {pid : ProcessId} {core : CoreIndex}
  {process process' process'' held : GuestProcess} {thread : GuestThread} {id : ThreadId}

namespace Resides

theorem trans (first : Resides kernel process middle process')
    (next : Resides middle process' after process'') : Resides kernel process after process'' where
  addresses id addr known := next.addresses id addr (first.addresses id addr known)
  housed housed := next.housed (first.housed housed)

/-- No thread comes or goes, and no slot changes hands. -/
theorem of_same (threads : process'.threads = process.threads)
    (slots : ∀ slot, process'.usesSlot slot = process.usesSlot slot)
    (addresses : ∀ id addr, kernel.tlsAddress? id = some addr → after.tlsAddress? id = some addr) :
    Resides kernel process after process' where
  addresses
  housed housed := by
    have known (id : ThreadId) (member : id ∈ process.threads) :
        after.tlsAddress? id = kernel.tlsAddress? id := by
      obtain ⟨slot, _, _, address⟩ := housed.home id member
      exact (addresses id _ address).trans address.symm
    constructor
    · intro id member
      rw [threads] at member
      obtain ⟨slot, below, used, address⟩ := housed.home id member
      exact ⟨slot, below, by rwa [slots], (known id member).trans address⟩
    · intro id member other member' same
      rw [threads] at member member'
      rw [known id member, known other member'] at same
      exact housed.apart id member other member' same

end Resides

theorem Hosts.eq_modified (hosts : kernel.Hosts pid process) {f : GuestProcess → GuestProcess}
    (hosts' : after.Hosts pid process')
    (processes : after.processes = (kernel.modifyProcess pid f).processes) :
    process' = f process := by
  have found := hosts'.find
  rw [processes, Kernel.modifyProcess, ObjectTable.find?_modify, if_pos rfl, hosts.find] at found
  exact (Option.some.inj found).symm

theorem Hosts.eq_kept (hosts : kernel.Hosts pid process) (hosts' : after.Hosts pid process')
    (processes : after.processes = kernel.processes) : process' = process := by
  have found := hosts'.find
  rw [processes, hosts.find] at found
  exact (Option.some.inj found).symm

theorem tlsAddress?_of_get (known : kernel.threads.get? id = some thread) :
    kernel.tlsAddress? id = some thread.tlsAddress :=
  congrArg (Option.map GuestThread.tlsAddress) (ObjectTable.get?_eq_some_iff.mp known).2

theorem tlsAddress?_modifyThread (kernel : Kernel) (id : ThreadId) (f : GuestThread → GuestThread)
    (address : ∀ thread, (f thread).tlsAddress = thread.tlsAddress) (id' : ThreadId) :
    (kernel.modifyThread id f).tlsAddress? id' = kernel.tlsAddress? id' := by
  rw [tlsAddress?, Kernel.modifyThread, ObjectTable.find?_modify, tlsAddress?]
  split
  · rename_i same
    rw [same]
    cases kernel.threads.find? id with
    | none => rfl
    | some thread => exact congrArg some (address thread)
  · rfl

theorem tlsAddress?_removeThread (kernel : Kernel) (id id' : ThreadId) :
    ({ kernel with threads := kernel.threads.remove id } : Kernel).tlsAddress? id' =
      kernel.tlsAddress? id' := by
  rw [tlsAddress?, ObjectTable.find?_remove, tlsAddress?]

/-- Whatever the application, its threads keep their slots as long as thread
    numbers have not run out. -/
def Resettles (pid : ProcessId) (before after : Kernel) : Prop :=
  ∀ process process', before.Hosts pid process → after.Hosts pid process' →
    after.threads.slots.size ≤ 2 ^ 64 → Resides before process after process'

theorem Resettles.trans (first : Resettles pid kernel middle) (carries : Carries pid kernel middle)
    (carries' : Carries pid middle after) (next : Resettles pid middle after) :
    Resettles pid kernel after := by
  intro process process'' hosts hosts'' room
  obtain ⟨process', carried⟩ := carries process hosts
  obtain ⟨_, carried'⟩ := carries' process' carried.hosts
  exact (first process process' hosts carried.hosts (carried'.size.trans room)).trans
    (next process' process'' carried.hosts hosts'' room)

/-- The process is left alone, and so are the slots of the threads. -/
theorem Resettles.of_kept (processes : after.processes = kernel.processes)
    (addresses : ∀ id, after.tlsAddress? id = kernel.tlsAddress? id) :
    Resettles pid kernel after := by
  intro process process' hosts hosts' _
  cases hosts.eq_kept hosts' processes
  exact .of_same rfl (fun _ => rfl) fun id addr known => (addresses id).trans known

/-- The process changes in something else. -/
theorem Resettles.of_modified {f : GuestProcess → GuestProcess}
    (processes : after.processes = (kernel.modifyProcess pid f).processes)
    (threads : ∀ process, kernel.Hosts pid process → (f process).threads = process.threads)
    (slots : ∀ process, kernel.Hosts pid process → (f process).tlsSlots = process.tlsSlots)
    (addresses : ∀ id, after.tlsAddress? id = kernel.tlsAddress? id) :
    Resettles pid kernel after := by
  intro process process' hosts hosts' _
  cases hosts.eq_modified hosts' processes
  refine .of_same (threads process hosts) (fun slot => ?_) fun id addr known =>
    (addresses id).trans known
  rw [usesSlot, usesSlot, slots process hosts]

theorem Resettles.refl (kernel : Kernel) : Resettles pid kernel kernel :=
  .of_kept rfl fun _ => rfl

/-- What creating a thread does to the slots. -/
structure Moves (kernel : Kernel) (process : GuestProcess) (slot : Nat) (id : ThreadId)
    (made : Kernel) (held : GuestProcess) : Prop where
  below : slot < tlsCapacity
  free : process.usesSlot slot = false
  threads : held.threads = process.threads ++ [id]
  uses : ∀ other, held.usesSlot other = (other == slot || process.usesSlot other)
  fresh : kernel.tlsAddress? id = none
  addresses : ∀ id', made.tlsAddress? id' =
    if id' = id then some (tlsAddress slot) else kernel.tlsAddress? id'

theorem Hosts.moves (hosts : kernel.Hosts pid process) (creates : kernel.Creates process id made)
    (hosts' : made.Hosts pid held) (room : made.threads.slots.size ≤ 2 ^ 64) :
    ∃ slot, Moves kernel process slot id made held := by
  obtain ⟨_, _, _, _, _, _, _, create⟩ := creates
  obtain ⟨slot, taken, params, takes, _, _, address, rfl, rfl⟩ := createThread_eq_ok create
  cases hosts.number
  cases hosts.eq_modified hosts' rfl
  obtain ⟨tlsSlots, same⟩ := takes.same
  have room : kernel.threads.slots.size < 2 ^ 64 := by
    rw [← Nat.succ_le_iff]
    exact (ObjectTable.size_insert ..).ge.trans room
  refine ⟨slot, takes.below, takes.free, by rw [same]; rfl, takes.uses, ?_, fun id' => ?_⟩
  · rw [tlsAddress?, ObjectTable.find?_nextId room]
    rfl
  · change ((kernel.threads.insert _).find? id').map _ = _
    rw [ObjectTable.find?_insert room]
    split
    · exact congrArg some address
    · rfl

namespace Moves

variable {slot : Nat}

theorem not_mem (moves : Moves kernel process slot id made held) (housed : kernel.Housed process) :
    id ∉ process.threads := by
  intro member
  obtain ⟨_, _, _, address⟩ := housed.home id member
  rw [moves.fresh] at address
  cases address

theorem resides (moves : Moves kernel process slot id made held) :
    Resides kernel process made held where
  addresses id' addr known := by
    rw [moves.addresses, if_neg]
    · exact known
    · rintro rfl
      rw [moves.fresh] at known
      cases known
  housed housed := by
    have new := moves.not_mem housed
    have old (id' : ThreadId) (member : id' ∈ process.threads) :
        made.tlsAddress? id' = kernel.tlsAddress? id' := by
      rw [moves.addresses, if_neg]
      rintro rfl
      exact new member
    have self : made.tlsAddress? id = some (tlsAddress slot) := by
      rw [moves.addresses, if_pos rfl]
    -- The slot was free, so no thread was there.
    have alone (id' : ThreadId) (member : id' ∈ process.threads) :
        made.tlsAddress? id' ≠ made.tlsAddress? id := by
      obtain ⟨slot', below', used, address⟩ := housed.home id' member
      rw [old id' member, address, self]
      intro same
      cases tlsAddress_inj below' moves.below (Option.some.inj same)
      rw [moves.free] at used
      cases used
    constructor
    · intro id' member
      rw [moves.threads, List.mem_append, List.mem_singleton] at member
      rcases member with member | rfl
      · obtain ⟨slot', below', used, address⟩ := housed.home id' member
        exact ⟨slot', below', by rw [moves.uses, used, Bool.or_true],
          (old id' member).trans address⟩
      · exact ⟨slot, moves.below, by rw [moves.uses, beq_self_eq_true, Bool.true_or], self⟩
    · intro id' member other member' same
      rw [moves.threads, List.mem_append, List.mem_singleton] at member member'
      rcases member with member | rfl <;> rcases member' with member' | rfl
      · rw [old id' member, old other member'] at same
        exact housed.apart id' member other member' same
      · exact absurd same (alone id' member)
      · exact absurd same.symm (alone other member')
      · rfl

/-- The slot of a thread that is taken back can be given to another. -/
theorem resides_destroyThread (moves : Moves kernel process slot id made held)
    (hosts : made.Hosts pid held) (known : made.threads.find? id = some thread)
    (hosts' : (made.destroyThread thread).Hosts pid process') :
    Resides kernel process (made.destroyThread thread) process' := by
  obtain ⟨rfl, owner⟩ := hosts.own id thread known
  have address : thread.tlsAddress = tlsAddress slot := by
    have self := moves.addresses thread.id
    rw [if_pos rfl, tlsAddress?, known] at self
    exact Option.some.inj self
  have left : process' = (held.freeTls (tlsAddress slot)).removeThread thread.id := by
    apply hosts.eq_modified hosts'
      (f := fun process => (process.freeTls (tlsAddress slot)).removeThread thread.id)
    rw [destroyThread, forgetThread, owner, address, hosts.modifyListed]
  have addresses (id' : ThreadId) :
      (made.destroyThread thread).tlsAddress? id' = made.tlsAddress? id' := by
    rw [destroyThread, forgetThread, owner, hosts.modifyListed]
    exact tlsAddress?_removeThread ..
  have kept (id' : ThreadId) (addr : Address) (known : kernel.tlsAddress? id' = some addr) :
      (made.destroyThread thread).tlsAddress? id' = some addr := by
    rw [addresses]
    exact moves.resides.addresses id' addr known
  refine ⟨kept, fun housed => ?_⟩
  have threads : process'.threads = process.threads := by
    obtain ⟨tlsSlots, freed⟩ := held.freeTls_eq (tlsAddress slot)
    rw [left, freed]
    change held.threads.filter _ = _
    rw [moves.threads, List.filter_append, List.filter_cons_of_neg (by simp), List.filter_nil,
      List.append_nil, List.filter_eq_self]
    intro id' member
    rw [bne_iff_ne]
    rintro rfl
    exact moves.not_mem housed member
  have slots (other : Nat) : process'.usesSlot other = process.usesSlot other := by
    rw [left]
    refine (usesSlot_freeTls held moves.below other).trans ?_
    rw [moves.uses]
    by_cases here : other = slot
    · rw [here, moves.free, bne_self_eq_false, Bool.false_and]
    · rw [bne_iff_ne.mpr here, beq_eq_false_iff_ne.mpr here, Bool.true_and, Bool.false_or]
  have resides : Resides kernel process (made.destroyThread thread) process' :=
    .of_same threads slots kept
  exact resides.housed housed

end Moves

theorem Hosts.terminateThread_leaves (hosts : kernel.Hosts pid process)
    (owner : thread.processId = pid) :
    (kernel.terminateThread thread).processes = (kernel.modifyProcess pid fun process =>
        (process.freeTls thread.tlsAddress).removeThread thread.id).processes ∧
      ∀ id, (kernel.terminateThread thread).tlsAddress? id = kernel.tlsAddress? id := by
  let ended := kernel.modifyThread thread.id (·.setState .terminated)
  let gone : Kernel := { ended with scheduler := (ended.scheduler.remove thread.id).2 }
  have hosts' : ended.Hosts pid process := hosts.modifyThread thread.id (fun _ => rfl) fun _ => rfl
  have hosts' : gone.Hosts pid process :=
    ⟨hosts'.application, hosts'.found, hosts'.number, hosts'.alone, hosts'.own, hosts'.handles⟩
  have forgotten : gone.forgetThread thread = gone.modifyProcess pid fun process =>
      (process.freeTls thread.tlsAddress).removeThread thread.id := by
    rw [Kernel.forgetThread, owner, hosts'.modifyListed]
  have addresses (id : ThreadId) : (gone.forgetThread thread).tlsAddress? id =
      kernel.tlsAddress? id := by
    rw [forgotten]
    exact tlsAddress?_modifyThread kernel thread.id (·.setState .terminated) (fun _ => rfl) id
  have processes : (gone.forgetThread thread).processes = (kernel.modifyProcess pid fun process =>
      (process.freeTls thread.tlsAddress).removeThread thread.id).processes := by
    rw [forgotten]
    rfl
  rw [terminateThread]
  split
  · split
    · exact ⟨processes, addresses⟩
    · exact ⟨processes, fun id => (tlsAddress?_removeThread _ thread.id id).trans (addresses id)⟩
  · exact ⟨processes, addresses⟩

/-- A thread that its process lists has its slot freed, and no other has. -/
theorem Housed.terminateThread (housed : kernel.Housed process) (hosts : kernel.Hosts pid process)
    (owner : thread.processId = pid) (listed : thread.id ∈ process.threads)
    (address : kernel.tlsAddress? thread.id = some thread.tlsAddress)
    (hosts' : (kernel.terminateThread thread).Hosts pid process') :
    (kernel.terminateThread thread).Housed process' := by
  obtain ⟨processes, addresses⟩ := hosts.terminateThread_leaves owner
  have left := hosts.eq_modified hosts' processes
  obtain ⟨tlsSlots, freed⟩ := process.freeTls_eq thread.tlsAddress
  have members (id : ThreadId) : id ∈ process'.threads ↔ id ∈ process.threads ∧ id ≠ thread.id := by
    rw [left, freed]
    change id ∈ process.threads.filter _ ↔ _
    rw [List.mem_filter, bne_iff_ne]
  obtain ⟨slot, below, _, here⟩ := housed.home thread.id listed
  rw [address, Option.some_inj] at here
  constructor
  · intro id member
    obtain ⟨member, other⟩ := (members id).mp member
    obtain ⟨slot', below', used, there⟩ := housed.home id member
    refine ⟨slot', below', ?_, (addresses id).trans there⟩
    have apart : slot' ≠ slot := by
      rintro rfl
      exact other (housed.apart id member thread.id listed (by rw [there, address, here]))
    rw [left, here]
    refine (usesSlot_freeTls process below slot').trans ?_
    rw [bne_iff_ne.mpr apart, used, Bool.and_true]
  · intro id member other member' same
    rw [addresses, addresses] at same
    exact housed.apart id ((members id).mp member).1 other ((members other).mp member').1 same

theorem startThread_resettles (owner : thread.processId = pid)
    (starts : kernel.startThread thread = .ok after) : Resettles pid kernel after := by
  intro process process' hosts
  obtain ⟨_, scheduler, _, _, rfl⟩ := hosts.startThread_eq_ok owner starts
  have resettles : Resettles pid kernel
      ((({ kernel with scheduler } : Kernel).modifyThread thread.id (·.setState .started)).modifyProcess
        pid fun process =>
          if process.state = .created then { process with state := .running } else process) := by
    refine .of_modified rfl (fun process _ => ?_) (fun process _ => ?_) ?_
    · split <;> rfl
    · split <;> rfl
    · exact tlsAddress?_modifyThread kernel thread.id (·.setState .started) fun _ => rfl
  exact resettles process process' hosts

theorem releaseObject_processes (kernel : Kernel) (process : GuestProcess) (object : KernelObject) :
    (kernel.releaseObject process object).processes = kernel.processes := by
  cases object with
  | process _ => rfl
  | thread id =>
      simp only [releaseObject]
      split
      · split <;> rfl
      · rfl

theorem tlsAddress?_releaseObject (kernel : Kernel) (process : GuestProcess) (object : KernelObject)
    (id : ThreadId) :
    (kernel.releaseObject process object).tlsAddress? id = kernel.tlsAddress? id := by
  cases object with
  | process _ => rfl
  | thread id' =>
      simp only [releaseObject]
      split
      · split
        · exact tlsAddress?_removeThread kernel id' id
        · rfl
      · rfl

theorem endApplication_resettles (kernel : Kernel) : Resettles pid kernel kernel.endApplication := by
  intro process process' hosts hosts'
  let exit (process : GuestProcess) : GuestProcess := { process with state := .exited }
  have ended : kernel.endApplication = { kernel.modifyProcess pid exit with exited := true } := by
    rw [endApplication, hosts.application]
  have resettles : Resettles pid kernel { kernel.modifyProcess pid exit with exited := true } :=
    .of_modified (f := exit) rfl (fun _ _ => rfl) (fun _ _ => rfl) fun _ => rfl
  rw [ended] at hosts' ⊢
  exact resettles process process' hosts hosts'

theorem Served.resettles (served : Served core kernel after) : Resettles pid kernel after := by
  intro process process' hosts hosts' room
  cases served with
  | unchanged => exact Resettles.refl kernel process process' hosts hosts' room
  | resized heapSize found =>
      cases hosts.currentProcess found
      cases hosts.number
      cases hosts.eq_modified hosts' rfl
      exact .of_same rfl (fun _ => rfl) fun _ _ known => known
  | created found creates =>
      cases hosts.currentProcess found
      obtain ⟨slot, moves⟩ := hosts.moves creates hosts' room
      exact moves.resides
  | opened found creates holds opens =>
      cases hosts.currentProcess found
      obtain ⟨thread, held, created⟩ := hosts.created creates
      cases created.hosts.eq_of_find holds
      obtain ⟨slot, moves⟩ := hosts.moves creates created.hosts room
      rw [GuestProcess.addHandle_pid opens, created.hosts.number] at hosts' ⊢
      cases created.hosts.eq_modified hosts' rfl
      obtain ⟨handles, _, rfl⟩ := GuestProcess.addHandle_eq_ok opens
      exact moves.resides.trans (.of_same rfl (fun _ => rfl) fun _ _ known => known)
  | takenBack found creates known =>
      cases hosts.currentProcess found
      obtain ⟨thread, held, created⟩ := hosts.created creates
      rw [size_destroyThread] at room
      obtain ⟨slot, moves⟩ := hosts.moves creates created.hosts room
      exact moves.resides_destroyThread created.hosts known hosts'
  | started found starts =>
      have owner := (hosts.own_of_get (hosts.resolveThread found)).2
      exact startThread_resettles owner starts process process' hosts hosts' room
  | requested request =>
      cases hosts.eq_kept hosts' rfl
      exact .of_same rfl (fun _ => rfl) fun _ _ known => known
  | @prioritised _ thread priority _ found state changes =>
      cases hosts.eq_kept hosts' rfl
      exact .of_same rfl (fun _ => rfl) fun id addr known => (tlsAddress?_modifyThread kernel thread.id
        (·.setPriority priority) (fun _ => rfl) id).trans known
  | @prioritisedIdle _ thread priority found state =>
      cases hosts.eq_kept hosts' rfl
      exact .of_same rfl (fun _ => rfl) fun id addr known => (tlsAddress?_modifyThread kernel thread.id
        (·.setPriority priority) (fun _ => rfl) id).trans known
  | closed found closes =>
      cases hosts.currentProcess found
      obtain ⟨handles, _, rfl⟩ := GuestProcess.closeHandle_eq_ok closes
      cases hosts.number
      cases hosts.eq_modified hosts' (releaseObject_processes ..)
      exact .of_same rfl (fun _ => rfl) fun id addr known =>
        (tlsAddress?_releaseObject _ _ _ id).trans known
  | exited breakInfo =>
      have noted : Carries pid kernel { kernel with breakInfo } := .of_same rfl rfl rfl fun _ => rfl
      have same : Resettles pid kernel { kernel with breakInfo } := .of_kept rfl fun _ => rfl
      exact same.trans noted (endApplication_carries _) (endApplication_resettles _) process process'
        hosts hosts' room

theorem Moves.resides_handOver {slot : Nat} {holder : GuestProcess} {handle : Handle}
    (moves : Moves kernel process slot id made held)
    (opens : held.addHandle (.thread id) = .ok (handle, holder)) :
    Resides kernel process (made.handOver pid holder id handle) holder := by
  obtain ⟨handles, _, rfl⟩ := GuestProcess.addHandle_eq_ok opens
  refine moves.resides.trans (.of_same rfl (fun _ => rfl) fun id' addr known => ?_)
  exact (tlsAddress?_modifyThread made id (·.setRegister 1 handle.toUInt64) (fun _ => rfl) id').trans
    known

theorem Queued.resettles (queued : Queued kernel after) : Resettles pid kernel after := by
  intro process process' hosts hosts' room
  cases queued with
  | unchanged => exact Resettles.refl kernel process process' hosts hosts' room
  | created found creates =>
      cases hosts.eq_of_find found
      obtain ⟨slot, moves⟩ := hosts.moves creates hosts' room
      exact moves.resides
  | takenBack found creates known =>
      cases hosts.eq_of_find found
      obtain ⟨thread, held, created⟩ := hosts.created creates
      rw [size_destroyThread] at room
      obtain ⟨slot, moves⟩ := hosts.moves creates created.hosts room
      exact moves.resides_destroyThread created.hosts known hosts'
  | @opened _ _ holder holder' _ _ _ found creates holds opens =>
      cases hosts.eq_of_find found
      obtain ⟨thread, held, created⟩ := hosts.created creates
      cases created.hosts.eq_of_find holds
      rw [hosts.number] at hosts' room ⊢
      obtain ⟨slot, moves⟩ := hosts.moves creates created.hosts
        ((ObjectTable.size_modify ..).ge.trans room)
      cases created.hosts.eq_modified (f := fun _ => holder') hosts' rfl
      exact moves.resides_handOver opens
  | started found creates holds known opens starts =>
      cases hosts.eq_of_find found
      obtain ⟨thread, held, created⟩ := hosts.created creates
      cases created.hosts.eq_of_find holds
      rw [hosts.number] at starts
      have opened := created.carried_handOver opens
      have owner := (created.hosts.own _ _ known).2
      have settled := startThread_resettles owner starts _ _ opened.hosts hosts' room
      rw [size_startThread starts] at room
      obtain ⟨slot, moves⟩ := hosts.moves creates created.hosts
        ((ObjectTable.size_modify ..).ge.trans room)
      exact (moves.resides_handOver opens).trans settled

end Kernel

end GuestMachine
