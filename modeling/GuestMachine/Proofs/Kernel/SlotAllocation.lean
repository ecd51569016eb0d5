import Mathlib.Data.List.Perm.Subperm
import GuestMachine.Proofs.Kernel.ProcessMemory

/-! # Which slots are handed out

The history of a run tells which slots are held: those handed out and not given
back since. As long as nobody else maps in the thread-local region, the process
marks exactly these as used, and so hands out the lowest slot that is not held.
-/

namespace GuestMachine

open Layout

namespace GuestProcess

variable {slot other i : Nat} {addr : Address}

theorem tlsAddress_inj (below : slot < tlsCapacity) (below' : other < tlsCapacity)
    (same : tlsAddress slot = tlsAddress other) : slot = other := by
  have found := tlsSlotOf?_tlsAddress below
  rw [same, tlsSlotOf?_tlsAddress below'] at found
  exact (Option.some.inj found).symm

theorem InSlot.unique (below : slot < tlsCapacity) (below' : other < tlsCapacity)
    (inside : InSlot slot i) (inside' : InSlot other i) : slot = other := by
  rw [inSlot_iff below] at inside
  rw [inSlot_iff below'] at inside'
  omega

theorem tlsSlotOf?_eq_some_iff (below : slot < tlsCapacity) :
    tlsSlotOf? addr = some slot ↔ InSlot slot addr.toNat := by
  have base : tlsBase.toNat = 0x1280000000 := rfl
  have entry : tlsEntrySize.toNat = 0x200 := rfl
  rw [inSlot_iff below, tlsSlotOf?, base]
  split
  · rename_i lower
    rw [UInt64.lt_iff_toNat_lt, base] at lower
    constructor
    · intro absurdity
      cases absurdity
    · omega
  · rename_i above
    rw [UInt64.not_lt] at above
    rw [Option.some_inj, UInt64.toNat_div, UInt64.toNat_sub_of_le _ _ above, base, entry]
    rw [UInt64.le_iff_toNat_le, base] at above
    omega

variable {process : GuestProcess} {memory : AddressSpace}

theorem usesSlot_of_lt_freeTlsSlot (lower : slot < process.freeTlsSlot) :
    process.usesSlot slot := by
  have within : slot < process.tlsSlots.length := Nat.lt_of_lt_of_le lower List.findIdx_le_length
  have used := List.not_of_lt_findIdx lower
  rw [usesSlot, List.getElem?_eq_getElem within]
  simpa using used

/-- An address gives back the slot that it lies in. -/
theorem usesSlot_freeTls_iff (below : slot < tlsCapacity) :
    (process.freeTls addr).usesSlot slot ↔ process.usesSlot slot ∧ ¬ InSlot slot addr.toNat := by
  rw [← tlsSlotOf?_eq_some_iff below, freeTls]
  cases found : tlsSlotOf? addr with
  | none => simp
  | some freed =>
      simp only [usesSlot, Option.some_inj]
      grind

/-- Slots that were never handed out are not given back. -/
theorem usesSlot_of_usesSlot_freeTls (used : (process.freeTls addr).usesSlot slot) :
    process.usesSlot slot := by
  rw [freeTls] at used
  split at used
  · simp only [usesSlot] at used ⊢
    grind
  · exact used

theorem freeTls_of_unused (unused : ∀ slot, process.usesSlot slot → ¬ tlsSlotOf? addr = some slot) :
    process.freeTls addr = process := by
  rw [freeTls]
  split
  · rename_i slot found
    have free : process.usesSlot slot = false := by
      rw [← Bool.not_eq_true]
      exact fun used => unused slot used found
    have same : process.tlsSlots.set slot false = process.tlsSlots := by
      apply List.ext_getElem?
      intro i
      rw [usesSlot] at free
      grind
    rw [same]
  · rfl

theorem isMapped_pageAlignDown (memory : AddressSpace) (addr : Address) :
    memory.isMapped (pageAlignDown addr) = (memory.flags? (addr.toNat / pageSize)).isSome := by
  rw [AddressSpace.isMapped, AddressSpace.toNat_pageAlignDown, Nat.mul_div_cancel _ pageSize_pos,
    Std.TreeMap.contains_eq_isSome_getElem?, AddressSpace.flags?, Option.isSome_map]

/-- A page of slots is whatever the process made of it, or it is not mapped yet. -/
def SlotPageReady (memory : AddressSpace) (slot : Nat) : Prop :=
  memory.flags? (slotPage slot) = none ∨ memory.flags? (slotPage slot) = some PageFlags.rw

theorem wholePages_slotPage (below : slot < tlsCapacity) :
    WholePages (pageAlignDown (tlsAddress slot)) (UInt64.ofNat pageSize) := by
  have bound : slot < 524288 := below
  have base : tlsBase.toNat = 0x1280000000 := rfl
  have entry : tlsEntrySize.toNat = 0x200 := rfl
  have bytes : pageSize = 4096 := rfl
  have size : (UInt64.ofNat 4096).toNat = 4096 := rfl
  have top : addressSpaceSize = 2 ^ 39 := rfl
  have address := toNat_tlsAddress below
  rw [base, entry] at address
  constructor <;> simp only [AddressSpace.toNat_pageAlignDown, bytes, size, top] <;> omega

/-- If its page can be had, a free slot can be. -/
theorem SlotPageReady.prepare (below : slot < tlsCapacity) (ready : SlotPageReady memory slot) :
    ∃ middle, (if memory.isMapped (pageAlignDown (tlsAddress slot)) then pure memory
      else (memory.map (pageAlignDown (tlsAddress slot)) (UInt64.ofNat pageSize)
        PageFlags.rw).mapError KernelError.memory) = .ok middle ∧
      middle.flags? (slotPage slot) = some PageFlags.rw := by
  rw [isMapped_pageAlignDown, ← slotPage]
  rcases ready with absent | present
  · have size : (UInt64.ofNat pageSize).toNat = pageSize := rfl
    have onPage (i : Nat) (lower : (pageAlignDown (tlsAddress slot)).toNat ≤ i)
        (upper : i < (pageAlignDown (tlsAddress slot)).toNat + pageSize) :
        i / pageSize = slotPage slot := by
      rw [AddressSpace.toNat_pageAlignDown] at lower upper
      exact Nat.div_eq_of_lt_le lower (by rwa [Nat.succ_mul])
    obtain ⟨middle, mapped, remapped⟩ := AddressSpace.map_of_free (wholePages_slotPage below)
      (fun i lower upper => (onPage i lower upper).symm ▸ absent) PageFlags.rw
    refine ⟨middle, by rw [absent, mapped]; rfl, ?_⟩
    have here : (pageAlignDown (tlsAddress slot)).toNat ≤ (pageAlignDown (tlsAddress slot)).toNat ∧
        (pageAlignDown (tlsAddress slot)).toNat < (pageAlignDown (tlsAddress slot)).toNat +
          (UInt64.ofNat pageSize).toNat := ⟨Nat.le_refl _, Nat.lt_add_of_pos_right pageSize_pos⟩
    have first := remapped.flags (pageAlignDown (tlsAddress slot)).toNat
    rwa [if_pos here, onPage _ here.1 here.2] at first
  · exact ⟨memory, by rw [present]; rfl, present⟩

/-- The lowest free slot is taken and cleared if its page can be had. -/
theorem allocateTls_of_ready (below : process.freeTlsSlot < tlsCapacity)
    (ready : SlotPageReady memory process.freeTlsSlot) :
    ∃ held memory', process.allocateTls memory =
        .ok (tlsAddress process.freeTlsSlot, held, memory') ∧
      memory'.flags? (slotPage process.freeTlsSlot) = some PageFlags.rw ∧
      ∀ i, InSlot process.freeTlsSlot i → memory'.byte? i = some 0 := by
  obtain ⟨middle, prepared, mapped⟩ := ready.prepare below
  obtain ⟨memory', writes⟩ := writes_slot below mapped List.length_replicate
  have wrote : middle.write (tlsAddress process.freeTlsSlot) (List.replicate tlsEntrySize.toNat 0) =
      .ok memory' := Operation.result_of_ok writes
  have written := AddressSpace.Written.of_write wrote
  have allocated : ∃ held, process.allocateTls memory =
      .ok (tlsAddress process.freeTlsSlot, held, memory') := by
    rw [allocateTls_eq]
    simp only [if_neg (Nat.not_le_of_lt below)]
    by_cases present : memory.isMapped (pageAlignDown (tlsAddress process.freeTlsSlot))
    · rw [if_pos present] at prepared ⊢
      cases prepared
      dsimp only [pure, Except.pure, bind, Except.bind]
      rw [wrote]
      exact ⟨_, rfl⟩
    · rw [if_neg present] at prepared ⊢
      rw [prepared]
      dsimp only [bind, Except.bind]
      rw [wrote]
      exact ⟨_, rfl⟩
  obtain ⟨held, allocated⟩ := allocated
  exact ⟨held, memory', allocated, (written.flags _).trans mapped,
    fun i inside => written.zeros inside.1 inside.2⟩

theorem allocateTls_of_full (full : tlsCapacity ≤ process.freeTlsSlot) (memory : AddressSpace) :
    process.allocateTls memory = .error .resourceLimit := by
  rw [allocateTls_eq]
  exact if_pos full

end GuestProcess

namespace ProcessMemory

/-- A call may hand out a slot, or give back the slot that an address lies in. -/
def leasesAfter (state : ProcessMemory) (held : List Address) : ProcessCall → List Address
  | .allocateTls =>
      match state.process.allocateTls state.memory with
      | .ok (addr, _) => addr :: held
      | .error _ => held
  | .freeTls addr => held.filter fun slot => ¬ InArea slot tlsEntrySize addr.toNat
  | .resizeHeap _ | .memory _ => held

/-- The slots handed out and not given back, where `held` were so before. -/
def leases (state : ProcessMemory) (held : List Address) : List ProcessCall → List Address
  | [] => held
  | call :: calls => (state.perform call).leases (state.leasesAfter held call) calls

open GuestProcess

/-- The process has marked the slots that are held, and made their pages. -/
structure HoldsSlots (state : ProcessMemory) (held : List Address) : Prop where
  sized : ValidHeapSize state.process.heapSize
  nodup : held.Nodup
  uses_iff : ∀ slot, state.process.usesSlot slot ↔ slot < tlsCapacity ∧ tlsAddress slot ∈ held
  slots : ∀ addr ∈ held, ∃ slot, slot < tlsCapacity ∧ addr = tlsAddress slot
  pages : ∀ i, InArea tlsBase tlsSize i → state.memory.flags? (i / pageSize) = none ∨
    state.memory.flags? (i / pageSize) = some PageFlags.rw
  mapped : ∀ slot, state.process.usesSlot slot →
    state.memory.flags? (slotPage slot) = some PageFlags.rw

namespace HoldsSlots

variable {state : ProcessMemory} {held : List Address} {slot : Nat} {addr : Address}

theorem inArea_of_slot (below : slot < tlsCapacity) {i : Nat} (inside : InSlot slot i) :
    InArea tlsBase tlsSize i :=
  inArea_of_slotPage below (inside.page below)

theorem ready (holds : state.HoldsSlots held) (below : slot < tlsCapacity) :
    SlotPageReady state.memory slot :=
  holds.pages _ (inArea_of_slotPage below rfl)

theorem ofParams (pid : ProcessId) (params : ProcessParams) :
    (ProcessMemory.ofParams pid params).HoldsSlots [] where
  sized := .zero
  nodup := List.nodup_nil
  uses_iff slot := by simp [usesSlot, ProcessMemory.ofParams, GuestProcess.ofParams]
  slots addr member := by cases member
  pages i _ := .inl (AddressSpace.empty_represents.flags (i / pageSize))
  mapped slot used := by simp [usesSlot, ProcessMemory.ofParams, GuestProcess.ofParams] at used

theorem nodup_slots : ((List.range tlsCapacity).map tlsAddress).Nodup := by
  apply List.Nodup.map_on _ List.nodup_range
  intro slot below other below' same
  exact tlsAddress_inj (List.mem_range.mp below) (List.mem_range.mp below') same

/-- There is a free slot exactly if not all are held. -/
theorem freeTlsSlot_lt_iff (holds : state.HoldsSlots held) :
    state.process.freeTlsSlot < tlsCapacity ↔ held.length < tlsCapacity := by
  constructor
  · intro below
    have free := state.process.usesSlot_freeTlsSlot
    have fresh : tlsAddress state.process.freeTlsSlot ∉ held := by
      intro member
      have used := (holds.uses_iff _).mpr ⟨below, member⟩
      rw [free] at used
      cases used
    have among : tlsAddress state.process.freeTlsSlot :: held ⊆
        (List.range tlsCapacity).map tlsAddress := by
      intro addr member
      rcases List.mem_cons.mp member with rfl | member
      · exact List.mem_map_of_mem (List.mem_range.mpr below)
      · obtain ⟨slot, below', rfl⟩ := holds.slots addr member
        exact List.mem_map_of_mem (List.mem_range.mpr below')
    have fewer := (List.subperm_of_subset (List.nodup_cons.mpr ⟨fresh, holds.nodup⟩) among).length_le
    rw [List.length_map, List.length_range, List.length_cons] at fewer
    exact fewer
  · intro fewer
    by_contra beyond
    have all : (List.range tlsCapacity).map tlsAddress ⊆ held := by
      intro addr member
      obtain ⟨slot, below, rfl⟩ := List.mem_map.mp member
      have lower := Nat.lt_of_lt_of_le (List.mem_range.mp below) (Nat.le_of_not_lt beyond)
      exact ((holds.uses_iff slot).mp (usesSlot_of_lt_freeTlsSlot lower)).2
    have more := (List.subperm_of_subset nodup_slots all).length_le
    rw [List.length_map, List.length_range] at more
    omega

/-- Nothing about the slots has changed. -/
theorem of_same {after : ProcessMemory} (holds : state.HoldsSlots held)
    (sized : ValidHeapSize after.process.heapSize)
    (slots : after.process.tlsSlots = state.process.tlsSlots)
    (flags : ∀ i, InArea tlsBase tlsSize i →
      after.memory.flags? (i / pageSize) = state.memory.flags? (i / pageSize)) :
    after.HoldsSlots held where
  sized
  nodup := holds.nodup
  uses_iff slot := by
    rw [usesSlot, slots]
    exact holds.uses_iff slot
  slots := holds.slots
  pages i inside := by
    rw [flags i inside]
    exact holds.pages i inside
  mapped slot used := by
    rw [usesSlot, slots] at used
    have below := ((holds.uses_iff slot).mp used).1
    rw [slotPage, flags _ (inArea_of_slotPage below rfl)]
    exact holds.mapped slot used

theorem of_takesSlot {process : GuestProcess} {memory : AddressSpace} (holds : state.HoldsSlots held)
    (takes : state.process.TakesSlot state.memory slot process memory)
    (mapped : memory.flags? (slotPage slot) = some PageFlags.rw) :
    HoldsSlots ⟨process, memory⟩ (tlsAddress slot :: held) where
  sized := by
    obtain ⟨tlsSlots, rfl⟩ := takes.same
    exact holds.sized
  nodup := by
    refine List.nodup_cons.mpr ⟨fun member => ?_, holds.nodup⟩
    have used := (holds.uses_iff slot).mpr ⟨takes.below, member⟩
    rw [takes.free] at used
    cases used
  uses_iff other := by
    rw [takes.uses, Bool.or_eq_true, beq_iff_eq, holds.uses_iff, List.mem_cons]
    constructor
    · rintro (rfl | ⟨below, member⟩)
      · exact ⟨takes.below, .inl rfl⟩
      · exact ⟨below, .inr member⟩
    · rintro ⟨below, same | member⟩
      · exact .inl (tlsAddress_inj below takes.below same)
      · exact .inr ⟨below, member⟩
  slots addr member := by
    rcases List.mem_cons.mp member with rfl | member
    · exact ⟨slot, takes.below, rfl⟩
    · exact holds.slots addr member
  pages i inside := by
    rcases takes.clears.flags (i / pageSize) with same | ⟨_, _, fresh⟩
    · rw [same]
      exact holds.pages i inside
    · exact .inr fresh
  mapped other used := by
    rcases takes.clears.flags (slotPage other) with same | ⟨_, _, fresh⟩
    · rw [takes.uses, Bool.or_eq_true, beq_iff_eq] at used
      rcases used with rfl | used
      · exact mapped
      · rw [same]
        exact holds.mapped other used
    · exact fresh

theorem of_freeTls (holds : state.HoldsSlots held) (addr : Address) :
    HoldsSlots { state with process := state.process.freeTls addr }
      (held.filter fun slot => ¬ InArea slot tlsEntrySize addr.toNat) where
  sized := by
    obtain ⟨tlsSlots, freed⟩ := state.process.freeTls_eq addr
    rw [freed]
    exact holds.sized
  nodup := holds.nodup.filter _
  uses_iff slot := by
    rw [List.mem_filter, decide_eq_true_iff]
    constructor
    · intro used
      obtain ⟨below, member⟩ := (holds.uses_iff slot).mp (usesSlot_of_usesSlot_freeTls used)
      exact ⟨below, member, ((usesSlot_freeTls_iff below).mp used).2⟩
    · rintro ⟨below, member, away⟩
      exact (usesSlot_freeTls_iff below).mpr ⟨(holds.uses_iff slot).mpr ⟨below, member⟩, away⟩
  slots slot member := holds.slots slot (List.mem_of_mem_filter member)
  pages := holds.pages
  mapped slot used := holds.mapped slot (usesSlot_of_usesSlot_freeTls used)

theorem allocates (holds : state.HoldsSlots held)
    (below : state.process.freeTlsSlot < tlsCapacity) :
    ∃ process memory,
      state.process.allocateTls state.memory =
        .ok (tlsAddress state.process.freeTlsSlot, process, memory) ∧
      state.process.TakesSlot state.memory state.process.freeTlsSlot process memory ∧
      memory.flags? (slotPage state.process.freeTlsSlot) = some PageFlags.rw ∧
      ∀ i, InSlot state.process.freeTlsSlot i → memory.byte? i = some 0 := by
  obtain ⟨process, memory, allocated, mapped, zeros⟩ := allocateTls_of_ready below (holds.ready below)
  obtain ⟨slot, same, takes⟩ := TakesSlot.of_allocateTls allocated
  cases tlsAddress_inj below takes.below same
  exact ⟨process, memory, allocated, takes, mapped, zeros⟩

theorem perform (holds : state.HoldsSlots held) {call : ProcessCall}
    (spares : call.Spares tlsBase tlsSize) :
    (state.perform call).HoldsSlots (state.leasesAfter held call) := by
  cases call with
  | resizeHeap size =>
      have sized := validHeapSize_perform holds.sized (.resizeHeap size)
      rw [perform_resizeHeap] at sized ⊢
      split
      · rename_i resized
        rw [resized] at sized
        refine holds.of_same sized (by rw [setHeapSize_eq_ok resized]) fun i inside => ?_
        exact flags?_setHeapSize holds.sized resized fun heap => heap_apart_tls heap inside
      · exact holds
  | allocateTls =>
      by_cases below : state.process.freeTlsSlot < tlsCapacity
      · obtain ⟨process, memory, allocated, takes, mapped, _⟩ := holds.allocates below
        rw [perform_allocateTls, leasesAfter, allocated]
        exact holds.of_takesSlot takes mapped
      · rw [perform_allocateTls, leasesAfter,
          allocateTls_of_full (Nat.le_of_not_lt below) state.memory]
        exact holds
  | freeTls addr => exact holds.of_freeTls addr
  | memory call =>
      exact holds.of_same holds.sized rfl fun i inside => MemoryCall.flags?_perform (spares i inside)

theorem performAll (holds : state.HoldsSlots held) {calls : List ProcessCall}
    (spares : ∀ call ∈ calls, call.Spares tlsBase tlsSize) :
    (state.performAll calls).HoldsSlots (state.leases held calls) := by
  induction calls generalizing state held with
  | nil => exact holds
  | cons call calls ih =>
      obtain ⟨first, others⟩ := List.forall_mem_cons.mp spares
      exact ih (holds.perform first) others

end HoldsSlots

/-- The lowest slot that is not held is handed out, cleared. -/
structure TakesLowest (state : ProcessMemory) (held : List Address) (slot : Nat)
    (process : GuestProcess) (memory : AddressSpace) : Prop where
  allocated : state.process.allocateTls state.memory = .ok (tlsAddress slot, process, memory)
  below : slot < tlsCapacity
  fresh : tlsAddress slot ∉ held
  lowest : ∀ lower, lower < slot → tlsAddress lower ∈ held
  mapped : memory.pageFlags? (tlsAddress slot) = some PageFlags.rw
  zeros : memory.read (tlsAddress slot) tlsEntrySize.toNat =
    .ok (List.replicate tlsEntrySize.toNat 0)
  others : ∀ other ∈ held, ∀ i, InArea other tlsEntrySize i →
    memory.byte? i = state.memory.byte? i
  /-- No other byte changes, unless the page of the slot is new. -/
  elsewhere : ∀ i, ¬ InSlot slot i → (state.memory.byte? i).isSome →
    memory.byte? i = state.memory.byte? i

/-- The slots that are held share no byte, and what can be done next. -/
structure LeasesSlots (state : ProcessMemory) (held : List Address) : Prop where
  apart : held.Pairwise fun one other =>
    ∀ i, InArea one tlsEntrySize i → ¬ InArea other tlsEntrySize i
  inside : ∀ addr ∈ held, ∀ i, InArea addr tlsEntrySize i → InArea tlsBase tlsSize i
  uses_iff : ∀ slot, state.process.usesSlot slot ↔ slot < tlsCapacity ∧ tlsAddress slot ∈ held
  takes : held.length < tlsCapacity →
    ∃ slot process memory, state.TakesLowest held slot process memory
  full : tlsCapacity ≤ held.length →
    state.process.allocateTls state.memory = .error .resourceLimit
  refused : ∀ e, state.process.allocateTls state.memory = .error e →
    state.perform .allocateTls = state ∧ state.leasesAfter held .allocateTls = held
  frees_iff : ∀ addr slot, slot < tlsCapacity → ((state.process.freeTls addr).usesSlot slot ↔
    tlsAddress slot ∈ held ∧ ¬ InSlot slot addr.toNat)
  ignores : ∀ addr, (∀ slot ∈ held, ¬ InArea slot tlsEntrySize addr.toNat) →
    state.process.freeTls addr = state.process

namespace HoldsSlots

variable {state : ProcessMemory} {held : List Address}

theorem inSlot_of_mem (holds : state.HoldsSlots held) {addr : Address} (member : addr ∈ held)
    {i : Nat} (inside : InArea addr tlsEntrySize i) :
    ∃ slot, slot < tlsCapacity ∧ state.process.usesSlot slot ∧ addr = tlsAddress slot ∧
      InSlot slot i := by
  obtain ⟨slot, below, rfl⟩ := holds.slots addr member
  exact ⟨slot, below, (holds.uses_iff slot).mpr ⟨below, member⟩, rfl, inside⟩

theorem takesLowest (holds : state.HoldsSlots held)
    (below : state.process.freeTlsSlot < tlsCapacity) :
    ∃ process memory, state.TakesLowest held state.process.freeTlsSlot process memory := by
  obtain ⟨process, memory, allocated, takes, mapped, zeros⟩ := holds.allocates below
  have allowed := allowed_of_slotPage below mapped
  have elsewhere (i : Nat) (away : ¬ InSlot state.process.freeTlsSlot i)
      (old : (state.memory.byte? i).isSome) : memory.byte? i = state.memory.byte? i := by
    rcases takes.clears.bytes i with same | ⟨_, inside | ⟨_, absent⟩⟩
    · exact same
    · exact absurd inside away
    · rw [absent] at old
      cases old
  refine ⟨process, memory, allocated, below, fun member => ?_, fun lower less => ?_, mapped, ?_,
    fun other member i inside => ?_, elsewhere⟩
  · have used := (holds.uses_iff _).mpr ⟨below, member⟩
    rw [takes.free] at used
    cases used
  · exact ((holds.uses_iff lower).mp (usesSlot_of_lt_freeTlsSlot less)).2
  · refine AddressSpace.read_zeros allowed.1 fun i lower upper => ⟨?_, zeros i ⟨lower, upper⟩⟩
    rw [InSlot.page below ⟨lower, upper⟩]
    exact mapped
  · obtain ⟨slot, below', used, rfl, here⟩ := holds.inSlot_of_mem member inside
    apply elsewhere
    · intro there
      rw [here.unique below' below there, takes.free] at used
      cases used
    · have page := holds.mapped slot used
      rw [← here.page below'] at page
      rw [Option.isSome_iff_ne_none, Ne, AddressSpace.byte?_eq_none_iff, page]
      exact Option.some_ne_none _

theorem leasesSlots (holds : state.HoldsSlots held) : state.LeasesSlots held where
  apart := by
    refine holds.nodup.imp_of_mem fun {one other} member member' different i inside inside' => ?_
    obtain ⟨slot, below, _, rfl, here⟩ := holds.inSlot_of_mem member inside
    obtain ⟨slot', below', _, rfl, there⟩ := holds.inSlot_of_mem member' inside'
    exact different (congrArg tlsAddress (here.unique below below' there))
  inside addr member i within := by
    obtain ⟨slot, below, _, _, here⟩ := holds.inSlot_of_mem member within
    exact inArea_of_slot below here
  uses_iff := holds.uses_iff
  takes fewer := ⟨_, holds.takesLowest (holds.freeTlsSlot_lt_iff.mpr fewer)⟩
  full more := by
    refine allocateTls_of_full (Nat.le_of_not_lt fun below => ?_) state.memory
    exact Nat.not_lt.mpr more (holds.freeTlsSlot_lt_iff.mp below)
  refused e failed := by
    rw [perform_allocateTls, leasesAfter, failed]
    exact ⟨rfl, rfl⟩
  frees_iff addr slot below := by
    rw [usesSlot_freeTls_iff below, holds.uses_iff]
    simp only [below, true_and]
  ignores addr away := by
    refine freeTls_of_unused fun slot used found => ?_
    obtain ⟨below, member⟩ := (holds.uses_iff slot).mp used
    exact away _ member ((tlsSlotOf?_eq_some_iff below).mp found)

end HoldsSlots

/-- After any calls to a process and its memory, if nobody else maps in the
    thread-local region, slots are handed out to one holder at a time. -/
theorem performAll_leasesSlots (pid : ProcessId) (params : ProcessParams)
    {calls : List ProcessCall} (spares : ∀ call ∈ calls, call.Spares tlsBase tlsSize) :
    ((ofParams pid params).performAll calls).LeasesSlots ((ofParams pid params).leases [] calls) :=
  ((HoldsSlots.ofParams pid params).performAll spares).leasesSlots

end ProcessMemory

end GuestMachine
