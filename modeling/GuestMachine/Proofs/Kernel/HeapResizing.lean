import GuestMachine.Proofs.Kernel.ProcessMemory

/-! # Growing and shrinking the heap

A resize maps or unmaps only what the heap gains or loses. As long as nobody
else maps in the heap region, exactly the heap is mapped there, so that every
valid size can be reached from every other.
-/

namespace GuestMachine

open Layout

/-- Memory after a heap of `old` bytes has been resized to `new` bytes. -/
structure AddressSpace.HeapMoved (before after : AddressSpace) (old new : UInt64) : Prop where
  /-- Neither the part of the heap that stays nor anything else changes. -/
  kept : ∀ i, (InArea heapBase old i ↔ InArea heapBase new i) →
    after.flags? (i / pageSize) = before.flags? (i / pageSize) ∧ after.byte? i = before.byte? i
  added : ∀ i, ¬ InArea heapBase old i → InArea heapBase new i →
    after.flags? (i / pageSize) = some PageFlags.rw ∧ after.byte? i = some 0
  removed : ∀ i, InArea heapBase old i → ¬ InArea heapBase new i →
    after.flags? (i / pageSize) = none ∧ after.byte? i = none

namespace AddressSpace

variable {before after : AddressSpace} {old new : UInt64} {addr : Address} {len : Nat}

theorem HeapMoved.of_grown (valid : ValidHeapSize old) (less : old < new)
    (remapped : before.Remapped after (heapBase + old).toNat (new - old).toNat
      (some PageFlags.rw)) : before.HeapMoved after old new := by
  have less' := UInt64.lt_iff_toNat_lt.mp less
  rw [valid.toNat_end, UInt64.toNat_sub_of_le _ _
    (UInt64.le_iff_toNat_le.mpr (Nat.le_of_lt less'))] at remapped
  constructor
  · intro i same
    rw [InArea, InArea] at same
    have outside : ¬ (heapBase.toNat + old.toNat ≤ i ∧
        i < heapBase.toNat + old.toNat + (new.toNat - old.toNat)) := by omega
    rw [remapped.flags, remapped.bytes, if_neg outside, if_neg outside]
    exact ⟨rfl, rfl⟩
  · intro i outside inside
    rw [InArea] at outside inside
    have added : heapBase.toNat + old.toNat ≤ i ∧
        i < heapBase.toNat + old.toNat + (new.toNat - old.toNat) := by omega
    rw [remapped.flags, remapped.bytes, if_pos added, if_pos added]
    exact ⟨rfl, rfl⟩
  · intro i inside outside
    rw [InArea] at inside outside
    omega

theorem HeapMoved.of_shrunk (valid : ValidHeapSize new) (less : new < old)
    (remapped : before.Remapped after (heapBase + new).toNat (old - new).toNat none) :
    before.HeapMoved after old new := by
  have less' := UInt64.lt_iff_toNat_lt.mp less
  rw [valid.toNat_end, UInt64.toNat_sub_of_le _ _
    (UInt64.le_iff_toNat_le.mpr (Nat.le_of_lt less'))] at remapped
  constructor
  · intro i same
    rw [InArea, InArea] at same
    have outside : ¬ (heapBase.toNat + new.toNat ≤ i ∧
        i < heapBase.toNat + new.toNat + (old.toNat - new.toNat)) := by omega
    rw [remapped.flags, remapped.bytes, if_neg outside, if_neg outside]
    exact ⟨rfl, rfl⟩
  · intro i outside inside
    rw [InArea] at outside inside
    omega
  · intro i inside outside
    rw [InArea] at inside outside
    have removed : heapBase.toNat + new.toNat ≤ i ∧
        i < heapBase.toNat + new.toNat + (old.toNat - new.toNat) := by omega
    rw [remapped.flags, remapped.bytes, if_pos removed, if_pos removed]
    exact ⟨rfl, rfl⟩

theorem HeapMoved.refl (space : AddressSpace) (size : UInt64) : space.HeapMoved space size size where
  kept _ _ := ⟨rfl, rfl⟩
  added _ outside inside := absurd inside outside
  removed _ inside outside := absurd inside outside

/-- What the heap gained reads as zeros. -/
theorem HeapMoved.read_added (moved : before.HeapMoved after old new) (valid : ValidHeapSize new)
    (front : heapBase.toNat + old.toNat ≤ addr.toNat)
    (back : addr.toNat + len ≤ heapBase.toNat + new.toNat) :
    after.read addr len = .ok (List.replicate len 0) := by
  have within := valid.toNat_le
  have base : heapBase.toNat = 0x80000000 := rfl
  have top : addressSpaceSize = 2 ^ 39 := rfl
  apply read_zeros
  · omega
  · intro i lower upper
    apply moved.added i
    · rw [InArea]
      omega
    · rw [InArea]
      omega

end AddressSpace

/-- Exactly the heap is mapped in the heap region. -/
structure ProcessMemory.HoldsHeap (state : ProcessMemory) : Prop where
  valid : ValidHeapSize state.process.heapSize
  flags : ∀ i, InArea heapBase Layout.heapSize i → state.memory.flags? (i / pageSize) =
    if InArea heapBase state.process.heapSize i then some PageFlags.rw else none

namespace ProcessMemory

variable {state : ProcessMemory} {memory : AddressSpace} {size : UInt64}

theorem HoldsHeap.resize (heap : state.HoldsHeap) (valid : ValidHeapSize size) :
    ∃ memory, state.process.setHeapSize state.memory size =
        .ok ({ state.process with heapSize := size }, memory) ∧
      state.memory.HeapMoved memory state.process.heapSize size := by
  have old := heap.valid.toNat_le
  have new := valid.toNat_le
  have region : Layout.heapSize.toNat = 0x180000000 := rfl
  rcases Nat.lt_trichotomy state.process.heapSize.toNat size.toNat with more | same | less
  · have more := UInt64.lt_iff_toNat_lt.mpr more
    have pages := heap.valid.wholePages valid more
    have free (i : Nat) (lower : (heapBase + state.process.heapSize).toNat ≤ i)
        (upper : i < (heapBase + state.process.heapSize).toNat +
          (size - state.process.heapSize).toNat) :
        state.memory.flags? (i / pageSize) = none := by
      rw [heap.valid.toNat_end] at lower upper
      rw [UInt64.toNat_sub_of_le _ _ (UInt64.le_of_lt more)] at upper
      rw [heap.flags i (by rw [InArea, region]; omega), if_neg (by rw [InArea]; omega)]
    obtain ⟨memory, mapped, remapped⟩ := AddressSpace.map_of_free pages free PageFlags.rw
    exact ⟨memory, GuestProcess.setHeapSize_eq_ok_iff.mpr ⟨valid, rfl, .inl ⟨more, mapped⟩⟩,
      .of_grown heap.valid more remapped⟩
  · have same := UInt64.toNat_inj.mp same
    exact ⟨state.memory,
      GuestProcess.setHeapSize_eq_ok_iff.mpr ⟨valid, rfl, .inr (.inr ⟨same.symm, rfl⟩)⟩,
      same ▸ .refl state.memory _⟩
  · have less := UInt64.lt_iff_toNat_lt.mpr less
    have pages := valid.wholePages heap.valid less
    have held (i : Nat) (lower : (heapBase + size).toNat ≤ i)
        (upper : i < (heapBase + size).toNat + (state.process.heapSize - size).toNat) :
        (state.memory.flags? (i / pageSize)).isSome := by
      rw [valid.toNat_end] at lower upper
      rw [UInt64.toNat_sub_of_le _ _ (UInt64.le_of_lt less)] at upper
      rw [heap.flags i (by rw [InArea, region]; omega), if_pos (by rw [InArea]; omega)]
      rfl
    obtain ⟨memory, unmapped, remapped⟩ := AddressSpace.unmap_of_mapped pages held
    exact ⟨memory,
      GuestProcess.setHeapSize_eq_ok_iff.mpr ⟨valid, rfl, .inr (.inl ⟨less, unmapped⟩)⟩,
      .of_shrunk valid less remapped⟩

theorem HoldsHeap.of_moved (heap : state.HoldsHeap) (valid : ValidHeapSize size)
    (moved : state.memory.HeapMoved memory state.process.heapSize size) :
    HoldsHeap ⟨{ state.process with heapSize := size }, memory⟩ where
  valid
  flags i inside := by
    have shown := heap.flags i inside
    by_cases before : InArea heapBase state.process.heapSize i <;>
      by_cases after : InArea heapBase size i
    · exact ((moved.kept i (iff_of_true before after)).1.trans shown).trans (by
        rw [if_pos before, if_pos after])
    · exact (moved.removed i before after).1.trans (if_neg after).symm
    · exact (moved.added i before after).1.trans (if_pos after).symm
    · exact ((moved.kept i (iff_of_false before after)).1.trans shown).trans (by
        rw [if_neg before, if_neg after])

/-- Nobody changed the heap or the permissions of a page of its region. -/
theorem HoldsHeap.of_same {after : ProcessMemory} (heap : state.HoldsHeap)
    (size : after.process.heapSize = state.process.heapSize)
    (flags : ∀ i, InArea heapBase Layout.heapSize i →
      after.memory.flags? (i / pageSize) = state.memory.flags? (i / pageSize)) :
    after.HoldsHeap where
  valid := size ▸ heap.valid
  flags i inside := by
    rw [flags i inside, size]
    exact heap.flags i inside

theorem ofParams_holdsHeap (pid : ProcessId) (params : ProcessParams) :
    (ofParams pid params).HoldsHeap where
  valid := .zero
  flags i _ := by
    have empty : ¬ InArea heapBase (ofParams pid params).process.heapSize i := by
      rw [InArea, show (ofParams pid params).process.heapSize.toNat = 0 from rfl]
      omega
    rw [if_neg empty]
    exact AddressSpace.empty_represents.flags (i / pageSize)

theorem HoldsHeap.perform (heap : state.HoldsHeap) {call : ProcessCall}
    (spares : call.Spares heapBase Layout.heapSize) : (state.perform call).HoldsHeap := by
  cases call with
  | resizeHeap size =>
      by_cases valid : ValidHeapSize size
      · obtain ⟨memory, resized, moved⟩ := heap.resize valid
        rw [perform_resizeHeap, resized]
        exact heap.of_moved valid moved
      · rw [perform_resizeHeap, GuestProcess.setHeapSize_of_not_valid valid]
        exact heap
  | allocateTls =>
      rw [perform_allocateTls]
      split
      · rename_i allocated
        obtain ⟨slot, _, takes⟩ := GuestProcess.TakesSlot.of_allocateTls allocated
        obtain ⟨tlsSlots, rfl⟩ := takes.same
        exact heap.of_same rfl fun i inside => takes.flags?_of_away fun slots => heap_apart_tls inside slots
      · exact heap
  | freeTls addr =>
      obtain ⟨tlsSlots, freed⟩ := state.process.freeTls_eq addr
      rw [ProcessMemory.perform, freed]
      exact heap.of_same rfl fun _ _ => rfl
  | memory call =>
      exact heap.of_same rfl fun i inside => MemoryCall.flags?_perform (spares i inside)

theorem HoldsHeap.performAll (heap : state.HoldsHeap) {calls : List ProcessCall}
    (spares : ∀ call ∈ calls, call.Spares heapBase Layout.heapSize) :
    (state.performAll calls).HoldsHeap := by
  induction calls generalizing state with
  | nil => exact heap
  | cons call calls ih =>
      obtain ⟨first, others⟩ := List.forall_mem_cons.mp spares
      exact ih (heap.perform first) others

/-- What a resize to any size does. -/
structure ResizesHeap (state : ProcessMemory) (size : UInt64) : Prop where
  succeeds_iff : (∃ outcome, state.process.setHeapSize state.memory size = .ok outcome) ↔
    ValidHeapSize size
  refused : ¬ ValidHeapSize size →
    state.process.setHeapSize state.memory size =
      .error (if size % heapAlignment = 0 then .memory .outOfMemory else .invalidSize size) ∧
    state.perform (.resizeHeap size) = state
  moved : ValidHeapSize size →
    (state.perform (.resizeHeap size)).process = { state.process with heapSize := size } ∧
    state.memory.HeapMoved (state.perform (.resizeHeap size)).memory state.process.heapSize size
  /-- Also where the heap has been before. -/
  zeros : ValidHeapSize size → ∀ (addr : Address) (len : Nat),
    heapBase.toNat + state.process.heapSize.toNat ≤ addr.toNat →
    addr.toNat + len ≤ heapBase.toNat + size.toNat →
    (state.perform (.resizeHeap size)).memory.read addr len = .ok (List.replicate len 0)

theorem HoldsHeap.resizesHeap (heap : state.HoldsHeap) (size : UInt64) : state.ResizesHeap size := by
  by_cases valid : ValidHeapSize size
  · obtain ⟨memory, resized, moved⟩ := heap.resize valid
    have after : state.perform (.resizeHeap size) =
        ⟨{ state.process with heapSize := size }, memory⟩ := by
      rw [perform_resizeHeap, resized]
    refine ⟨iff_of_true ⟨_, resized⟩ valid, fun refused => absurd valid refused, fun _ => ?_, ?_⟩
    · rw [after]
      exact ⟨rfl, moved⟩
    · intro _ addr len front back
      rw [after]
      exact moved.read_added valid front back
  · have refused : state.process.setHeapSize state.memory size = .error _ :=
      GuestProcess.setHeapSize_of_not_valid valid
    refine ⟨iff_of_false ?_ valid, fun _ => ?_, fun holds => absurd holds valid,
      fun holds => absurd holds valid⟩
    · rintro ⟨outcome, resized⟩
      cases refused.symm.trans resized
    · refine ⟨refused, ?_⟩
      rw [perform_resizeHeap, refused]

/-- After any calls to a process and its memory, if nobody else maps in the heap
    region, exactly the heap is mapped there, and any size can be asked for. -/
theorem performAll_resizesHeap (pid : ProcessId) (params : ProcessParams)
    {calls : List ProcessCall} (spares : ∀ call ∈ calls, call.Spares heapBase Layout.heapSize) :
    ((ofParams pid params).performAll calls).HoldsHeap ∧
      ∀ size, ((ofParams pid params).performAll calls).ResizesHeap size := by
  have heap := (ofParams_holdsHeap pid params).performAll spares
  exact ⟨heap, fun size => heap.resizesHeap size⟩

def plainParams : ProcessParams where
  titleId := 0x100000000001000
  name := "plain"
  codeBase := codeBase
  codeSize := 0x1000
  idealCore := 0
  coreMask := 0xF

/-- The guest writes into a part of the heap that it then gives up. -/
def growWriteShrink : List ProcessCall :=
  [.memory (.map 0x8000000 0x1000 PageFlags.rx), .resizeHeap 0x400000,
    .memory (.write 0x80200000 [7]), .resizeHeap 0x200000]

/-- What was written does not come back with the part of the heap it was in. -/
theorem performAll_resizesHeap_regrown :
    (∀ call ∈ growWriteShrink, call.Spares heapBase Layout.heapSize) ∧
      (((ofParams GuestProcess.firstPid plainParams).performAll growWriteShrink).perform
        (.resizeHeap 0x400000)).memory.read 0x80200000 2 = .ok [0, 0] := by
  have code : WholePages 0x8000000 0x1000 := ⟨by decide, by decide, by decide, by decide⟩
  have spares : ∀ call ∈ growWriteShrink, call.Spares heapBase Layout.heapSize := by
    simp only [growWriteShrink, List.forall_mem_cons, ProcessCall.Spares, MemoryCall.Spares,
      MemoryCall.Touches, code.requested_iff]
    refine ⟨fun i inside requested => ?_, trivial, fun _ _ => id, trivial, by simp⟩
    have below : (0x8000000 : Address).toNat + (0x1000 : UInt64).toNat ≤ heapBase.toNat := by decide
    rw [InArea] at inside
    omega
  obtain ⟨_, resizes⟩ := performAll_resizesHeap GuestProcess.firstPid plainParams spares
  refine ⟨spares, (resizes 0x400000).zeros ⟨by decide, by decide⟩ 0x80200000 2 ?_ (by decide)⟩
  -- The last call was a resize like any other.
  obtain ⟨_, before⟩ := performAll_resizesHeap GuestProcess.firstPid plainParams
    fun call member => spares call (List.mem_of_mem_take (i := 3) member)
  have shrunk := ((before 0x200000).moved ⟨by decide, by decide⟩).1
  rw [← performAll_concat] at shrunk
  have last : growWriteShrink = growWriteShrink.take 3 ++ [.resizeHeap 0x200000] := rfl
  rw [last, shrunk]
  decide

end ProcessMemory

end GuestMachine
