import GuestMachine.Proofs.Kernel.ProcessOperations
import GuestMachine.Proofs.Memory.Blocks
import GuestMachine.Proofs.Memory.Values

/-! # Thread-local slots

What taking a slot and giving it back do to the slots in use and to memory.
Whether the guest ever writes outside its own slot is not covered here.
-/

namespace GuestMachine

open Layout

theorem PageSpan.eq_of_ofRequest {addr : Address} {size : UInt64} {span : PageSpan}
    (request : ofRequest addr size = .ok span) :
    span.first = addr.toNat / pageSize ∧
      span.count = (size.toNat + (pageSize - 1)) / pageSize := by
  simp only [ofRequest] at request
  split at request
  · cases request
  · split at request
    · cases request
    · split at request
      · cases request
        exact ⟨rfl, rfl⟩
      · cases request

/-- A request has to start at a page boundary. -/
theorem PageSpan.aligned_of_ofRequest {addr : Address} {size : UInt64} {span : PageSpan}
    (request : ofRequest addr size = .ok span) : addr.toNat % pageSize = 0 := by
  by_contra crooked
  simp only [ofRequest, ne_eq, crooked, not_false_eq_true, if_true] at request
  cases request

namespace AddressSpace

theorem byte?_eq_none_iff {space : AddressSpace} {addr : Nat} :
    space.byte? addr = none ↔ space.flags? (addr / pageSize) = none := by
  rw [byte?, flags?, Option.map_eq_none_iff, Option.map_eq_none_iff]

theorem Written.of_write {space after : AddressSpace} {addr : Address} {data : List UInt8}
    (wrote : space.write addr data = .ok after) : space.Written after addr.toNat data := by
  obtain ⟨allowed, rfl⟩ := write_eq_ok wrote
  exact written_putBytes allowed.mapped

theorem Written.zeros {space after : AddressSpace} {addr size i : Nat}
    (written : space.Written after addr (List.replicate size 0)) (lower : addr ≤ i)
    (upper : i < addr + size) : after.byte? i = some 0 := by
  have index : i - addr < size := Nat.sub_lt_left_of_lt_add lower upper
  rw [written.inside i lower (by rwa [List.length_replicate]), List.getElem?_replicate,
    if_pos index]

/-- `after` differs from `before` only in fresh pages over the span. -/
structure Filled (before after : AddressSpace) (span : PageSpan) (flags : PageFlags) : Prop where
  fresh : ∀ page, span.Contains page → before.flags? page = none
  flags : ∀ page, after.flags? page = if span.Contains page then some flags else before.flags? page
  bytes : ∀ i, after.byte? i = if span.Contains (i / pageSize) then some 0 else before.byte? i

theorem Filled.of_map {space after : AddressSpace} {addr : Address} {size : UInt64}
    {flags : PageFlags} (mapped : space.map addr size flags = .ok after) :
    ∃ span, PageSpan.ofRequest addr size = .ok span ∧ space.Filled after span flags := by
  rw [map_eq] at mapped
  obtain ⟨span, request, mapped⟩ := exceptBind_eq_ok mapped
  refine ⟨span, request, ?_⟩
  split at mapped
  · cases mapped
  · rename_i free
    cases mapped
    constructor
    · intro page inside
      have absent := List.find?_eq_none.mp free page (PageSpan.mem_pages.mpr inside)
      exact Option.not_isSome_iff_eq_none.mp absent
    · intro page
      by_cases inside : span.Contains page <;>
        simp [flags?, getElem?_foldl_insert, inside, Page.zeroed]
    · intro i
      by_cases inside : span.Contains (i / pageSize) <;>
        simp [byte?, getElem?_foldl_insert, inside]

/-- Permissions change for a span of mapped pages, or not at all. -/
theorem protect_eq_ok {space after : AddressSpace} {addr : Address} {size : UInt64}
    {flags : PageFlags} (protects : space.protect addr size flags = .ok after) :
    ∃ span, PageSpan.ofRequest addr size = .ok span ∧
      ∀ page, after.flags? page = if span.Contains page then some flags else space.flags? page := by
  rw [protect_eq] at protects
  obtain ⟨span, request, protects⟩ := exceptBind_eq_ok protects
  refine ⟨span, request, fun page => ?_⟩
  split at protects
  · cases protects
  · rename_i present
    cases protects
    rw [List.find?_eq_none] at present
    simp only [flags?, PageSpan.mem_pages, getElem?_foldl_modify space.pages
      (f := fun old => { old with flags }) fun _ => rfl]
    split
    · rename_i inside
      have mapped := present page (PageSpan.mem_pages.mpr inside)
      rw [flags?] at mapped
      cases found : space.pages[page]? with
      | none => simp [found] at mapped
      | some old => rfl
    · rfl

end AddressSpace

namespace GuestProcess

def usesSlot (process : GuestProcess) (slot : Nat) : Bool :=
  process.tlsSlots[slot]?.getD false

theorem usesSlot_freeTlsSlot (process : GuestProcess) :
    process.usesSlot process.freeTlsSlot = false := by
  rw [usesSlot, freeTlsSlot]
  by_cases within : process.tlsSlots.findIdx (!·) < process.tlsSlots.length
  · have free := List.findIdx_getElem (w := within)
    rw [List.getElem?_eq_getElem within]
    simpa using free
  · rw [List.getElem?_eq_none (Nat.le_of_not_lt within)]
    rfl

theorem toNat_tlsAddress {slot : Nat} (below : slot < tlsCapacity) :
    (tlsAddress slot).toNat = tlsBase.toNat + slot * tlsEntrySize.toNat := by
  have bound : slot < 524288 := below
  simp only [tlsAddress, tlsBase, tlsEntrySize, UInt64.toNat_add, UInt64.toNat_mul,
    UInt64.toNat_ofNat', UInt64.reduceToNat]
  omega

theorem tlsSlotOf?_tlsAddress {slot : Nat} (below : slot < tlsCapacity) :
    tlsSlotOf? (tlsAddress slot) = some slot := by
  have bound : slot < 524288 := below
  have address := toNat_tlsAddress below
  have above : ¬ tlsAddress slot < tlsBase := by
    rw [UInt64.lt_iff_toNat_lt, address]
    omega
  rw [tlsSlotOf?, if_neg above, UInt64.toNat_div, UInt64.toNat_sub_of_le _ _ (UInt64.not_lt.mp above),
    address, Nat.add_sub_cancel_left, Nat.mul_div_cancel _ (by decide)]

/-- `addr` is a byte of the slot. -/
def InSlot (slot addr : Nat) : Prop :=
  (tlsAddress slot).toNat ≤ addr ∧ addr < (tlsAddress slot).toNat + tlsEntrySize.toNat

/-- The page that holds the slot. -/
def slotPage (slot : Nat) : Nat :=
  (tlsAddress slot).toNat / pageSize

theorem freeTls_eq (process : GuestProcess) (addr : Address) :
    ∃ tlsSlots, process.freeTls addr = { process with tlsSlots } := by
  rw [freeTls]
  split
  · exact ⟨_, rfl⟩
  · exact ⟨process.tlsSlots, rfl⟩

theorem usesSlot_freeTls (process : GuestProcess) {slot : Nat} (below : slot < tlsCapacity)
    (other : Nat) :
    (process.freeTls (tlsAddress slot)).usesSlot other =
      (other != slot && process.usesSlot other) := by
  rw [freeTls, tlsSlotOf?_tlsAddress below]
  simp only [usesSlot]
  grind

end GuestProcess

open GuestProcess

/-- Memory after a slot is taken: of what was mapped, nothing but the slot may
    have been filled with zeros, and nothing but the page of the slot may have
    been mapped. -/
structure AddressSpace.ClearsSlot (before after : AddressSpace) (slot : Nat) : Prop where
  flags : ∀ page, after.flags? page = before.flags? page ∨
    page = slotPage slot ∧ before.flags? page = none ∧ after.flags? page = some PageFlags.rw
  bytes : ∀ addr, after.byte? addr = before.byte? addr ∨ after.byte? addr = some 0 ∧
    (InSlot slot addr ∨ addr / pageSize = slotPage slot ∧ before.byte? addr = none)

namespace AddressSpace

theorem toNat_pageAlignDown (addr : Address) :
    (pageAlignDown addr).toNat = addr.toNat / pageSize * pageSize :=
  UInt64.toNat_ofNat_of_lt' (Nat.lt_of_le_of_lt (Nat.div_mul_le_self _ _) addr.toNat_lt)

theorem Filled.of_map_page {space after : AddressSpace} {addr : Address}
    (mapped : space.map (pageAlignDown addr) (UInt64.ofNat pageSize) PageFlags.rw = .ok after) :
    ∃ span, (∀ page, span.Contains page ↔ page = addr.toNat / pageSize) ∧
      space.Filled after span PageFlags.rw := by
  obtain ⟨span, request, filled⟩ := Filled.of_map mapped
  obtain ⟨first, count⟩ := PageSpan.eq_of_ofRequest request
  rw [toNat_pageAlignDown, Nat.mul_div_cancel _ pageSize_pos] at first
  have single : span.count = 1 := count
  refine ⟨span, fun page => ?_, filled⟩
  rw [PageSpan.Contains, first, single]
  omega

theorem ClearsSlot.of_write {before middle after : AddressSpace} {slot : Nat}
    (mapped : before = middle ∨ ∃ span, (∀ page, span.Contains page ↔ page = slotPage slot) ∧
      before.Filled middle span PageFlags.rw)
    (wrote : middle.write (tlsAddress slot) (List.replicate tlsEntrySize.toNat 0) = .ok after) :
    before.ClearsSlot after slot := by
  have written := Written.of_write wrote
  constructor
  · intro page
    rw [written.flags]
    rcases mapped with rfl | ⟨span, single, filled⟩
    · exact .inl rfl
    · rw [filled.flags]
      by_cases inside : span.Contains page
      · rw [if_pos inside]
        exact .inr ⟨(single page).mp inside, filled.fresh page inside, rfl⟩
      · rw [if_neg inside]
        exact .inl rfl
  · intro addr
    have length : (List.replicate tlsEntrySize.toNat (0 : UInt8)).length = tlsEntrySize.toNat :=
      List.length_replicate
    by_cases inside : InSlot slot addr
    · exact .inr ⟨written.zeros inside.1 inside.2, .inl inside⟩
    -- Outside the slot only a page that was just mapped has new bytes.
    · have away : addr < (tlsAddress slot).toNat ∨
          (tlsAddress slot).toNat + tlsEntrySize.toNat ≤ addr := by
        rw [InSlot] at inside
        omega
      rw [written.outside addr (length.symm ▸ away)]
      rcases mapped with rfl | ⟨span, single, filled⟩
      · exact .inl rfl
      · rw [filled.bytes]
        by_cases within : span.Contains (addr / pageSize)
        · rw [if_pos within]
          have absent := byte?_eq_none_iff.mpr (filled.fresh _ within)
          exact .inr ⟨rfl, .inr ⟨(single _).mp within, absent⟩⟩
        · rw [if_neg within]
          exact .inl rfl

end AddressSpace

namespace GuestProcess

theorem allocateTls_eq (process : GuestProcess) (memory : AddressSpace) :
    process.allocateTls memory = (do
      let slot := process.freeTlsSlot
      if tlsCapacity ≤ slot then .error .resourceLimit
      else
        let addr := tlsAddress slot
        let page := pageAlignDown addr
        let memory ←
          if memory.isMapped page then pure memory
          else (memory.map page (UInt64.ofNat pageSize) PageFlags.rw).mapError .memory
        let memory ← (memory.write addr (List.replicate tlsEntrySize.toNat 0)).mapError .memory
        let tlsSlots :=
          if slot < process.tlsSlots.length then process.tlsSlots.set slot true
          else process.tlsSlots ++ [true]
        return (addr, { process with tlsSlots }, memory)) := by
  rw [allocateTls, ProcessMemoryM.allocateTls, Operation.outcome_get_bind]
  generalize List.replicate tlsEntrySize.toNat (0 : UInt8) = zeros
  dsimp only
  by_cases full : tlsCapacity ≤ process.freeTlsSlot
  · rw [if_pos full, if_pos full]
    rfl
  · rw [if_neg full, if_neg full]
    by_cases present : memory.isMapped (pageAlignDown (tlsAddress process.freeTlsSlot))
    · simp only [present, Bool.not_true, Bool.false_eq_true, if_false, if_true,
        ProcessMemoryM.outcome_onMemory_bind]
      rfl
    · simp only [present, Bool.not_false, Bool.false_eq_true, if_false, if_true,
        ProcessMemoryM.outcome_onMemory_bind]
      rfl

theorem inSlot_iff {slot i : Nat} (below : slot < tlsCapacity) : InSlot slot i ↔
    tlsBase.toNat + slot * 0x200 ≤ i ∧ i < tlsBase.toNat + slot * 0x200 + 0x200 := by
  rw [InSlot, toNat_tlsAddress below]
  rfl

/-- No slot goes over the edge of a page. -/
theorem InSlot.page {slot i : Nat} (below : slot < tlsCapacity) (inside : InSlot slot i) :
    i / pageSize = slotPage slot := by
  have base : tlsBase.toNat = 0x1280000000 := rfl
  have entry : tlsEntrySize.toNat = 0x200 := rfl
  have bytes : pageSize = 4096 := rfl
  rw [inSlot_iff below, base] at inside
  rw [slotPage, toNat_tlsAddress below, base, entry, bytes]
  omega

theorem allowed_of_slotPage {memory : AddressSpace} {slot : Nat} (below : slot < tlsCapacity)
    (mapped : memory.flags? (slotPage slot) = some PageFlags.rw) :
    memory.Allows PageFlags.rw (tlsAddress slot).toNat tlsEntrySize.toNat := by
  refine ⟨?_, fun i lower upper => ⟨PageFlags.rw, ?_, by decide⟩⟩
  · have bound : slot < 524288 := below
    have base : tlsBase.toNat = 0x1280000000 := rfl
    have entry : tlsEntrySize.toNat = 0x200 := rfl
    have top : addressSpaceSize = 2 ^ 39 := rfl
    rw [toNat_tlsAddress below, base, entry, top]
    omega
  · rw [InSlot.page below ⟨lower, upper⟩]
    exact mapped

/-- On a page that the process has, the slot can be written. -/
theorem writes_slot {memory : AddressSpace} {slot : Nat} (below : slot < tlsCapacity)
    (mapped : memory.flags? (slotPage slot) = some PageFlags.rw) {data : List UInt8}
    (length : data.length = tlsEntrySize.toNat) :
    ∃ after, MemoryM.write (tlsAddress slot) data memory = .ok () after := by
  have allowed := (allowed_of_slotPage below mapped).weaken PageFlags.contains_w_of_rw
  rw [MemoryM.write_eq, length, AddressSpace.validate_eq_ok_iff.mpr allowed]
  exact ⟨_, rfl⟩

end GuestProcess

/-- A page that was mapped for a slot does not refuse to be written there. -/
theorem ProcessMemoryM.allocateTls_atomic : Operation.Atomic allocateTls := by
  refine .get_bind fun (process, memory) => ?_
  have length : (List.replicate tlsEntrySize.toNat (0 : UInt8)).length = tlsEntrySize.toNat :=
    List.length_replicate
  generalize List.replicate tlsEntrySize.toNat (0 : UInt8) = zeros at length
  dsimp only
  split
  · exact Operation.throw_atomic _
  · rename_i below
    have marks (addr : Address) (f : GuestProcess → GuestProcess) :
        Operation.Accepted (do modifyProcess f; return addr) :=
      (modifyProcess_accepted f).bind fun _ => Operation.pure_accepted addr
    split
    · refine (onMemory_atomic (MemoryM.map_atomic _ _ _)).bind_settled ?_
      rintro ⟨process', memory'⟩ _ _ mapped
      obtain ⟨middle, maps, rfl⟩ := Operation.within_eq_ok mapped
      obtain ⟨span, single, filled⟩ :=
        AddressSpace.Filled.of_map_page (Operation.result_of_ok maps)
      have ready : middle.flags? (slotPage process.freeTlsSlot) = some PageFlags.rw :=
        (filled.flags _).trans (if_pos ((single _).mpr rfl))
      obtain ⟨cleared, writes⟩ := writes_slot (Nat.lt_of_not_le below) ready length
      have clears : onMemory (MemoryM.write (tlsAddress process.freeTlsSlot) zeros)
          (process', middle) = .ok () (process', cleared) :=
        Operation.within_of_ok writes
      dsimp only
      rw [Operation.bind_of_ok clears]
      exact marks _ _ _
    · exact (onMemory_atomic (MemoryM.write_atomic _ _)).bind_accepted fun _ => marks _ _

namespace GuestProcess

/-- A free slot is taken. -/
structure TakesSlot (process : GuestProcess) (memory : AddressSpace) (slot : Nat)
    (held : GuestProcess) (memory' : AddressSpace) : Prop where
  below : slot < tlsCapacity
  free : process.usesSlot slot = false
  same : ∃ tlsSlots, held = { process with tlsSlots }
  uses : ∀ other, held.usesSlot other = (other == slot || process.usesSlot other)
  clears : memory.ClearsSlot memory' slot

theorem TakesSlot.of_write {process : GuestProcess} {memory middle memory' : AddressSpace}
    {slot : Nat} (below : slot < tlsCapacity) (free : process.freeTlsSlot = slot)
    (mapped : memory = middle ∨ ∃ span : PageSpan,
      (∀ page, span.Contains page ↔ page = slotPage slot) ∧ memory.Filled middle span PageFlags.rw)
    (wrote : middle.write (tlsAddress slot) (List.replicate tlsEntrySize.toNat 0) = .ok memory') :
    process.TakesSlot memory slot
      { process with
        tlsSlots :=
          if slot < process.tlsSlots.length then process.tlsSlots.set slot true
          else process.tlsSlots ++ [true] } memory' where
  below
  free := free ▸ process.usesSlot_freeTlsSlot
  same := ⟨_, rfl⟩
  uses other := by
    simp only [usesSlot]
    split
    · grind
    · rename_i beyond
      have last : slot = process.tlsSlots.length := by
        refine Nat.le_antisymm ?_ (Nat.le_of_not_lt beyond)
        rw [← free]
        exact List.findIdx_le_length
      grind
  clears := .of_write mapped wrote

theorem TakesSlot.of_allocateTls {process held : GuestProcess} {memory memory' : AddressSpace}
    {addr : Address} (allocated : process.allocateTls memory = .ok (addr, held, memory')) :
    ∃ slot, addr = tlsAddress slot ∧ process.TakesSlot memory slot held memory' := by
  refine ⟨process.freeTlsSlot, ?_⟩
  simp only [allocateTls_eq] at allocated
  split at allocated
  · cases allocated
  · rename_i below
    split at allocated
    · obtain ⟨_, prepared, allocated⟩ := exceptBind_eq_ok allocated
      obtain ⟨_, wrote, allocated⟩ := exceptBind_eq_ok allocated
      cases allocated
      exact ⟨rfl, .of_write (Nat.lt_of_not_le below) rfl (.inl (Except.ok.inj prepared))
        (mapError_eq_ok wrote)⟩
    · obtain ⟨_, prepared, allocated⟩ := exceptBind_eq_ok allocated
      obtain ⟨_, wrote, allocated⟩ := exceptBind_eq_ok allocated
      cases allocated
      exact ⟨rfl, .of_write (Nat.lt_of_not_le below) rfl
        (.inr (AddressSpace.Filled.of_map_page (mapError_eq_ok prepared))) (mapError_eq_ok wrote)⟩

/-- A slot that is given back leaves as many in use as before it was taken. -/
theorem TakesSlot.freed {process held : GuestProcess} {memory memory' : AddressSpace} {slot : Nat}
    (takes : process.TakesSlot memory slot held memory') :
    ∃ tlsSlots, held.freeTls (tlsAddress slot) = { process with tlsSlots } ∧
      ∀ other, ({ process with tlsSlots } : GuestProcess).usesSlot other =
        process.usesSlot other := by
  obtain ⟨taken, same⟩ := takes.same
  obtain ⟨tlsSlots, freed⟩ := held.freeTls_eq (tlsAddress slot)
  have rest : held.freeTls (tlsAddress slot) = { process with tlsSlots } := by
    rw [freed, same]
  refine ⟨tlsSlots, rest, fun other => ?_⟩
  rw [← rest, usesSlot_freeTls _ takes.below, takes.uses]
  by_cases here : other = slot
  · rw [here, takes.free, bne_self_eq_false, Bool.false_and]
  · rw [bne_iff_ne.mpr here, beq_eq_false_iff_ne.mpr here, Bool.true_and, Bool.false_or]

end GuestProcess

end GuestMachine
