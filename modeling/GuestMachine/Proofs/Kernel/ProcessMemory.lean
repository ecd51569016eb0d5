import GuestMachine.Proofs.Kernel.ThreadLocals
import GuestMachine.Proofs.Memory.Blocks
import GuestMachine.Proofs.Memory.RegionStates

/-! # A process and its memory

The heap and the thread-local slots lie in standard regions, and the process maps
both by itself. What can happen to a process and its memory is a sequence of
calls, and no call reaches the pages of a region that is not its own.
-/

namespace GuestMachine

open Layout

theorem exceptMap_eq_ok {ε α β : Type} {x : Except ε α} {f : α → β} {b : β}
    (ended : x.map f = .ok b) : ∃ a, x = .ok a ∧ f a = b := by
  cases x with
  | error e => cases ended
  | ok a => exact ⟨a, rfl, Except.ok.inj ended⟩

/-- The byte at `i` lies on a page of the request. -/
def Requested (addr : Address) (size : UInt64) (i : Nat) : Prop :=
  ∃ span, PageSpan.ofRequest addr size = .ok span ∧ span.Contains (i / pageSize)

/-- Whole pages inside the address space. -/
structure WholePages (addr : Address) (size : UInt64) : Prop where
  aligned : addr.toNat % pageSize = 0
  whole : size.toNat % pageSize = 0
  nonempty : 0 < size.toNat
  inside : addr.toNat + size.toNat ≤ addressSpaceSize

theorem WholePages.request {addr : Address} {size : UInt64} (pages : WholePages addr size) :
    ∃ span, PageSpan.ofRequest addr size = .ok span ∧
      ∀ i, span.Contains (i / pageSize) ↔ addr.toNat ≤ i ∧ i < addr.toNat + size.toNat :=
  PageSpan.ofRequest_of_whole pages.aligned pages.whole pages.nonempty pages.inside

theorem WholePages.requested_iff {addr : Address} {size : UInt64} (pages : WholePages addr size)
    (i : Nat) : Requested addr size i ↔ addr.toNat ≤ i ∧ i < addr.toNat + size.toNat := by
  obtain ⟨span, request, contains⟩ := pages.request
  rw [← contains]
  constructor
  · rintro ⟨span', request', inside⟩
    cases request.symm.trans request'
    exact inside
  · exact fun inside => ⟨span, request, inside⟩

namespace AddressSpace

variable {space after : AddressSpace} {addr : Address} {size : UInt64} {flags : PageFlags} {i : Nat}

/-- `after` differs from `before` only in `[addr, addr + len)`, which is mapped
    afresh or not at all. -/
structure Remapped (before after : AddressSpace) (addr len : Nat) (shown : Option PageFlags) :
    Prop where
  flags : ∀ i, after.flags? (i / pageSize) =
    if addr ≤ i ∧ i < addr + len then shown else before.flags? (i / pageSize)
  bytes : ∀ i, after.byte? i =
    if addr ≤ i ∧ i < addr + len then shown.map fun _ => 0 else before.byte? i

theorem map_of_free (pages : WholePages addr size)
    (free : ∀ i, addr.toNat ≤ i → i < addr.toNat + size.toNat → space.flags? (i / pageSize) = none)
    (flags : PageFlags) : ∃ after, space.map addr size flags = .ok after ∧
      space.Remapped after addr.toNat size.toNat (some flags) := by
  obtain ⟨span, request, contains⟩ := pages.request
  have absent : (span.pages.find? fun page => (space.flags? page).isSome) = none := by
    rw [List.find?_eq_none]
    intro number member
    have start : number * pageSize / pageSize = number := Nat.mul_div_cancel _ pageSize_pos
    rw [PageSpan.mem_pages, ← start] at member
    obtain ⟨lower, upper⟩ := (contains (number * pageSize)).mp member
    have found := free (number * pageSize) lower upper
    rw [start] at found
    simp [found]
  obtain ⟨after, mapped⟩ : ∃ after, space.map addr size flags = .ok after := by
    rw [map_eq, request]
    simp only [bind, Except.bind, absent]
    exact ⟨_, rfl⟩
  refine ⟨after, mapped, ?_⟩
  obtain ⟨span', request', filled⟩ := Filled.of_map mapped
  cases request.symm.trans request'
  constructor
  · intro i
    simp only [filled.flags, contains]
  · intro i
    simp only [filled.bytes, contains]
    rfl

theorem unmap_of_mapped (pages : WholePages addr size)
    (mapped : ∀ i, addr.toNat ≤ i → i < addr.toNat + size.toNat →
      (space.flags? (i / pageSize)).isSome) : ∃ after, space.unmap addr size = .ok after ∧
      space.Remapped after addr.toNat size.toNat none := by
  obtain ⟨span, request, contains⟩ := pages.request
  have present : (span.pages.find? fun page => (space.flags? page).isNone) = none := by
    rw [List.find?_eq_none]
    intro number member
    have start : number * pageSize / pageSize = number := Nat.mul_div_cancel _ pageSize_pos
    rw [PageSpan.mem_pages, ← start] at member
    obtain ⟨lower, upper⟩ := (contains (number * pageSize)).mp member
    have found := mapped (number * pageSize) lower upper
    rw [start] at found
    simpa [Option.isSome_iff_ne_none] using found
  rw [unmap_eq, request]
  simp only [bind, Except.bind, present]
  refine ⟨_, rfl, ?_, ?_⟩
  · intro i
    simp only [flags?, getElem?_foldl_erase, PageSpan.mem_pages, contains]
    split <;> rfl
  · intro i
    simp only [byte?, getElem?_foldl_erase, PageSpan.mem_pages, contains]
    split <;> rfl

theorem flags?_of_map (mapped : space.map addr size flags = .ok after)
    (away : ¬ Requested addr size i) :
    after.flags? (i / pageSize) = space.flags? (i / pageSize) := by
  obtain ⟨span, request, filled⟩ := Filled.of_map mapped
  rw [filled.flags, if_neg fun inside => away ⟨span, request, inside⟩]

theorem flags?_of_unmap (unmapped : space.unmap addr size = .ok after)
    (away : ¬ Requested addr size i) :
    after.flags? (i / pageSize) = space.flags? (i / pageSize) := by
  rw [unmap_eq] at unmapped
  obtain ⟨span, request, unmapped⟩ := exceptBind_eq_ok unmapped
  split at unmapped
  · cases unmapped
  · cases unmapped
    have outside : ¬ span.Contains (i / pageSize) := fun inside => away ⟨span, request, inside⟩
    simp [flags?, getElem?_foldl_erase, outside]

theorem flags?_of_protect (reflagged : space.protect addr size flags = .ok after)
    (away : ¬ Requested addr size i) :
    after.flags? (i / pageSize) = space.flags? (i / pageSize) := by
  obtain ⟨span, request, changed⟩ := protect_eq_ok reflagged
  exact (changed _).trans (if_neg fun inside => away ⟨span, request, inside⟩)

theorem flags?_of_compareExchange {expected new : List UInt8} {equal : Bool}
    (compared : space.compareExchange addr expected new = .ok (equal, after)) (page : Nat) :
    after.flags? page = space.flags? page := by
  by_cases length : expected.length = new.length
  · rw [compareExchange_eq space addr length] at compared
    obtain ⟨_, _, outcome⟩ := exceptMap_eq_ok compared
    split at outcome
    · cases outcome
      exact flags?_putBytes space.pages space.everMapped addr.toNat new page
    · cases outcome
      rfl
  · rw [compareExchange, Operation.outcome, MemoryM.compareExchange_eq, if_neg length] at compared
    cases compared

end AddressSpace

namespace MemoryCall

/-- The call may map or unmap the page of the byte at `i`, or change its
    permissions. -/
def Touches (i : Nat) : MemoryCall → Prop
  | .map addr size _ | .unmap addr size | .protect addr size _ => Requested addr size i
  | .read .. | .write .. | .compareExchange .. => False

/-- The call may use the bytes of a region, but leaves its pages to others. -/
def Spares (base : Address) (size : UInt64) (call : MemoryCall) : Prop :=
  ∀ i, InArea base size i → ¬ call.Touches i

theorem flags?_changed {space : AddressSpace} {action : MemoryM α} {reply : α → MemoryReply}
    {page : Nat} (atomic : Operation.Atomic action)
    (served : ∀ a after, action space = .ok a after → after.flags? page = space.flags? page) :
    (MemoryInterface.changed reply (action space)).memory.flags? page = space.flags? page := by
  cases acted : action space with
  | ok a after => exact served a after acted
  | error e after => exact congrArg (·.flags? page) (atomic _ _ _ acted)

theorem flags?_perform {space : AddressSpace} {call : MemoryCall} {i : Nat}
    (away : ¬ call.Touches i) :
    (AddressSpace.interface.perform space call).memory.flags? (i / pageSize) =
      space.flags? (i / pageSize) := by
  cases call with
  | map addr size flags =>
      exact flags?_changed (MemoryM.map_atomic addr size flags) fun _ _ mapped =>
        AddressSpace.flags?_of_map (Operation.result_of_ok mapped) away
  | unmap addr size =>
      exact flags?_changed (MemoryM.unmap_atomic addr size) fun _ _ unmapped =>
        AddressSpace.flags?_of_unmap (Operation.result_of_ok unmapped) away
  | protect addr size flags =>
      exact flags?_changed (MemoryM.protect_atomic addr size flags) fun _ _ reflagged =>
        AddressSpace.flags?_of_protect (Operation.result_of_ok reflagged) away
  | read addr buffer =>
      change (MemoryInterface.filled space (space.readInto addr buffer)).memory.flags? _ = _
      cases space.readInto addr buffer <;> rfl
  | write addr data =>
      exact flags?_changed (MemoryM.write_atomic addr data) fun _ _ wrote =>
        (AddressSpace.Written.of_write (Operation.result_of_ok wrote)).flags (i / pageSize)
  | compareExchange addr expected new =>
      exact flags?_changed (MemoryM.compareExchange_atomic addr expected new) fun _ _ compared =>
        AddressSpace.flags?_of_compareExchange (Operation.outcome_of_ok compared) (i / pageSize)

end MemoryCall

theorem heap_apart_tls {i : Nat} (heap : InArea heapBase Layout.heapSize i)
    (slots : InArea tlsBase tlsSize i) : False := by
  have below : heapBase.toNat + Layout.heapSize.toNat ≤ tlsBase.toNat := by decide
  rw [InArea] at heap slots
  omega

/-- A size that the heap may have. -/
structure ValidHeapSize (size : UInt64) : Prop where
  aligned : size % heapAlignment = 0
  within : size ≤ Layout.heapSize

namespace ValidHeapSize

variable {size larger : UInt64}

theorem zero : ValidHeapSize 0 :=
  ⟨by decide, by decide⟩

theorem toNat_mod (valid : ValidHeapSize size) : size.toNat % 0x200000 = 0 := by
  have aligned := congrArg UInt64.toNat valid.aligned
  rwa [UInt64.toNat_mod] at aligned

theorem toNat_le (valid : ValidHeapSize size) : size.toNat ≤ 0x180000000 :=
  UInt64.le_iff_toNat_le.mp valid.within

theorem toNat_end (valid : ValidHeapSize size) :
    (heapBase + size).toNat = heapBase.toNat + size.toNat := by
  have within := valid.toNat_le
  have base : heapBase.toNat = 0x80000000 := rfl
  rw [UInt64.toNat_add, base]
  omega

/-- What one size of the heap has more than another is whole pages. -/
theorem wholePages (valid : ValidHeapSize size) (valid' : ValidHeapSize larger)
    (less : size < larger) : WholePages (heapBase + size) (larger - size) := by
  have starts := valid.toNat_mod
  have ends := valid'.toNat_mod
  have within := valid'.toNat_le
  have less := UInt64.lt_iff_toNat_lt.mp less
  have rest : (larger - size).toNat = larger.toNat - size.toNat :=
    UInt64.toNat_sub_of_le _ _ (UInt64.le_iff_toNat_le.mpr (Nat.le_of_lt less))
  have base : heapBase.toNat = 0x80000000 := rfl
  have page : pageSize = 4096 := rfl
  have top : addressSpaceSize = 2 ^ 39 := rfl
  constructor <;> simp only [valid.toNat_end, rest, base, page, top] <;> omega

theorem requested_iff (valid : ValidHeapSize size) (valid' : ValidHeapSize larger)
    (less : size < larger) (i : Nat) : Requested (heapBase + size) (larger - size) i ↔
      heapBase.toNat + size.toNat ≤ i ∧ i < heapBase.toNat + larger.toNat := by
  have less' := UInt64.lt_iff_toNat_lt.mp less
  rw [(valid.wholePages valid' less).requested_iff, valid.toNat_end,
    UInt64.toNat_sub_of_le _ _ (UInt64.le_iff_toNat_le.mpr (Nat.le_of_lt less'))]
  omega

end ValidHeapSize

namespace GuestProcess

variable {process process' : GuestProcess} {memory memory' : AddressSpace} {size : UInt64}

theorem setHeapSize_of_not_valid (refused : ¬ ValidHeapSize size) :
    process.setHeapSize memory size =
      .error (if size % heapAlignment = 0 then .memory .outOfMemory else .invalidSize size) := by
  rw [setHeapSize_eq]
  by_cases aligned : size % heapAlignment = 0
  · have large : Layout.heapSize < size := by
      by_contra within
      exact refused ⟨aligned, UInt64.not_lt.mp within⟩
    rw [if_neg (not_not_intro aligned), if_pos large, if_pos aligned]
  · rw [if_pos aligned, if_neg aligned]

theorem setHeapSize_eq_ok_iff :
    process.setHeapSize memory size = .ok (process', memory') ↔
      ValidHeapSize size ∧ process' = { process with heapSize := size } ∧
        (process.heapSize < size ∧ memory.map (heapBase + process.heapSize)
            (size - process.heapSize) PageFlags.rw = .ok memory' ∨
          size < process.heapSize ∧
            memory.unmap (heapBase + size) (process.heapSize - size) = .ok memory' ∨
          size = process.heapSize ∧ memory' = memory) := by
  by_cases valid : ValidHeapSize size
  · rw [setHeapSize_eq, if_neg (not_not_intro valid.aligned), if_neg (UInt64.not_lt.mpr valid.within)]
    dsimp only
    constructor
    · intro resized
      split at resized
      · rename_i more
        obtain ⟨after, mapped, ended⟩ := exceptBind_eq_ok resized
        cases ended
        exact ⟨valid, rfl, .inl ⟨more, mapError_eq_ok mapped⟩⟩
      · split at resized
        · rename_i less
          obtain ⟨after, unmapped, ended⟩ := exceptBind_eq_ok resized
          cases ended
          exact ⟨valid, rfl, .inr (.inl ⟨less, mapError_eq_ok unmapped⟩)⟩
        · rename_i more less
          cases resized
          exact ⟨valid, rfl, .inr (.inr ⟨UInt64.le_antisymm (UInt64.not_lt.mp more)
            (UInt64.not_lt.mp less), rfl⟩)⟩
    · rintro ⟨_, rfl, ⟨more, mapped⟩ | ⟨less, unmapped⟩ | ⟨rfl, rfl⟩⟩
      · rw [if_pos more, mapped]
        rfl
      · rw [if_neg (UInt64.lt_asymm less), if_pos less, unmapped]
        rfl
      · rw [if_neg (UInt64.lt_irrefl _), if_neg (UInt64.lt_irrefl _)]
        rfl
  · rw [setHeapSize_of_not_valid valid]
    simp [valid]

theorem flags?_setHeapSize (valid : ValidHeapSize process.heapSize)
    (resized : process.setHeapSize memory size = .ok (process', memory')) {i : Nat}
    (away : ¬ InArea heapBase Layout.heapSize i) :
    memory'.flags? (i / pageSize) = memory.flags? (i / pageSize) := by
  have region : Layout.heapSize.toNat = 0x180000000 := rfl
  rw [InArea, region] at away
  obtain ⟨valid', _, ⟨more, mapped⟩ | ⟨less, unmapped⟩ | ⟨_, rfl⟩⟩ :=
    setHeapSize_eq_ok_iff.mp resized
  · apply AddressSpace.flags?_of_map mapped
    rw [valid.requested_iff valid' more]
    have within := valid'.toNat_le
    omega
  · apply AddressSpace.flags?_of_unmap unmapped
    rw [valid'.requested_iff valid less]
    have within := valid.toNat_le
    omega
  · rfl

/-- The pages of the slots lie in the thread-local region. -/
theorem inArea_of_slotPage {slot i : Nat} (below : slot < tlsCapacity)
    (page : i / pageSize = slotPage slot) : InArea tlsBase tlsSize i := by
  have bound : slot < 524288 := below
  have base : tlsBase.toNat = 0x1280000000 := rfl
  have entry : tlsEntrySize.toNat = 0x200 := rfl
  have region : tlsSize.toNat = 0x10000000 := rfl
  have bytes : pageSize = 4096 := rfl
  rw [slotPage, toNat_tlsAddress below, entry, base, bytes] at page
  rw [InArea, base, region]
  omega

theorem TakesSlot.flags?_of_away {slot i : Nat}
    (takes : process.TakesSlot memory slot process' memory')
    (away : ¬ InArea tlsBase tlsSize i) :
    memory'.flags? (i / pageSize) = memory.flags? (i / pageSize) := by
  rcases takes.clears.flags (i / pageSize) with same | ⟨page, _⟩
  · exact same
  · exact absurd (inArea_of_slotPage takes.below page) away

end GuestProcess

/-- Zeros that may be read are read. -/
theorem AddressSpace.read_zeros {space : AddressSpace} {addr : Address} {len : Nat}
    (inside : addr.toNat + len ≤ addressSpaceSize)
    (zeros : ∀ i, addr.toNat ≤ i → i < addr.toNat + len →
      space.flags? (i / pageSize) = some PageFlags.rw ∧ space.byte? i = some 0) :
    space.read addr len = .ok (List.replicate len 0) := by
  have allowed : space.Allows PageFlags.r addr.toNat len :=
    ⟨inside, fun i lower upper => ⟨_, (zeros i lower upper).1, by decide⟩⟩
  have length : (List.replicate len (0 : UInt8)).length = len := List.length_replicate
  have held : space.bytes addr.toNat (List.replicate len (0 : UInt8)).length =
      List.replicate len 0 := by
    apply filterMap_range'_eq
    intro i lower upper
    rw [length] at upper
    rw [(zeros i lower upper).2, List.getElem?_replicate, if_pos (by omega)]
  rw [read_eq, validate_eq_ok_iff.mpr allowed]
  rw [length] at held
  exact congrArg Except.ok held

/-- A process and the guest memory that it is in. -/
structure ProcessMemory where
  process : GuestProcess
  memory : AddressSpace

inductive ProcessCall where
  | resizeHeap (size : UInt64)
  | allocateTls
  | freeTls (addr : Address)
  /-- The guest, or anybody else, uses or maps memory. -/
  | memory (call : MemoryCall)
  deriving Repr, DecidableEq

/-- The call leaves the pages of a region to the process. -/
def ProcessCall.Spares (base : Address) (size : UInt64) : ProcessCall → Prop
  | .memory call => call.Spares base size
  | .resizeHeap _ | .allocateTls | .freeTls _ => True

namespace ProcessMemory

def ofParams (pid : ProcessId) (params : ProcessParams) : ProcessMemory :=
  ⟨.ofParams pid params, .empty⟩

/-- Process and memory as an operation leaves them, accepted or not. -/
def leftBy (state : ProcessMemory) (action : ProcessMemoryM α) : ProcessMemory :=
  let (process, memory) := outcomeState (action (state.process, state.memory))
  ⟨process, memory⟩

def perform (state : ProcessMemory) : ProcessCall → ProcessMemory
  | .resizeHeap size => state.leftBy (ProcessMemoryM.setHeapSize size)
  | .allocateTls => state.leftBy ProcessMemoryM.allocateTls
  | .freeTls addr => { state with process := state.process.freeTls addr }
  | .memory call =>
      { state with memory := (AddressSpace.interface.perform state.memory call).memory }

theorem perform_resizeHeap (state : ProcessMemory) (size : UInt64) :
    state.perform (.resizeHeap size) =
      match state.process.setHeapSize state.memory size with
      | .ok (process, memory) => ⟨process, memory⟩
      | .error _ => state := by
  rw [perform, leftBy, (ProcessMemoryM.setHeapSize_atomic size).outcomeState_eq,
    GuestProcess.setHeapSize, Operation.result_eq]
  cases (ProcessMemoryM.setHeapSize size).outcome (state.process, state.memory) <;> rfl

theorem perform_allocateTls (state : ProcessMemory) :
    state.perform .allocateTls =
      match state.process.allocateTls state.memory with
      | .ok (_, process, memory) => ⟨process, memory⟩
      | .error _ => state := by
  rw [perform, leftBy, ProcessMemoryM.allocateTls_atomic.outcomeState_eq, GuestProcess.allocateTls]
  cases ProcessMemoryM.allocateTls.outcome (state.process, state.memory) <;> rfl

def performAll (state : ProcessMemory) (calls : List ProcessCall) : ProcessMemory :=
  calls.foldl perform state

theorem performAll_concat (state : ProcessMemory) (calls : List ProcessCall) (call : ProcessCall) :
    state.performAll (calls ++ [call]) = (state.performAll calls).perform call :=
  List.foldl_concat ..

variable {state : ProcessMemory}

theorem validHeapSize_perform (valid : ValidHeapSize state.process.heapSize) (call : ProcessCall) :
    ValidHeapSize (state.perform call).process.heapSize := by
  cases call with
  | resizeHeap size =>
      rw [perform_resizeHeap]
      split
      · rename_i resized
        obtain ⟨valid', rfl, _⟩ := GuestProcess.setHeapSize_eq_ok_iff.mp resized
        exact valid'
      · exact valid
  | allocateTls =>
      rw [perform_allocateTls]
      split
      · rename_i allocated
        obtain ⟨slot, _, takes⟩ := GuestProcess.TakesSlot.of_allocateTls allocated
        obtain ⟨tlsSlots, rfl⟩ := takes.same
        exact valid
      · exact valid
  | freeTls addr =>
      obtain ⟨tlsSlots, freed⟩ := state.process.freeTls_eq addr
      rw [perform, freed]
      exact valid
  | memory call => exact valid

end ProcessMemory

end GuestMachine
