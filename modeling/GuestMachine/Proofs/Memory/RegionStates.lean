import GuestMachine.Kernel.MemoryInfo
import GuestMachine.Proofs.Memory.Regions

/-! # The state that a query reports

Standard regions touch each other, and a query describes a run of pages under
the same permissions wherever it lies. The state that goes with it is that of
the run's first byte. So the state is that of the queried address unless the
run comes in over the edge of a standard region from memory of another kind.
-/

namespace GuestMachine

open Layout

/-- A byte of `[base, base + size)`. -/
def InArea (base : Address) (size : UInt64) (addr : Nat) : Prop :=
  base.toNat ≤ addr ∧ addr < base.toNat + size.toNat

instance (base : Address) (size : UInt64) (addr : Nat) : Decidable (InArea base size addr) :=
  inferInstanceAs (Decidable (_ ∧ _))

/-- The kind of mapped memory at an address: that of the standard region which
    the address is in. -/
def MemoryState.ofPlace (addr : Nat) (flags : PageFlags) : MemoryState :=
  if InArea codeBase codeSize addr then
    if flags.execute then .code else .codeData
  else if InArea stackBase stackSize addr then .stack
  else if InArea tlsBase tlsSize addr then .threadLocal
  else .normal

/-- Where a standard region begins or ends. -/
def standardEdges : List Nat :=
  [codeBase.toNat, codeBase.toNat + codeSize.toNat, stackBase.toNat,
    stackBase.toNat + stackSize.toNat, tlsBase.toNat, tlsBase.toNat + tlsSize.toNat]

theorem within_iff_inArea (base : Address) (size : UInt64) {addr : Address}
    (room : base.toNat + size.toNat < 2 ^ 64) :
    (base ≤ addr && addr < base + size) = true ↔ InArea base size addr.toNat := by
  have finish : (base + size).toNat = base.toNat + size.toNat := by
    rw [UInt64.toNat_add, Nat.mod_eq_of_lt room]
  rw [Bool.and_eq_true, decide_eq_true_iff, decide_eq_true_iff, UInt64.le_iff_toNat_le,
    UInt64.lt_iff_toNat_lt, finish, InArea]

theorem MemoryInfo.stateOf_eq (base : Address) (flags : PageFlags) :
    stateOf base flags = .ofPlace base.toNat flags := by
  change (if (codeBase ≤ base && base < codeBase + codeSize) = true then _
    else if (stackBase ≤ base && base < stackBase + stackSize) = true then _
    else if (tlsBase ≤ base && base < tlsBase + tlsSize) = true then _ else _) = _
  simp only [within_iff_inArea codeBase codeSize (by decide),
    within_iff_inArea stackBase stackSize (by decide), within_iff_inArea tlsBase tlsSize (by decide)]
  rfl

/-- Between two edges all memory is of one kind. -/
theorem MemoryState.ofPlace_congr {addr addr' : Nat}
    (same : ∀ edge ∈ standardEdges, edge ≤ addr ↔ edge ≤ addr') (flags : PageFlags) :
    ofPlace addr flags = ofPlace addr' flags := by
  simp only [standardEdges, List.forall_mem_cons] at same
  obtain ⟨code, codeEnd, stack, stackEnd, tls, tlsEnd, _⟩ := same
  simp only [ofPlace, InArea, ← Nat.not_le, code, codeEnd, stack, stackEnd, tls, tlsEnd]

namespace AddressSpace

variable {space : AddressSpace} {flags : PageFlags} {start addr first stop : Nat}

/-- The bytes from `start` to `addr` show the same permissions, and `start` is
    as low as it can be. -/
structure StretchesFrom (space : AddressSpace) (flags : PageFlags) (start addr : Nat) : Prop where
  aligned : start % pageSize = 0
  reaches : start ≤ addr
  alike : ∀ i, start ≤ i → i ≤ addr → space.flags? (i / pageSize) = some flags
  unlike : ∀ i, i + 1 = start → space.flags? (i / pageSize) ≠ some flags

/-- What a query says of the state and the permissions at `addr`. -/
structure ReportsState (space : AddressSpace) (addr : Address) (flags : PageFlags) : Prop where
  permission : (MemoryInfo.query space addr).permission = flags.bits
  /-- The state is that of the place where the memory around `addr` begins. -/
  borrowed : ∃ start, space.StretchesFrom flags start addr.toNat ∧
    (MemoryInfo.query space addr).state = .ofPlace start flags
  right_iff : (MemoryInfo.query space addr).state = .ofPlace addr.toNat flags ↔
    ∀ start, space.StretchesFrom flags start addr.toNat →
      MemoryState.ofPlace start flags = .ofPlace addr.toNat flags
  /-- It is right if other memory lies between `addr` and each edge below. -/
  right_of_apart : (∀ edge ∈ standardEdges, edge ≤ addr.toNat →
      ∃ i, edge ≤ i + 1 ∧ i ≤ addr.toNat ∧ space.flags? (i / pageSize) ≠ some flags) →
    (MemoryInfo.query space addr).state = .ofPlace addr.toNat flags

theorem StretchesFrom.unique {start' : Nat} (stretches : space.StretchesFrom flags start addr)
    (stretches' : space.StretchesFrom flags start' addr) : start = start' := by
  have le {low high : Nat} (from_low : space.StretchesFrom flags low addr)
      (from_high : space.StretchesFrom flags high addr) : high ≤ low := by
    by_contra above
    obtain ⟨before, next⟩ : ∃ before, before + 1 = high := ⟨high - 1, by omega⟩
    have reaches := from_high.reaches
    exact from_high.unlike before next (from_low.alike before (by omega) (by omega))
  exact Nat.le_antisymm (le stretches' stretches) (le stretches stretches')

theorem IsRun.stretchesFrom (run : space.IsRun (some flags) first stop)
    (around : first ≤ addr / pageSize ∧ addr / pageSize < stop) :
    space.StretchesFrom flags (first * pageSize) addr where
  aligned := Nat.mul_mod_left first pageSize
  reaches := (Nat.le_div_iff_mul_le pageSize_pos).mp around.1
  alike i lower upper := by
    apply run.alike
    · exact (Nat.le_div_iff_mul_le pageSize_pos).mpr lower
    · exact Nat.lt_of_le_of_lt (Nat.div_le_div_right upper) around.2
  unlike i next := by
    apply run.before
    simp only [pageSize, pageBits] at next ⊢
    omega

theorem StretchesFrom.edge_le (stretches : space.StretchesFrom flags start addr) {edge : Nat}
    (apart : ∃ i, edge ≤ i + 1 ∧ i ≤ addr ∧ space.flags? (i / pageSize) ≠ some flags) :
    edge ≤ start := by
  obtain ⟨i, above, below, unlike⟩ := apart
  by_contra crossed
  exact unlike (stretches.alike i (by omega) below)

/-- A query around mapped memory starts at the first byte that shows the same. -/
theorem query_of_mapped (bounded : space.Bounded) {addr : Address}
    (mapped : space.pageFlags? addr = some flags) :
    ∃ start, space.StretchesFrom flags start addr.toNat ∧
      (MemoryInfo.query space addr).permission = flags.bits ∧
      (MemoryInfo.query space addr).state = .ofPlace start flags := by
  have small : addr.toNat / pageSize < pageCount := bounded _ (Option.isSome_of_eq_some mapped)
  have inside : addr.toNat < addressSpaceSize :=
    pageCount_mul ▸ (Nat.div_lt_iff_lt_mul pageSize_pos).mp small
  obtain ⟨shown, first, stop, answer, run, around⟩ := query_eq bounded inside
  obtain rfl : shown = some flags := (run.alike _ around.1 around.2).symm.trans mapped
  have info : MemoryInfo.query space addr =
      { base := (regionOf (some flags) first stop).base
        size := (regionOf (some flags) first stop).size
        state := MemoryInfo.stateOf (regionOf (some flags) first stop).base flags
        permission := flags.bits } := by
    rw [MemoryInfo.query, answer]
    rfl
  refine ⟨first * pageSize, run.stretchesFrom around, by rw [info], ?_⟩
  rw [info, MemoryInfo.stateOf_eq, toNat_base_regionOf run]

/-- After any calls to memory, a query about a mapped page tells its permissions,
    and the state of the place where the pages like it begin. -/
theorem performAll_reportsState (calls : List MemoryCall) {addr : Address}
    (mapped : (AddressSpace.interface.performAll AddressSpace.empty calls).2.pageFlags? addr =
      some flags) :
    (AddressSpace.interface.performAll AddressSpace.empty calls).2.ReportsState addr flags := by
  obtain ⟨start, stretches, permission, state⟩ := query_of_mapped (performAll_bounded calls) mapped
  refine ⟨permission, ⟨start, stretches, state⟩, ?_, ?_⟩
  · rw [state]
    constructor
    · intro right start' stretches'
      rwa [← stretches.unique stretches']
    · intro right
      exact right start stretches
  · intro apart
    rw [state]
    apply MemoryState.ofPlace_congr
    intro edge standard
    constructor
    · exact fun below => Nat.le_trans below stretches.reaches
    · exact fun below => stretches.edge_le (apart edge standard below)

/-- Data of the application that goes on into the heap is told as its data,
    whatever code lies in front of it. -/
theorem performAll_reportsState_codeThenData :
    let calls : List MemoryCall :=
      [.map 0x7FFFE000 0x1000 PageFlags.rx, .map 0x7FFFF000 0x2000 PageFlags.rw]
    let space := (AddressSpace.interface.performAll AddressSpace.empty calls).2
    space.pageFlags? 0x7FFFF800 = some PageFlags.rw ∧
      (MemoryInfo.query space 0x7FFFF800).state = .codeData ∧
      space.ReportsState 0x7FFFF800 PageFlags.rw := by
  exact ⟨by decide +kernel, by decide +kernel, performAll_reportsState _ (by decide +kernel)⟩

/-- A page of thread-local storage is taken for a part of the stack in front of
    it. -/
theorem query_state_ne_ofPlace_behind_stack :
    let calls : List MemoryCall :=
      [.map 0x127FFFF000 0x1000 PageFlags.rw, .map 0x1280000000 0x1000 PageFlags.rw]
    let space := (AddressSpace.interface.performAll AddressSpace.empty calls).2
    space.pageFlags? 0x1280000000 = some PageFlags.rw ∧
      MemoryState.ofPlace 0x1280000000 PageFlags.rw = .threadLocal ∧
      (MemoryInfo.query space 0x1280000000).state = .stack := by
  decide +kernel

end AddressSpace

end GuestMachine
