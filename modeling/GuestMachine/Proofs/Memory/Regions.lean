import Mathlib.Data.List.Nodup
import GuestMachine.Proofs.Memory.Refinement

/-! # Runs of pages

A query answers with a run: consecutive pages that are all free, or all mapped
under the same permissions, and that no neighbour could join. Mapped runs are
found page by page in both directions, free ones from the nearest mappings;
either way it is the one run that the page is in.
-/

namespace GuestMachine.AddressSpace

open Layout

variable {space : AddressSpace}

/-- Number of pages that the address space has room for. -/
def pageCount : Nat :=
  addressSpaceSize / pageSize

theorem pageCount_mul : pageCount * pageSize = addressSpaceSize := rfl

/-- Nothing is mapped outside the address space. -/
def Bounded (space : AddressSpace) : Prop :=
  ∀ page, (space.flags? page).isSome → page < pageCount

/-- The pages from `first` up to `stop` all show the same permissions, or none
    if they are free, and no neighbour shows the same. -/
structure IsRun (space : AddressSpace) (shown : Option PageFlags) (first stop : Nat) : Prop where
  nonempty : first < stop
  inside : stop ≤ pageCount
  alike : ∀ page, first ≤ page → page < stop → space.flags? page = shown
  before : ∀ page, page + 1 = first → space.flags? page ≠ shown
  after : stop < pageCount → space.flags? stop ≠ shown

namespace IsRun

variable {shown : Option PageFlags} {first stop first' stop' page : Nat}

theorem first_le (run : space.IsRun shown first stop) (run' : space.IsRun shown first' stop')
    (common : first < stop') : first ≤ first' := by
  by_contra earlier
  obtain ⟨below, next⟩ : ∃ below, below + 1 = first := ⟨first - 1, by omega⟩
  exact run.before below next (run'.alike below (by omega) (by omega))

theorem le_stop (run : space.IsRun shown first stop) (run' : space.IsRun shown first' stop')
    (common : first' < stop) : stop' ≤ stop := by
  by_contra later
  have inside := run'.inside
  exact run.after (by omega) (run'.alike stop (by omega) (by omega))

theorem unique {shown' : Option PageFlags} (run : space.IsRun shown first stop)
    (run' : space.IsRun shown' first' stop') (member : first ≤ page ∧ page < stop)
    (member' : first' ≤ page ∧ page < stop') : shown = shown' ∧ first = first' ∧ stop = stop' := by
  obtain rfl : shown = shown' :=
    (run.alike page member.1 member.2).symm.trans (run'.alike page member'.1 member'.2)
  have left : first < stop' := by omega
  have right : first' < stop := by omega
  exact ⟨rfl, Nat.le_antisymm (run.first_le run' left) (run'.first_le run right),
    Nat.le_antisymm (run'.le_stop run left) (run.le_stop run' right)⟩

end IsRun

section

variable {flags : PageFlags} {page other limit : Nat}

theorem hasFlags_iff : space.hasFlags flags page ↔ space.flags? page = some flags := by
  unfold hasFlags flags?
  cases space.pages[page]? <;> simp

theorem runStart_le (space : AddressSpace) (flags : PageFlags) (page : Nat) :
    space.runStart flags page ≤ page := by
  induction page with
  | zero => simp [runStart]
  | succ page ih =>
      rw [runStart]
      split <;> omega

theorem hasFlags_of_runStart_le (reached : space.runStart flags page ≤ other)
    (below : other < page) : space.hasFlags flags other := by
  induction page with
  | zero => omega
  | succ page ih =>
      rw [runStart] at reached
      split at reached
      · rename_i like
        by_cases same : other = page
        · rwa [same]
        · exact ih reached (by omega)
      · omega

theorem not_hasFlags_before_runStart (next : other + 1 = space.runStart flags page) :
    ¬ space.hasFlags flags other := by
  induction page with
  | zero => simp [runStart] at next
  | succ page ih =>
      rw [runStart] at next
      split at next
      · exact ih next
      · rename_i unlike
        rwa [Nat.succ.inj next]

theorem le_runEnd (space : AddressSpace) (flags : PageFlags) (limit page : Nat) :
    page ≤ space.runEnd flags limit page := by
  induction limit generalizing page with
  | zero => simp [runEnd]
  | succ limit ih =>
      rw [runEnd]
      split
      · exact Nat.le_of_succ_le (ih (page + 1))
      · exact Nat.le_refl page

theorem hasFlags_of_lt_runEnd (reached : page ≤ other)
    (below : other < space.runEnd flags limit page) : space.hasFlags flags other := by
  induction limit generalizing page with
  | zero =>
      rw [runEnd] at below
      omega
  | succ limit ih =>
      rw [runEnd] at below
      split at below
      · rename_i like
        by_cases same : page = other
        · rwa [← same]
        · exact ih (by omega) below
      · omega

theorem runEnd_of_hasFlags (like : space.hasFlags flags (space.runEnd flags limit page)) :
    space.runEnd flags limit page = page + limit := by
  induction limit generalizing page with
  | zero => rfl
  | succ limit ih =>
      rw [runEnd] at like ⊢
      split at like
      · rename_i here
        rw [if_pos here, ih like]
        omega
      · contradiction

/-- As many steps as there are mapped pages are enough: that many pages and one
    more cannot all be mapped. -/
theorem not_hasFlags_runEnd (space : AddressSpace) (flags : PageFlags) (page : Nat) :
    ¬ space.hasFlags flags (space.runEnd flags space.pages.size page) := by
  intro last
  have ended := runEnd_of_hasFlags last
  have mapped : List.range' page (space.pages.size + 1) ⊆ space.pages.keys := by
    intro other member
    obtain ⟨lower, upper⟩ := List.mem_range'_1.mp member
    have like : space.hasFlags flags other := by
      by_cases here : other < space.runEnd flags space.pages.size page
      · exact hasFlags_of_lt_runEnd lower here
      · rwa [show other = space.runEnd flags space.pages.size page by omega]
    exact mem_keys_iff.mpr (Option.isSome_of_eq_some (hasFlags_iff.mp like))
  have fits := (List.nodup_range' ..).length_le_of_subset mapped
  rw [List.length_range', Std.TreeMap.length_keys] at fits
  omega

theorem isRun_of_mapped (bounded : space.Bounded) (mapped : space.flags? page = some flags) :
    space.IsRun (some flags) (space.runStart flags page)
        (space.runEnd flags space.pages.size page) ∧
      space.runStart flags page ≤ page ∧ page < space.runEnd flags space.pages.size page := by
  have start := space.runStart_le flags page
  have stop := space.le_runEnd flags space.pages.size page
  have like {other : Nat} (lower : space.runStart flags page ≤ other)
      (upper : other < space.runEnd flags space.pages.size page) :
      space.flags? other = some flags := by
    apply hasFlags_iff.mp
    by_cases below : other < page
    · exact hasFlags_of_runStart_le lower below
    · exact hasFlags_of_lt_runEnd (by omega) upper
  have unlike := hasFlags_iff.not.mp (space.not_hasFlags_runEnd flags page)
  have beyond : page < space.runEnd flags space.pages.size page :=
    Nat.lt_of_le_of_ne stop fun same => unlike (same ▸ mapped)
  have last : space.flags? (space.runEnd flags space.pages.size page - 1) = some flags :=
    like (by omega) (by omega)
  have inside := bounded _ (Option.isSome_of_eq_some last)
  refine ⟨⟨by omega, by omega, fun other => like, fun other next => ?_, fun _ => unlike⟩, start,
    beyond⟩
  exact hasFlags_iff.not.mp (not_hasFlags_before_runStart next)

/-- Where the gap around a free page begins. -/
def gapStart (space : AddressSpace) (page : Nat) : Nat :=
  ((space.pages.keys.filter (· < page)).getLast?.map (· + 1)).getD 0

/-- Where the gap around a free page ends. -/
def gapStop (space : AddressSpace) (page : Nat) : Nat :=
  (space.pages.keys.find? (page ≤ ·)).getD pageCount

theorem not_mem_keys_iff : page ∉ space.pages.keys ↔ space.flags? page = none := by
  rw [mem_keys_iff, Option.not_isSome_iff_eq_none]

theorem gapStart_spec (space : AddressSpace) (page : Nat) :
    space.gapStart page ≤ page ∧
      (∀ other, space.gapStart page ≤ other → other < page → space.flags? other = none) ∧
      ∀ other, other + 1 = space.gapStart page → space.flags? other ≠ none := by
  unfold gapStart
  simp only [← not_mem_keys_iff, ne_eq, not_not]
  cases found : (space.pages.keys.filter (· < page)).getLast? with
  | none =>
      rw [List.getLast?_eq_none_iff, List.filter_eq_nil_iff] at found
      refine ⟨Nat.zero_le page, fun other _ below member => ?_, fun other next => by simp at next⟩
      exact found other member (decide_eq_true below)
  | some last =>
      obtain ⟨init, split⟩ := List.getLast?_eq_some_iff.mp found
      obtain ⟨member, below⟩ : last ∈ space.pages.keys ∧ decide (last < page) :=
        List.mem_filter.mp (split ▸ List.mem_append_right init List.mem_cons_self)
      have ascending := space.keys_ascending.filter (· < page)
      rw [split, List.pairwise_append] at ascending
      refine ⟨of_decide_eq_true below, fun other lower upper another => ?_, fun other next => ?_⟩
      · have within : other ∈ space.pages.keys.filter (· < page) :=
          List.mem_filter.mpr ⟨another, decide_eq_true upper⟩
        have lower : last + 1 ≤ other := lower
        rw [split, List.mem_append, List.mem_singleton] at within
        rcases within with earlier | same
        · have := ascending.2.2 other earlier last List.mem_cons_self
          omega
        · omega
      · rwa [Nat.succ.inj next]

theorem gapStop_spec (space : AddressSpace) (page : Nat) :
    (∀ other, page ≤ other → other < space.gapStop page → space.flags? other = none) ∧
      (space.gapStop page = pageCount ∨
        page ≤ space.gapStop page ∧ space.flags? (space.gapStop page) ≠ none) := by
  unfold gapStop
  simp only [← not_mem_keys_iff, ne_eq, not_not]
  cases found : space.pages.keys.find? (page ≤ ·) with
  | none =>
      rw [List.find?_eq_none] at found
      exact ⟨fun other lower _ member => found other member (decide_eq_true lower), .inl rfl⟩
  | some next =>
      obtain ⟨member, lower, least⟩ := (find?_eq_some_iff_least space.keys_ascending).mp found
      refine ⟨fun other above below another => ?_, .inr ⟨of_decide_eq_true lower, member⟩⟩
      exact absurd below (Nat.not_lt_of_ge (least other another (decide_eq_true above)))

/-- The run begins behind the last mapping and ends at the next, or where the
    address space does. -/
theorem isRun_of_free (bounded : space.Bounded) (small : page < pageCount)
    (free : space.flags? page = none) :
    space.IsRun none (space.gapStart page) (space.gapStop page) ∧
      space.gapStart page ≤ page ∧ page < space.gapStop page := by
  obtain ⟨start, freeBelow, mappedBefore⟩ := space.gapStart_spec page
  obtain ⟨freeAbove, edge⟩ := space.gapStop_spec page
  have inside : space.gapStop page ≤ pageCount := by
    rcases edge with atEnd | ⟨_, mapped⟩
    · exact Nat.le_of_eq atEnd
    · exact Nat.le_of_lt (bounded _ (Option.isSome_iff_ne_none.mpr mapped))
  have beyond : page < space.gapStop page := by
    rcases edge with atEnd | ⟨lower, mapped⟩
    · rwa [atEnd]
    · exact Nat.lt_of_le_of_ne lower fun same => mapped (same ▸ free)
  refine ⟨⟨by omega, inside, fun other lower upper => ?_, mappedBefore, fun more => ?_⟩, start,
    beyond⟩
  · by_cases below : other < page
    · exact freeBelow other lower below
    · exact freeAbove other (by omega) upper
  · rcases edge with atEnd | ⟨_, mapped⟩
    · omega
    · exact mapped

end

/-- The region that consists of these pages. -/
def regionOf (shown : Option PageFlags) (first stop : Nat) : MemoryRegion where
  base := pageAddress first
  size := UInt64.ofNat ((stop - first) * pageSize)
  flags := shown.getD PageFlags.none
  mapped := shown.isSome

theorem query_eq (bounded : space.Bounded) {addr : Address}
    (inside : addr.toNat < addressSpaceSize) :
    ∃ shown first stop, space.query addr = some (regionOf shown first stop) ∧
      space.IsRun shown first stop ∧
      first ≤ addr.toNat / pageSize ∧ addr.toNat / pageSize < stop := by
  have small : addr.toNat / pageSize < pageCount :=
    (Nat.div_lt_iff_lt_mul pageSize_pos).mpr (pageCount_mul ▸ inside)
  unfold query
  rw [if_neg (Nat.not_le_of_gt inside)]
  cases found : space.pages[addr.toNat / pageSize]? with
  | some page =>
      have mapped : space.flags? (addr.toNat / pageSize) = some page.flags := by
        simp [flags?, found]
      refine ⟨some page.flags, _, _, ?_, isRun_of_mapped bounded mapped⟩
      simp only [found]
      rfl
  | none =>
      have free : space.flags? (addr.toNat / pageSize) = none := by simp [flags?, found]
      refine ⟨none, _, _, ?_, isRun_of_free bounded small free⟩
      simp only [found]
      rfl

theorem query_of_le {addr : Address} (outside : addressSpaceSize ≤ addr.toNat) :
    space.query addr = none :=
  if_pos outside

theorem query_eq_some (bounded : space.Bounded) {addr : Address} {region : MemoryRegion}
    (answer : space.query addr = some region) :
    ∃ shown first stop, region = regionOf shown first stop ∧ space.IsRun shown first stop ∧
      first ≤ addr.toNat / pageSize ∧ addr.toNat / pageSize < stop := by
  by_cases outside : addressSpaceSize ≤ addr.toNat
  · rw [query_of_le outside] at answer
    cases answer
  · obtain ⟨shown, first, stop, found, around⟩ := query_eq bounded (Nat.lt_of_not_le outside)
    exact ⟨shown, first, stop, Option.some.inj (answer.symm.trans found), around⟩

section

variable {shown : Option PageFlags} {first stop : Nat}

theorem toNat_pageAddress {page : Nat} (inside : page ≤ pageCount) :
    (pageAddress page).toNat = page * pageSize := by
  have below : page * pageSize ≤ addressSpaceSize := Nat.mul_le_mul_right pageSize inside
  exact UInt64.toNat_ofNat_of_lt' (Nat.lt_of_le_of_lt below (by decide))

theorem pageAddress_inside {page : Nat} (small : page < pageCount) :
    (pageAddress page).toNat < addressSpaceSize := by
  rw [toNat_pageAddress (Nat.le_of_lt small), ← pageCount_mul]
  exact Nat.mul_lt_mul_of_pos_right small pageSize_pos

theorem page_of_pageAddress {page : Nat} (inside : page ≤ pageCount) :
    (pageAddress page).toNat / pageSize = page := by
  rw [toNat_pageAddress inside, Nat.mul_div_cancel page pageSize_pos]

theorem toNat_size_regionOf (run : space.IsRun shown first stop) :
    (regionOf shown first stop).size.toNat = (stop - first) * pageSize :=
  toNat_pageAddress (Nat.le_trans (Nat.sub_le stop first) run.inside)

theorem toNat_base_regionOf (run : space.IsRun shown first stop) :
    (regionOf shown first stop).base.toNat = first * pageSize :=
  toNat_pageAddress (Nat.le_trans (Nat.le_of_lt run.nonempty) run.inside)

theorem toNat_end_regionOf (run : space.IsRun shown first stop) :
    (regionOf shown first stop).base.toNat + (regionOf shown first stop).size.toNat =
      stop * pageSize := by
  rw [toNat_base_regionOf run, toNat_size_regionOf run, ← Nat.add_mul,
    Nat.add_sub_cancel' (Nat.le_of_lt run.nonempty)]

theorem finish_regionOf (run : space.IsRun shown first stop) :
    (regionOf shown first stop).finish = pageAddress stop := by
  apply UInt64.toNat.inj
  rw [MemoryRegion.finish, UInt64.toNat_add, toNat_end_regionOf run,
    ← toNat_pageAddress run.inside]
  exact Nat.mod_eq_of_lt (UInt64.toNat_lt _)

theorem contains_regionOf (run : space.IsRun shown first stop) (addr : Address) :
    (regionOf shown first stop).contains addr ↔
      first ≤ addr.toNat / pageSize ∧ addr.toNat / pageSize < stop := by
  rw [MemoryRegion.contains, Bool.and_eq_true, decide_eq_true_iff, decide_eq_true_iff,
    UInt64.le_iff_toNat_le, UInt64.lt_iff_toNat_lt, toNat_base_regionOf run, finish_regionOf run,
    toNat_pageAddress run.inside, Nat.le_div_iff_mul_le pageSize_pos,
    Nat.div_lt_iff_lt_mul pageSize_pos]

end

theorem Represents.bounded {memory : FlatMemory} (same : space.Represents memory) :
    space.Bounded := by
  intro page mapped
  have start : page * pageSize / pageSize = page := Nat.mul_div_cancel page pageSize_pos
  rw [same.flags] at mapped
  have inside := memory.inside (page * pageSize) ((memory.mapped_iff _).mpr (by rwa [start]))
  rw [← pageCount_mul] at inside
  exact Nat.lt_of_mul_lt_mul_right inside

/-- No calls map anything outside the address space. -/
theorem performAll_bounded (calls : List MemoryCall) :
    (AddressSpace.interface.performAll AddressSpace.empty calls).2.Bounded :=
  (performAll_alike empty_represents calls).2.bounded

end GuestMachine.AddressSpace
