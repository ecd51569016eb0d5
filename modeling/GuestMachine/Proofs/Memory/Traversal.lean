import GuestMachine.Kernel.MemoryInfo
import GuestMachine.Proofs.Memory.Regions

/-! # Walking through memory

Guest code learns its memory map by asking about address zero and then, again
and again, about the address where the last answer ended. Such a walk meets
each run of pages once, comes to the end of the address space, and from the
inaccessible region above it back to zero.
-/

namespace GuestMachine

open Layout

/-- What the pages of the region show. -/
def MemoryRegion.shown (region : MemoryRegion) : Option PageFlags :=
  if region.mapped then some region.flags else none

namespace MemoryInfo

/-- Where a walk goes on. -/
def finish (info : MemoryInfo) : Address :=
  info.base + info.size

def Covers (info : MemoryInfo) (addr : Address) : Prop :=
  info.base.toNat ≤ addr.toNat ∧ addr.toNat < info.base.toNat + info.size.toNat

end MemoryInfo

namespace AddressSpace

variable {space : AddressSpace} {shown : Option PageFlags} {first stop : Nat}

/-- What a query says of `addr`, which is inside the address space. -/
structure Describes (space : AddressSpace) (region : MemoryRegion) (addr : Address) : Prop where
  nonempty : 0 < region.size
  aligned : isPageAligned region.base ∧ region.size.toNat % pageSize = 0
  inside : region.base.toNat + region.size.toNat ≤ addressSpaceSize
  contains : region.contains addr
  uniform : ∀ other, region.contains other → space.pageFlags? other = region.shown
  free : ¬ region.mapped → region.flags = PageFlags.none
  /-- The byte before the region is on a page that shows something else. -/
  before : ∀ other : Address, other.toNat + 1 = region.base.toNat →
    space.pageFlags? other ≠ region.shown
  /-- So is the byte behind it. -/
  after : ∀ other : Address, other.toNat = region.base.toNat + region.size.toNat →
    other.toNat < addressSpaceSize → space.pageFlags? other ≠ region.shown

/-- The addresses that a walk asks about. -/
def walk (space : AddressSpace) : Nat → Address
  | 0 => 0
  | n + 1 => (MemoryInfo.query space (space.walk n)).finish

/-- A walk has seen all of the address space after `count` regions. -/
structure WalkedIn (space : AddressSpace) (count : Nat) : Prop where
  begins : ∀ n ≤ count, (MemoryInfo.query space (space.walk n)).base = space.walk n
  accessible : ∀ n < count, (MemoryInfo.query space (space.walk n)).state ≠ .inaccessible
  once : ∀ addr : Address, addr.toNat < addressSpaceSize →
    ∃! n, n < count ∧ (MemoryInfo.query space (space.walk n)).Covers addr
  last : MemoryInfo.query space (space.walk count) =
    { base := UInt64.ofNat addressSpaceSize
      size := 0 - UInt64.ofNat addressSpaceSize
      state := .inaccessible }
  wraps : space.walk (count + 1) = 0

structure Tiled (space : AddressSpace) : Prop where
  described : ∀ addr : Address, addr.toNat < addressSpaceSize →
    ∃ region, space.query addr = some region ∧ space.Describes region addr
  apart : ∀ addr other region region', space.query addr = some region →
    space.query other = some region' →
    region = region' ∨ ∀ byte, ¬ (region.contains byte ∧ region'.contains byte)
  walked : ∃ count, space.WalkedIn count

theorem shown_regionOf (shown : Option PageFlags) (first stop : Nat) :
    (regionOf shown first stop).shown = shown := by
  cases shown <;> rfl

theorem describes_regionOf (run : space.IsRun shown first stop) {addr : Address}
    (member : first ≤ addr.toNat / pageSize ∧ addr.toNat / pageSize < stop) :
    space.Describes (regionOf shown first stop) addr where
  nonempty := by
    rw [UInt64.lt_iff_toNat_lt, toNat_size_regionOf run]
    exact Nat.mul_pos (Nat.sub_pos_of_lt run.nonempty) pageSize_pos
  aligned := by
    rw [isPageAligned, toNat_base_regionOf run, toNat_size_regionOf run]
    simp
  inside := by
    rw [toNat_end_regionOf run, ← pageCount_mul]
    exact Nat.mul_le_mul_right pageSize run.inside
  contains := (contains_regionOf run addr).mpr member
  uniform other within := by
    obtain ⟨lower, upper⟩ := (contains_regionOf run other).mp within
    rw [shown_regionOf]
    exact run.alike _ lower upper
  free unmapped := by
    cases shown with
    | none => rfl
    | some flags => exact absurd rfl unmapped
  before other next := by
    rw [toNat_base_regionOf run] at next
    rw [shown_regionOf]
    apply run.before
    simp only [pageSize, pageBits] at next ⊢
    omega
  after other next more := by
    rw [toNat_end_regionOf run] at next
    have page : other.toNat / pageSize = stop := by
      rw [next, Nat.mul_div_cancel stop pageSize_pos]
    rw [next, ← pageCount_mul] at more
    rw [shown_regionOf]
    have unlike := run.after (Nat.lt_of_mul_lt_mul_right more)
    rwa [← page] at unlike

theorem apart_of_query (bounded : space.Bounded) {addr other : Address}
    {region region' : MemoryRegion} (answer : space.query addr = some region)
    (answer' : space.query other = some region') :
    region = region' ∨ ∀ byte, ¬ (region.contains byte ∧ region'.contains byte) := by
  obtain ⟨shown, first, stop, rfl, run, _⟩ := query_eq_some bounded answer
  obtain ⟨shown', first', stop', rfl, run', _⟩ := query_eq_some bounded answer'
  by_cases common : ∃ byte, (regionOf shown first stop).contains byte ∧
      (regionOf shown' first' stop').contains byte
  · obtain ⟨byte, within, within'⟩ := common
    obtain ⟨rfl, rfl, rfl⟩ := run.unique run' ((contains_regionOf run byte).mp within)
      ((contains_regionOf run' byte).mp within')
    exact .inl rfl
  · exact .inr (not_exists.mp common)

theorem exists_run (bounded : space.Bounded) {page : Nat} (small : page < pageCount) :
    ∃ shown first stop, space.IsRun shown first stop ∧ first ≤ page ∧ page < stop := by
  obtain ⟨shown, first, stop, _, run, around⟩ := query_eq bounded (pageAddress_inside small)
  rw [page_of_pageAddress (Nat.le_of_lt small)] at around
  exact ⟨shown, first, stop, run, around⟩

/-- Where a run ends the next one begins. -/
theorem exists_next_run (bounded : space.Bounded) (run : space.IsRun shown first stop)
    (more : stop < pageCount) : ∃ shown' stop', space.IsRun shown' stop stop' := by
  obtain ⟨shown', first', stop', run', lower, upper⟩ := exists_run bounded more
  have nonempty := run.nonempty
  by_cases same : first' = stop
  · exact ⟨shown', stop', same ▸ run'⟩
  · -- Else the two would share the page before.
    have shared : first ≤ stop - 1 ∧ stop - 1 < stop := by omega
    have one := run.unique run' shared (by omega)
    omega

theorem stateOf_ne_inaccessible (base : Address) (flags : PageFlags) :
    MemoryInfo.stateOf base flags ≠ .inaccessible := by
  unfold MemoryInfo.stateOf
  split_ifs <;> simp

theorem info_of_query {addr : Address} {region : MemoryRegion}
    (answer : space.query addr = some region) :
    (MemoryInfo.query space addr).base = region.base ∧
      (MemoryInfo.query space addr).size = region.size ∧
      (MemoryInfo.query space addr).state ≠ .inaccessible := by
  unfold MemoryInfo.query
  simp only [answer]
  split <;> simp [stateOf_ne_inaccessible]

theorem query_pageAddress (bounded : space.Bounded) (run : space.IsRun shown first stop) :
    space.query (pageAddress first) = some (regionOf shown first stop) := by
  have small : first < pageCount := Nat.lt_of_lt_of_le run.nonempty run.inside
  obtain ⟨shown', first', stop', answer, run', around⟩ :=
    query_eq bounded (pageAddress_inside small)
  rw [page_of_pageAddress (Nat.le_of_lt small)] at around
  obtain ⟨rfl, rfl, rfl⟩ := run.unique run' ⟨Nat.le_refl first, run.nonempty⟩ around
  exact answer

/-- The `n`th region of a walk begins where the walk is, and reaches from there
    to where the walk goes on. -/
structure Meets (space : AddressSpace) (n : Nat) : Prop where
  base : (MemoryInfo.query space (space.walk n)).base = space.walk n
  accessible : (MemoryInfo.query space (space.walk n)).state ≠ .inaccessible
  ascends : (space.walk n).toNat < (space.walk (n + 1)).toNat
  covers : ∀ addr, (MemoryInfo.query space (space.walk n)).Covers addr ↔
    (space.walk n).toNat ≤ addr.toNat ∧ addr.toNat < (space.walk (n + 1)).toNat

theorem walk_of_run (bounded : space.Bounded) (run : space.IsRun shown first stop) {n : Nat}
    (here : space.walk n = pageAddress first) :
    space.walk (n + 1) = pageAddress stop ∧ space.Meets n := by
  have answer := query_pageAddress bounded run
  rw [← here] at answer
  obtain ⟨base, size, accessible⟩ := info_of_query answer
  have next : space.walk (n + 1) = pageAddress stop := by
    rw [walk, MemoryInfo.finish, base, size]
    exact finish_regionOf run
  have whole := toNat_end_regionOf run
  rw [← toNat_pageAddress run.inside, ← next, ← base, ← size] at whole
  have base : (MemoryInfo.query space (space.walk n)).base = space.walk n := base.trans here.symm
  refine ⟨next, base, accessible, ?_, fun addr => ?_⟩
  · have positive : 0 < (MemoryInfo.query space (space.walk n)).size.toNat := by
      rw [size, toNat_size_regionOf run]
      exact Nat.mul_pos (Nat.sub_pos_of_lt run.nonempty) pageSize_pos
    rw [base] at whole
    omega
  · rw [MemoryInfo.Covers, whole, base]

theorem walk_reaches_end (bounded : space.Bounded) {n page : Nat}
    (here : space.walk n = pageAddress page)
    (starts : page = pageCount ∨ ∃ shown stop, space.IsRun shown page stop) :
    ∃ count, n ≤ count ∧ space.walk count = pageAddress pageCount ∧
      ∀ m, n ≤ m → m < count → space.Meets m := by
  induction left : pageCount - page using Nat.strongRecOn generalizing n page with
  | ind left ih =>
      rcases starts with rfl | ⟨shown, stop, run⟩
      · exact ⟨n, Nat.le_refl n, here, fun m => by omega⟩
      · obtain ⟨next, meets⟩ := walk_of_run bounded run here
        have nonempty := run.nonempty
        have inside := run.inside
        have starts : stop = pageCount ∨ ∃ shown stop', space.IsRun shown stop stop' :=
          (Nat.eq_or_lt_of_le inside).imp_right (exists_next_run bounded run)
        obtain ⟨count, later, ends, others⟩ := ih (pageCount - stop) (by omega) next starts rfl
        refine ⟨count, Nat.le_of_succ_le later, ends, fun m lower upper => ?_⟩
        rcases Nat.eq_or_lt_of_le lower with rfl | lower
        · exact meets
        · exact others m lower upper

/-- Ascending steps from at most `x` to more than `x` pass it once. -/
theorem exists_unique_step {w : Nat → Nat} {count x : Nat}
    (ascends : ∀ n < count, w n < w (n + 1)) (lower : w 0 ≤ x) (upper : x < w count) :
    ∃! n, n < count ∧ w n ≤ x ∧ x < w (n + 1) := by
  have monotone {m n : Nat} (le : m ≤ n) (bound : n ≤ count) : w m ≤ w n := by
    induction le with
    | refl => exact Nat.le_refl _
    | step _ ih => exact Nat.le_trans (ih (by omega)) (Nat.le_of_lt (ascends _ (by omega)))
  have passed : ∃ n, n < count ∧ w n ≤ x ∧ x < w (n + 1) := by
    by_contra never
    have below : ∀ n ≤ count, w n ≤ x := by
      intro n bound
      induction n with
      | zero => exact lower
      | succ n ih => exact Nat.le_of_not_lt fun above => never ⟨n, bound, ih (by omega), above⟩
    have := below count (Nat.le_refl count)
    omega
  obtain ⟨n, bound, reached, ahead⟩ := passed
  refine ⟨n, ⟨bound, reached, ahead⟩, ?_⟩
  rintro m ⟨bound', reached', ahead'⟩
  rcases Nat.lt_trichotomy m n with earlier | same | later
  · have : w (m + 1) ≤ w n := monotone earlier (by omega)
    omega
  · exact same
  · have : w (n + 1) ≤ w m := monotone later (by omega)
    omega

theorem walkedIn_of_end {count : Nat} (ends : space.walk count = pageAddress pageCount)
    (meets : ∀ n < count, space.Meets n) : space.WalkedIn count := by
  have limit : (space.walk count).toNat = addressSpaceSize :=
    ends ▸ toNat_pageAddress (Nat.le_refl pageCount)
  have last : MemoryInfo.query space (space.walk count) =
      { base := UInt64.ofNat addressSpaceSize
        size := 0 - UInt64.ofNat addressSpaceSize
        state := .inaccessible } := by
    unfold MemoryInfo.query
    simp only [query_of_le (Nat.le_of_eq limit.symm)]
  exact {
    begins := by
      intro n bound
      rcases Nat.lt_or_eq_of_le bound with before | rfl
      · exact (meets n before).base
      · rw [last, ends]
        rfl
    accessible := fun n before => (meets n before).accessible
    once := by
      intro addr inside
      have covers (n : Nat) : n < count ∧ (MemoryInfo.query space (space.walk n)).Covers addr ↔
          n < count ∧ (space.walk n).toNat ≤ addr.toNat ∧
            addr.toNat < (space.walk (n + 1)).toNat :=
        and_congr_right fun before => (meets n before).covers addr
      simp only [covers]
      exact exists_unique_step (fun n before => (meets n before).ascends) (Nat.zero_le _)
        (limit ▸ inside)
    last
    wraps := by
      rw [walk, last]
      rfl }

/-- After any calls to memory, the regions that queries describe tile the
    address space, and a walk along them meets each one once and ends. -/
theorem performAll_tiled (calls : List MemoryCall) :
    (AddressSpace.interface.performAll AddressSpace.empty calls).2.Tiled := by
  have bounded := performAll_bounded calls
  generalize (AddressSpace.interface.performAll AddressSpace.empty calls).2 = space at bounded
  exact {
    described := by
      intro addr inside
      obtain ⟨shown, first, stop, answer, run, around⟩ := query_eq bounded inside
      exact ⟨_, answer, describes_regionOf run around⟩
    apart := fun _ _ _ _ => apart_of_query bounded
    walked := by
      have small : 0 < pageCount := by decide
      obtain ⟨shown, first, stop, run, start, _⟩ := exists_run bounded small
      obtain rfl := Nat.le_zero.mp start
      have here : space.walk 0 = pageAddress 0 := rfl
      obtain ⟨count, _, ends, meets⟩ := walk_reaches_end bounded here (.inr ⟨_, _, run⟩)
      exact ⟨count, walkedIn_of_end ends fun n => meets n (Nat.zero_le n)⟩ }

example :
    let calls : List MemoryCall :=
      [.map 0x10000 0x2000 PageFlags.rw, .map 0x12000 0x1000 PageFlags.r]
    let space := (AddressSpace.interface.performAll AddressSpace.empty calls).2
    (List.range 6).map space.walk = [0, 0x10000, 0x12000, 0x13000, 0x8000000000, 0] := by
  decide +kernel

end AddressSpace

end GuestMachine
