import Mathlib.Order.Nat
import GuestMachine.Proofs.Memory.RegionStates

/-! # The search for free memory

The search walks over the mapped pages of a region in ascending order and
stops at the first gap that is large enough. Its cursor stands behind the last
page that it has passed, and below the cursor nothing fits. So what it finds is
the lowest place of all, and when it finds none there is none.
-/

namespace GuestMachine.AddressSpace

open Layout

/-- `size` bytes rounded up to pages. -/
def wholePages (size : Nat) : Nat :=
  (size + (pageSize - 1)) / pageSize * pageSize

/-- A number that the search computes does not have 64 bits. -/
def SearchOverflows (regionBase : Address) (regionSize size : UInt64) : Prop :=
  2 ^ 64 ≤ wholePages size.toNat ∨ 2 ^ 64 ≤ wholePages regionBase.toNat ∨
    2 ^ 64 ≤ regionBase.toNat + regionSize.toNat

/-- From `start` on, the region has room for `size` bytes in whole pages, none
    of which is mapped. -/
structure FreeAt (space : AddressSpace) (regionBase : Address) (regionSize size : UInt64)
    (start : Address) : Prop where
  aligned : isPageAligned start
  member : InArea regionBase regionSize start.toNat
  room : start.toNat + wholePages size.toNat ≤ regionBase.toNat + regionSize.toNat
  free : ∀ addr, start.toNat ≤ addr → addr < start.toNat + wholePages size.toNat →
    space.flags? (addr / pageSize) = none

/-- What a search has to answer. -/
structure Searched (space : AddressSpace) (regionBase : Address) (regionSize size : UInt64)
    (answer : AreaSearch) : Prop where
  refused : size = 0 ∨ SearchOverflows regionBase regionSize size → answer = .notFound
  found_iff : ¬ (size = 0 ∨ SearchOverflows regionBase regionSize size) →
    ((∃ start, answer = .found start) ↔ ∃ start, space.FreeAt regionBase regionSize size start)
  lowest : ∀ start, answer = .found start →
    IsLeast { start | space.FreeAt regionBase regionSize size start } start
  otherwise : (∀ start, answer ≠ .found start) → answer = .notFound

/-- No listed page is among the `needed` pages from `start` on, which end by
    `stop`. -/
structure GapAt (needed stop : Nat) (mapped : List Nat) (start : Nat) : Prop where
  room : start + needed ≤ stop
  free : ∀ page ∈ mapped, page < start ∨ start + needed ≤ page

/-- The gap that the sweep from `cursor` on comes to, the one behind the last
    mapping included. -/
def sweep? (needed stop cursor : Nat) (mapped : List Nat) : Option Nat :=
  let (cursor, gap) := sweepGaps needed cursor mapped
  if gap || needed ≤ stop - cursor then some cursor else none

variable {needed stop : Nat}

theorem sweep?_nil (needed stop cursor : Nat) :
    sweep? needed stop cursor [] = if needed ≤ stop - cursor then some cursor else none := by
  by_cases fits : needed ≤ stop - cursor <;> simp [sweep?, sweepGaps, fits]

theorem sweep?_cons (needed stop cursor page : Nat) (rest : List Nat) :
    sweep? needed stop cursor (page :: rest) =
      if needed ≤ page - cursor then some cursor else sweep? needed stop (page + 1) rest := by
  by_cases fits : needed ≤ page - cursor
  · simp only [sweep?, sweepGaps, fits, if_true, Bool.true_or]
  · simp only [sweep?, sweepGaps, fits, if_false]

theorem isLeast_of_first {cursor : Nat} {p : Nat → Prop} (first : p cursor) (start : Nat) :
    IsLeast { start | cursor ≤ start ∧ p start } start ↔ cursor = start := by
  constructor
  · intro least
    exact Nat.le_antisymm least.1.1 (least.2 ⟨Nat.le_refl cursor, first⟩)
  · rintro rfl
    exact ⟨⟨Nat.le_refl cursor, first⟩, fun other member => member.1⟩

/-- By induction on the pages to come. A page that leaves no gap before it
    moves the cursor behind it, and no start is lost: one at or before this
    page would have the page in its way. -/
theorem sweep?_eq_some_iff (positive : 0 < needed) {mapped : List Nat} {cursor : Nat}
    (ascending : mapped.Pairwise (· < ·)) (within : ∀ page ∈ mapped, cursor ≤ page ∧ page < stop)
    (start : Nat) :
    sweep? needed stop cursor mapped = some start ↔
      IsLeast { start | cursor ≤ start ∧ GapAt needed stop mapped start } start := by
  induction mapped generalizing cursor with
  | nil =>
      rw [sweep?_nil]
      split
      · rename_i fits
        have gap : GapAt needed stop [] cursor := ⟨by omega, by simp⟩
        rw [isLeast_of_first gap, Option.some.injEq]
      · rename_i tight
        refine iff_of_false (by simp) fun least => ?_
        have := least.1.1
        have := least.1.2.room
        omega
  | cons page rest ih =>
      obtain ⟨below, ascending⟩ := List.pairwise_cons.mp ascending
      obtain ⟨lower, upper⟩ := within page List.mem_cons_self
      rw [sweep?_cons]
      split
      · rename_i fits
        have gap : GapAt needed stop (page :: rest) cursor := by
          refine ⟨by omega, fun other member => .inr ?_⟩
          rcases List.mem_cons.mp member with rfl | member
          · omega
          · have := below other member
            omega
        rw [isLeast_of_first gap, Option.some.injEq]
      · rename_i tight
        have passed : { start | cursor ≤ start ∧ GapAt needed stop (page :: rest) start } =
            { start | page + 1 ≤ start ∧ GapAt needed stop rest start } := by
          ext start
          constructor
          · rintro ⟨reached, gap⟩
            have behind : page + 1 ≤ start := by
              rcases gap.free page List.mem_cons_self with before | after
              · exact before
              · omega
            exact ⟨behind, gap.room, fun other member =>
              gap.free other (List.mem_cons_of_mem page member)⟩
          · rintro ⟨behind, gap⟩
            exact ⟨by omega, gap.room, List.forall_mem_cons.mpr ⟨.inl behind, gap.free⟩⟩
        rw [passed]
        exact ih ascending fun other member =>
          ⟨below other member, (within other (List.mem_cons_of_mem page member)).2⟩

theorem toNat_pageAlignUp {size rounded : UInt64} (aligned : pageAlignUp? size = some rounded) :
    rounded.toNat = wholePages size.toNat := by
  rw [pageAlignUp?] at aligned
  split at aligned
  · rename_i fits
    rw [← Option.some.inj aligned]
    exact UInt64.toNat_ofNat_of_lt' (Nat.lt_of_le_of_lt (Nat.div_mul_le_self _ _) fits)
  · cases aligned

theorem pageAlignUp?_eq_none_iff (size : UInt64) :
    pageAlignUp? size = none ↔ 2 ^ 64 ≤ wholePages size.toNat := by
  have page : pageSize = 4096 := rfl
  rw [pageAlignUp?, wholePages, page]
  split
  · refine iff_of_false (by simp) ?_
    omega
  · refine iff_of_true rfl ?_
    omega

theorem wholePages_of_pageAlignUp {size rounded : UInt64}
    (aligned : pageAlignUp? size = some rounded) :
    wholePages rounded.toNat = wholePages size.toNat := by
  rw [toNat_pageAlignUp aligned]
  have page : pageSize = 4096 := rfl
  simp only [wholePages, page]
  omega

theorem wholePages_div_mul (size : Nat) :
    wholePages size / pageSize * pageSize = wholePages size :=
  Nat.div_mul_cancel (Nat.dvd_mul_left pageSize _)

theorem div_pos_of_wholePages {size : UInt64} (nonempty : size ≠ 0) :
    0 < wholePages size.toNat / pageSize := by
  have page : pageSize = 4096 := rfl
  rw [ne_eq, ← UInt64.toNat_inj, UInt64.toNat_zero] at nonempty
  rw [wholePages, page]
  omega

variable {space : AddressSpace} {regionBase start : Address} {regionSize size : UInt64}

/-- Only the number of pages matters. -/
theorem FreeAt.of_wholePages {size' : UInt64} (same : wholePages size'.toNat = wholePages size.toNat)
    (fits : space.FreeAt regionBase regionSize size start) :
    space.FreeAt regionBase regionSize size' start := by
  obtain ⟨aligned, member, room, free⟩ := fits
  rw [← same] at room
  simp only [← same] at free
  exact ⟨aligned, member, room, free⟩

/-- The mapped pages of the region, ascending. -/
def mappedBetween (space : AddressSpace) (first stop : Nat) : List Nat :=
  space.pages.keys.filter fun page => first ≤ page && page < stop

theorem mem_mappedBetween {first stop page : Nat} :
    page ∈ space.mappedBetween first stop ↔
      (space.flags? page).isSome ∧ first ≤ page ∧ page < stop := by
  rw [mappedBetween, List.mem_filter, mem_keys_iff, Bool.and_eq_true, decide_eq_true_iff,
    decide_eq_true_iff]

/-- Pages count from the region's first whole page to its last. -/
def firstPage (regionBase : Address) : Nat :=
  wholePages regionBase.toNat / pageSize

def stopPage (regionBase : Address) (regionSize : UInt64) : Nat :=
  (regionBase.toNat + regionSize.toNat) / pageSize

def PageFreeAt (space : AddressSpace) (regionBase : Address) (regionSize size : UInt64)
    (start : Nat) : Prop :=
  firstPage regionBase ≤ start ∧
    GapAt (wholePages size.toNat / pageSize) (stopPage regionBase regionSize)
      (space.mappedBetween (firstPage regionBase) (stopPage regionBase regionSize)) start

/-- What is left of the search once no number overflows. -/
theorem findFreeArea_eq (space : AddressSpace)
    (proper : ¬ (size = 0 ∨ SearchOverflows regionBase regionSize size)) :
    space.findFreeArea regionBase regionSize size =
      if stopPage regionBase regionSize < firstPage regionBase ∧ space.everMapped then
        .invertedRegion
      else (sweep? (wholePages size.toNat / pageSize) (stopPage regionBase regionSize)
        (firstPage regionBase) (space.mappedBetween (firstPage regionBase)
          (stopPage regionBase regionSize))).elim .notFound fun page => .found (pageAddress page) := by
  simp only [SearchOverflows, not_or] at proper
  obtain ⟨nonempty, sizeFits, baseFits, sumFits⟩ := proper
  obtain ⟨rounded, sizeAligned⟩ :=
    Option.ne_none_iff_exists'.mp (mt (pageAlignUp?_eq_none_iff size).mp sizeFits)
  obtain ⟨base, baseAligned⟩ :=
    Option.ne_none_iff_exists'.mp (mt (pageAlignUp?_eq_none_iff regionBase).mp baseFits)
  have positive := Nat.ne_of_gt (div_pos_of_wholePages nonempty)
  unfold findFreeArea
  simp only [sizeAligned, baseAligned]
  rw [if_neg sumFits]
  simp only [toNat_pageAlignUp sizeAligned, toNat_pageAlignUp baseAligned]
  rw [if_neg positive]
  simp only [Bool.and_eq_true, decide_eq_true_iff]
  rw [← firstPage, ← stopPage, ← mappedBetween]
  split
  · rfl
  · simp only [sweep?]
    split <;> rfl

theorem findFreeArea_of_overflow (space : AddressSpace)
    (improper : size = 0 ∨ SearchOverflows regionBase regionSize size) :
    space.findFreeArea regionBase regionSize size = .notFound := by
  unfold findFreeArea
  split
  · rename_i rounded base sizeAligned baseAligned
    split
    · rfl
    · rename_i sumFits
      have sizeFits := mt (pageAlignUp?_eq_none_iff size).mpr (by simp [sizeAligned])
      have baseFits := mt (pageAlignUp?_eq_none_iff regionBase).mpr (by simp [baseAligned])
      have empty : size = 0 := by
        rcases improper with empty | large | large | large
        · exact empty
        · exact absurd large sizeFits
        · exact absurd large baseFits
        · exact absurd large sumFits
      have none : rounded.toNat / pageSize = 0 := by
        rw [toNat_pageAlignUp sizeAligned, empty]
        rfl
      simp only [none, if_true]
  · rfl

theorem firstPage_le_iff (regionBase : Address) (start : Nat) :
    firstPage regionBase ≤ start ↔ regionBase.toNat ≤ start * pageSize := by
  have page : pageSize = 4096 := rfl
  rw [firstPage, wholePages, page]
  omega

/-- A place in memory is a page with a gap. -/
theorem freeAt_iff (nonempty : size ≠ 0) (start : Address) :
    space.FreeAt regionBase regionSize size start ↔
      start.toNat = start.toNat / pageSize * pageSize ∧
        space.PageFreeAt regionBase regionSize size (start.toNat / pageSize) := by
  have page : pageSize = 4096 := rfl
  have positive := div_pos_of_wholePages nonempty
  have extent := wholePages_div_mul size.toNat
  rw [PageFreeAt, firstPage_le_iff]
  generalize wholePages size.toNat / pageSize = needed at positive extent
  constructor
  · intro fits
    have aligned : start.toNat % pageSize = 0 := of_decide_eq_true fits.aligned
    have whole : start.toNat / pageSize * pageSize = start.toNat :=
      Nat.div_mul_cancel (Nat.dvd_of_mod_eq_zero aligned)
    refine ⟨whole.symm, whole.symm ▸ fits.member.1, ?_, fun other mapped => ?_⟩
    · rw [stopPage, Nat.le_div_iff_mul_le pageSize_pos, Nat.add_mul, whole, extent]
      exact fits.room
    · rw [mem_mappedBetween] at mapped
      by_contra within
      have unmapped := fits.free (other * pageSize) (by rw [page] at *; omega)
        (by rw [page] at *; omega)
      rw [Nat.mul_div_cancel other pageSize_pos] at unmapped
      rw [unmapped] at mapped
      cases mapped.1
  · rintro ⟨whole, lower, room, free⟩
    rw [stopPage, Nat.le_div_iff_mul_le pageSize_pos, Nat.add_mul, ← whole, extent] at room
    rw [← whole] at lower
    refine ⟨decide_eq_true ?_, ⟨lower, ?_⟩, room, fun addr above below => ?_⟩
    · rw [page] at *
      omega
    · rw [page] at *
      omega
    · by_contra mapped
      have listed : addr / pageSize ∈
          space.mappedBetween (firstPage regionBase) (stopPage regionBase regionSize) := by
        rw [mem_mappedBetween, firstPage_le_iff, stopPage, Nat.lt_iff_add_one_le,
          Nat.le_div_iff_mul_le pageSize_pos]
        refine ⟨Option.isSome_iff_ne_none.mpr mapped, ?_, ?_⟩
        · rw [page] at *
          omega
        · rw [page] at *
          omega
      have := free _ listed
      rw [page] at *
      omega

theorem FreeAt.page (fits : space.FreeAt regionBase regionSize size start) (nonempty : size ≠ 0) :
    space.PageFreeAt regionBase regionSize size (start.toNat / pageSize) :=
  ((freeAt_iff nonempty start).mp fits).2

/-- The region ends within 64 bits, and so do the places in it. -/
theorem PageFreeAt.toNat_pageAddress {page : Nat}
    (fits : space.PageFreeAt regionBase regionSize size page)
    (inside : regionBase.toNat + regionSize.toNat < 2 ^ 64) :
    (pageAddress page).toNat = page * pageSize := by
  have small : page ≤ stopPage regionBase regionSize :=
    Nat.le_trans (Nat.le_add_right _ _) fits.2.room
  rw [stopPage, Nat.le_div_iff_mul_le pageSize_pos] at small
  exact UInt64.toNat_ofNat_of_lt' (Nat.lt_of_le_of_lt small inside)

theorem PageFreeAt.freeAt {page : Nat} (fits : space.PageFreeAt regionBase regionSize size page)
    (nonempty : size ≠ 0) (inside : regionBase.toNat + regionSize.toNat < 2 ^ 64) :
    space.FreeAt regionBase regionSize size (pageAddress page) := by
  rw [freeAt_iff nonempty, fits.toNat_pageAddress inside, Nat.mul_div_cancel page pageSize_pos]
  exact ⟨rfl, fits⟩

theorem isLeast_freeAt_iff (nonempty : size ≠ 0)
    (inside : regionBase.toNat + regionSize.toNat < 2 ^ 64) :
    IsLeast { start | space.FreeAt regionBase regionSize size start } start ↔
      ∃ page, IsLeast { page | space.PageFreeAt regionBase regionSize size page } page ∧
        pageAddress page = start := by
  constructor
  · rintro ⟨fits, lowest⟩
    refine ⟨start.toNat / pageSize, ⟨fits.page nonempty, fun other member => ?_⟩, ?_⟩
    · have below := UInt64.le_iff_toNat_le.mp (lowest (member.freeAt nonempty inside))
      rw [member.toNat_pageAddress inside] at below
      exact Nat.div_le_of_le_mul (Nat.mul_comm other pageSize ▸ below)
    · apply UInt64.toNat.inj
      rw [(fits.page nonempty).toNat_pageAddress inside]
      exact ((freeAt_iff nonempty start).mp fits).1.symm
  · rintro ⟨page, ⟨fits, lowest⟩, rfl⟩
    refine ⟨fits.freeAt nonempty inside, fun other member => ?_⟩
    rw [UInt64.le_iff_toNat_le, fits.toNat_pageAddress inside,
      ((freeAt_iff nonempty other).mp member).1]
    exact Nat.mul_le_mul_right pageSize (lowest (member.page nonempty))

theorem sweep?_mappedBetween (nonempty : size ≠ 0) (page : Nat) :
    sweep? (wholePages size.toNat / pageSize) (stopPage regionBase regionSize)
        (firstPage regionBase)
        (space.mappedBetween (firstPage regionBase) (stopPage regionBase regionSize)) = some page ↔
      IsLeast { page | space.PageFreeAt regionBase regionSize size page } page :=
  sweep?_eq_some_iff (div_pos_of_wholePages nonempty) (space.keys_ascending.filter _)
    (fun _ member => (mem_mappedBetween.mp member).2) page

theorem findFreeArea_eq_found_iff
    (proper : ¬ (size = 0 ∨ SearchOverflows regionBase regionSize size)) (start : Address) :
    space.findFreeArea regionBase regionSize size = .found start ↔
      IsLeast { start | space.FreeAt regionBase regionSize size start } start := by
  have nonempty : size ≠ 0 := fun empty => proper (.inl empty)
  have inside : regionBase.toNat + regionSize.toNat < 2 ^ 64 :=
    Nat.lt_of_not_le fun large => proper (.inr (.inr (.inr large)))
  rw [findFreeArea_eq space proper, isLeast_freeAt_iff nonempty inside]
  simp only [← sweep?_mappedBetween nonempty]
  split
  · rename_i inverted
    refine iff_of_false (by simp) ?_
    rintro ⟨page, found, -⟩
    have fits := ((sweep?_mappedBetween nonempty page).mp found).1
    have small := Nat.le_trans (Nat.le_add_right page _) fits.2.room
    have lower := fits.1
    omega
  · cases sweep? (wholePages size.toNat / pageSize) (stopPage regionBase regionSize)
      (firstPage regionBase)
      (space.mappedBetween (firstPage regionBase) (stopPage regionBase regionSize)) <;> simp

/-- Where some place is free, the search comes to one. -/
theorem exists_found (proper : ¬ (size = 0 ∨ SearchOverflows regionBase regionSize size))
    (fits : space.FreeAt regionBase regionSize size start) :
    ∃ start, space.findFreeArea regionBase regionSize size = .found start := by
  classical
  have nonempty : size ≠ 0 := fun empty => proper (.inl empty)
  have inside : regionBase.toNat + regionSize.toNat < 2 ^ 64 :=
    Nat.lt_of_not_le fun large => proper (.inr (.inr (.inr large)))
  have lowest := Nat.isLeast_find ⟨_, fits.page nonempty⟩
  exact ⟨_, (findFreeArea_eq_found_iff proper _).mpr
    ((isLeast_freeAt_iff nonempty inside).mpr ⟨_, lowest, rfl⟩)⟩

theorem findFreeArea_lowest
    (found : space.findFreeArea regionBase regionSize size = .found start) :
    IsLeast { start | space.FreeAt regionBase regionSize size start } start := by
  by_cases proper : size = 0 ∨ SearchOverflows regionBase regionSize size
  · rw [findFreeArea_of_overflow space proper] at found
    cases found
  · exact (findFreeArea_eq_found_iff proper start).mp found

/-- The question always has an answer where the region is not inverted. -/
theorem findFreeArea_searched (space : AddressSpace) (size : UInt64)
    (ordered : wholePages regionBase.toNat ≤
      (regionBase.toNat + regionSize.toNat) / pageSize * pageSize) :
    space.Searched regionBase regionSize size (space.findFreeArea regionBase regionSize size) where
  refused := findFreeArea_of_overflow space
  found_iff proper :=
    ⟨fun ⟨start, found⟩ => ⟨start, (findFreeArea_lowest found).1⟩,
      fun ⟨_, fits⟩ => exists_found proper fits⟩
  lowest _ found := findFreeArea_lowest found
  otherwise missed := by
    by_cases proper : size = 0 ∨ SearchOverflows regionBase regionSize size
    · exact findFreeArea_of_overflow space proper
    · have upright : ¬ (stopPage regionBase regionSize < firstPage regionBase ∧
          space.everMapped) := by
        intro inverted
        refine Nat.not_le_of_gt inverted.1 ?_
        exact (firstPage_le_iff regionBase _).mpr (by
          have page : pageSize = 4096 := rfl
          rw [wholePages, page] at ordered
          rw [stopPage, page]
          omega)
      rw [findFreeArea_eq space proper, if_neg upright] at missed ⊢
      revert missed
      cases sweep? (wholePages size.toNat / pageSize) (stopPage regionBase regionSize)
        (firstPage regionBase)
        (space.mappedBetween (firstPage regionBase) (stopPage regionBase regionSize)) with
      | none => exact fun _ => rfl
      | some page => exact fun missed => absurd rfl (missed _)

/-- One page of the region is free in between, which is not enough. Both ends of
    the region are inside a page. -/
theorem findFreeArea_searched_behindTheHole :
    let calls : List MemoryCall :=
      [.map 0x10000 0x1000 PageFlags.rw, .map 0x12000 0x1000 PageFlags.r]
    let space := (AddressSpace.interface.performAll AddressSpace.empty calls).2
    space.findFreeArea 0xF801 0x5FFF 0x1001 = .found 0x13000 ∧
      space.Searched 0xF801 0x5FFF 0x1001 (.found 0x13000) := by
  intro calls space
  have found : space.findFreeArea 0xF801 0x5FFF 0x1001 = .found 0x13000 := by decide +kernel
  refine ⟨found, ?_⟩
  rw [← found]
  exact findFreeArea_searched space 0x1001 (by decide)

end GuestMachine.AddressSpace
