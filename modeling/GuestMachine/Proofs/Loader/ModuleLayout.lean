import Mathlib.Data.List.Pairwise
import GuestMachine.Loader.Module
import GuestMachine.Proofs.Memory.ByteRange

/-! # Layout of a module

What the checks of a module establish: nothing in it overflows 64 bits, however
its sizes are added up and rounded, and no page belongs to two of its parts.
-/

namespace GuestMachine

open Layout

namespace Segment

/-- The segment has a byte for the offset `o`. -/
def Holds (segment : Segment) (o : Nat) : Prop :=
  segment.offset.toNat ≤ o ∧ o < segment.offset.toNat + segment.bytes.length

/-- Some byte of the segment is on this page, counted from the load base. -/
def OnPage (segment : Segment) (page : Nat) : Prop :=
  ∃ o, segment.Holds o ∧ o / pageSize = page

end Segment

namespace ModuleImage

def segment (image : ModuleImage) : SegmentKind → Segment
  | .text => image.text
  | .rodata => image.rodata
  | .data => image.data

/-- Where the pages of a part begin. -/
def start (image : ModuleImage) (kind : SegmentKind) : UInt64 :=
  (image.segment kind).offset

/-- One past the last byte of a part, zeros included. -/
def finish (image : ModuleImage) : SegmentKind → UInt64
  | .text => image.text.finish
  | .rodata => image.rodata.finish
  | .data => image.bssFinish

/-- The zero bytes behind the data. -/
def bss (image : ModuleImage) : Segment :=
  { offset := image.data.finish, bytes := List.replicate image.bssSize.toNat 0 }

/-- Everything that is copied. -/
def parts (image : ModuleImage) : List (SegmentKind × Segment) :=
  image.segments ++ [(.data, image.bss)]

theorem isEmpty_bss (image : ModuleImage) : image.bss.isEmpty = (image.bssSize == 0) := by
  rw [Segment.isEmpty, bss, List.isEmpty_replicate, Bool.eq_iff_iff]
  simp [← UInt64.toNat_inj]

theorem mem_segments_iff {image : ModuleImage} {part : SegmentKind × Segment} :
    part ∈ image.segments ↔ part.2 = image.segment part.1 := by
  obtain ⟨kind, segment⟩ := part
  cases kind <;> simp [segments, ModuleImage.segment]

theorem segment_mem_parts (image : ModuleImage) (kind : SegmentKind) :
    (kind, image.segment kind) ∈ image.parts :=
  List.mem_append_left _ (mem_segments_iff.mpr rfl)

theorem mem_regions_iff {image : ModuleImage} {region : ModuleRegion} :
    region ∈ image.regions ↔ image.start region.kind < image.finish region.kind ∧
      region.start = image.start region.kind ∧
      region.finish = roundedUp (image.finish region.kind) := by
  have byKind : image.regions = [SegmentKind.text, .rodata, .data].filterMap fun kind =>
      regionOf kind (image.start kind) (image.finish kind) := rfl
  have kinds (kind : SegmentKind) : kind ∈ [SegmentKind.text, .rodata, .data] := by
    cases kind <;> simp
  rw [byKind, List.mem_filterMap]
  constructor
  · rintro ⟨kind, _, found⟩
    rw [regionOf] at found
    split at found
    · rename_i nonempty
      rw [← Option.some.inj found]
      simpa only [and_true] using nonempty
    · cases found
  · obtain ⟨kind, first, last⟩ := region
    rintro ⟨nonempty, start, finish⟩
    dsimp only at nonempty start finish
    refine ⟨kind, kinds kind, ?_⟩
    rw [start, finish]
    exact if_pos nonempty

theorem toNat_roundedUp {size : UInt64} (fits : size.toNat + (pageSize - 1) < 2 ^ 64) :
    (roundedUp size).toNat = (size.toNat + (pageSize - 1)) / pageSize * pageSize := by
  rw [roundedUp, pageAlignUp?, if_pos fits]
  exact UInt64.toNat_ofNat_of_lt' (Nat.lt_of_le_of_lt (Nat.div_mul_le_self _ _) fits)

/-- If no two neighbours overlap, no two regions do. -/
theorem pairwise_of_overlap? {regions : List ModuleRegion}
    (proper : ∀ region ∈ regions, region.start ≤ region.finish)
    (apart : overlap? regions = none) :
    regions.Pairwise fun first second => first.finish ≤ second.start := by
  induction regions with
  | nil => exact .nil
  | cons first rest ih =>
      cases rest with
      | nil => exact List.pairwise_singleton _ _
      | cons second rest =>
          rw [overlap?] at apart
          split at apart
          · cases apart
          · rename_i before
            have ordered := ih (fun region member => proper region (.tail _ member)) apart
            refine .cons (fun region member => ?_) ordered
            have next : first.finish ≤ second.start := UInt64.not_lt.mp before
            cases member with
            | head => exact next
            | tail _ later =>
                have beyond := List.rel_of_pairwise_cons ordered later
                exact UInt64.le_trans next
                  (UInt64.le_trans (proper second (.tail _ (.head _))) beyond)

/-- A module that may be loaded. -/
structure Sound (image : ModuleImage) : Prop where
  aligned : ∀ kind, (image.start kind).toNat % pageSize = 0
  length : ∀ kind, (image.segment kind).finish.toNat =
    (image.segment kind).offset.toNat + (image.segment kind).bytes.length
  zeros : image.bssFinish.toNat = image.data.finish.toNat + image.bssSize.toNat
  fits : ∀ kind, (image.finish kind).toNat + (pageSize - 1) < 2 ^ 64
  ordered : image.regions.Pairwise fun first second => first.finish ≤ second.start
  enters : image.text.Holds image.entryOffset.toNat
  instruction : image.entryOffset.toNat % 4 = 0

/-- The segment ends, rounded up, within 64 bits. -/
theorem fits_iff {segment : Segment} (sized : segment.bytes.length < 2 ^ 64) :
    fits segment ↔
      segment.finish.toNat = segment.offset.toNat + segment.bytes.length ∧
        segment.finish.toNat + (pageSize - 1) < 2 ^ 64 := by
  have page : pageSize - 1 = 4095 := rfl
  have length : segment.length.toNat = segment.bytes.length := UInt64.toNat_ofNat_of_lt' sized
  have finish : segment.finish.toNat =
      min (segment.offset.toNat + segment.bytes.length) (2 ^ 64 - 1) := by
    rw [Segment.finish, toNat_saturatingAdd, length]
  rw [fits, Segment.finish?, length]
  split
  · rename_i small
    have sum : (segment.offset + segment.length).toNat =
        segment.offset.toNat + segment.bytes.length := by
      rw [UInt64.toNat_add, length, Nat.mod_eq_of_lt small]
    simp only [Option.bind_some, pageAlignUp?, sum, finish, page]
    split
    · simp
      omega
    · simp
      omega
  · rw [finish, page]
    simp
    omega

/-- So do the zero bytes. -/
theorem bssFits_iff {image : ModuleImage} :
    image.bssFits ↔
      image.bssFinish.toNat = image.data.finish.toNat + image.bssSize.toNat ∧
        image.bssFinish.toNat + (pageSize - 1) < 2 ^ 64 := by
  have page : pageSize - 1 = 4095 := rfl
  have finish : image.bssFinish.toNat =
      min (image.data.finish.toNat + image.bssSize.toNat) (2 ^ 64 - 1) :=
    toNat_saturatingAdd _ _
  rw [bssFits, finish, page]
  by_cases small : image.data.finish.toNat + image.bssSize.toNat < 2 ^ 64
  · have sum : (image.data.finish + image.bssSize).toNat =
        image.data.finish.toNat + image.bssSize.toNat := by
      rw [UInt64.toNat_add, Nat.mod_eq_of_lt small]
    simp only [pageAlignUp?, sum, page, small]
    split
    · simp
      omega
    · simp
      omega
  · simp [small]
    omega

theorem start_le_roundedUp {image : ModuleImage} {kind : SegmentKind}
    (fits : (image.finish kind).toNat + (pageSize - 1) < 2 ^ 64)
    (nonempty : image.start kind < image.finish kind) :
    image.start kind ≤ roundedUp (image.finish kind) := by
  have page : pageSize = 4096 := rfl
  rw [UInt64.lt_iff_toNat_lt] at nonempty
  rw [UInt64.le_iff_toNat_le, toNat_roundedUp fits, page]
  omega

theorem sound_of_validate {image : ModuleImage}
    (sized : ∀ kind, (image.segment kind).bytes.length < 2 ^ 64)
    (valid : image.validate = .ok ()) : image.Sound := by
  rw [validate] at valid
  split at valid
  · cases valid
  rename_i clean
  rw [defect?] at clean
  split at clean
  · cases clean
  split at clean
  · cases clean
  rename_i aligned
  split at clean
  · cases clean
  rename_i fitting
  split at clean
  · cases clean
  rename_i bssFits
  split at clean
  · cases clean
  rename_i apart
  split at clean
  rotate_left
  · cases clean
  rename_i enters
  have member (kind : SegmentKind) : (kind, image.segment kind) ∈ image.segments :=
    mem_segments_iff.mpr rfl
  have fitting (kind : SegmentKind) : (image.segment kind).finish.toNat =
      (image.segment kind).offset.toNat + (image.segment kind).bytes.length ∧
        (image.segment kind).finish.toNat + (pageSize - 1) < 2 ^ 64 := by
    apply (fits_iff (sized kind)).mp
    simpa using List.find?_eq_none.mp fitting _ (member kind)
  have zeros := bssFits_iff.mp (by simpa using bssFits)
  have fits (kind : SegmentKind) : (image.finish kind).toNat + (pageSize - 1) < 2 ^ 64 := by
    cases kind with
    | text => exact (fitting .text).2
    | rodata => exact (fitting .rodata).2
    | data => exact zeros.2
  simp only [entersText, Bool.and_eq_true, decide_eq_true_eq, beq_iff_eq, UInt64.le_iff_toNat_le,
    UInt64.lt_iff_toNat_lt] at enters
  obtain ⟨⟨lower, upper⟩, divides⟩ := enters
  have text : image.text.finish.toNat = _ := (fitting .text).1
  constructor
  · intro kind
    simp only [List.any_eq_true, not_exists, not_and] at aligned
    simpa [isPageAligned, start] using aligned _ (member kind)
  · exact fun kind => (fitting kind).1
  · exact zeros.1
  · exact fits
  · refine pairwise_of_overlap? (fun region member => ?_) apart
    obtain ⟨nonempty, start, finish⟩ := mem_regions_iff.mp member
    rw [start, finish]
    exact start_le_roundedUp (fits region.kind) nonempty
  · rw [text] at upper
    exact ⟨lower, upper⟩
  · simpa using congrArg UInt64.toNat divides

/-- The offset lies on a page of this part. -/
structure InRegion (image : ModuleImage) (kind : SegmentKind) (o : Nat) : Prop where
  nonempty : image.start kind < image.finish kind
  lower : (image.start kind).toNat ≤ o
  upper : o < (roundedUp (image.finish kind)).toNat

namespace Sound

variable {image : ModuleImage} {kind kind' : SegmentKind} {o : Nat}

theorem inRegion_iff (sound : image.Sound) : image.InRegion kind o ↔
    image.start kind < image.finish kind ∧ (image.start kind).toNat / pageSize ≤ o / pageSize ∧
      o / pageSize < ((image.finish kind).toNat + (pageSize - 1)) / pageSize := by
  have page : pageSize = 4096 := rfl
  have aligned := sound.aligned kind
  have rounded := toNat_roundedUp (sound.fits kind)
  rw [page] at aligned rounded ⊢
  constructor
  · intro here
    obtain ⟨nonempty, lower, upper⟩ := here
    exact ⟨nonempty, by omega, by omega⟩
  · rintro ⟨nonempty, lower, upper⟩
    exact ⟨nonempty, by omega, by omega⟩

/-- No page belongs to two parts. -/
theorem kind_unique (sound : image.Sound) (here : image.InRegion kind o)
    (here' : image.InRegion kind' o) : kind = kind' := by
  by_contra different
  let region (kind : SegmentKind) : ModuleRegion :=
    ⟨kind, image.start kind, roundedUp (image.finish kind)⟩
  have member {kind : SegmentKind} (nonempty : image.start kind < image.finish kind) :
      region kind ∈ image.regions :=
    mem_regions_iff.mpr (by simpa only [region, and_true] using nonempty)
  have apart : image.regions.Pairwise fun first second =>
      first.finish ≤ second.start ∨ second.finish ≤ first.start := sound.ordered.imp .inl
  have symmetric : Std.Symm fun first second : ModuleRegion =>
      first.finish ≤ second.start ∨ second.finish ≤ first.start := ⟨fun _ _ => Or.symm⟩
  have beyond := apart.forall (member here.nonempty) (member here'.nonempty) fun same =>
    different (congrArg ModuleRegion.kind same)
  obtain ⟨_, lower, upper⟩ := here
  obtain ⟨_, lower', upper'⟩ := here'
  simp only [region, UInt64.le_iff_toNat_le] at beyond
  omega

theorem inRegion_of_lt (sound : image.Sound) (lower : (image.start kind).toNat ≤ o)
    (upper : o < (image.finish kind).toNat) : image.InRegion kind o := by
  have page : pageSize = 4096 := rfl
  have rounded := toNat_roundedUp (sound.fits kind)
  rw [page] at rounded
  refine ⟨?_, lower, by omega⟩
  rw [UInt64.lt_iff_toNat_lt]
  exact Nat.lt_of_le_of_lt lower upper

theorem finish_of_not_data (sound : image.Sound) (loaded : kind ≠ .data) :
    (image.finish kind).toNat =
      (image.segment kind).offset.toNat + (image.segment kind).bytes.length := by
  rw [← sound.length]
  cases kind with
  | text | rodata => rfl
  | data => contradiction

/-- The zero bytes begin where the data end. -/
theorem finish_data (sound : image.Sound) :
    image.data.finish.toNat = image.data.offset.toNat + image.data.bytes.length ∧
      (image.finish .data).toNat = image.data.finish.toNat + image.bssSize.toNat :=
  ⟨sound.length .data, sound.zeros⟩

theorem lt_finish_of_holds (sound : image.Sound) {part : SegmentKind × Segment}
    (member : part ∈ image.parts) (held : part.2.Holds o) :
    (image.start part.1).toNat ≤ o ∧ o < (image.finish part.1).toNat := by
  obtain ⟨data, finish⟩ := sound.finish_data
  obtain ⟨lower, upper⟩ := held
  rcases List.mem_append.mp member with copied | zeros
  · rw [mem_segments_iff] at copied
    rw [copied] at lower upper
    refine ⟨lower, ?_⟩
    by_cases last : part.1 = .data
    · rw [last] at upper ⊢
      change o < image.data.offset.toNat + image.data.bytes.length at upper
      omega
    · rwa [sound.finish_of_not_data last]
  · cases List.mem_singleton.mp zeros
    simp only [bss, List.length_replicate] at lower upper
    refine ⟨?_, finish ▸ upper⟩
    change image.data.offset.toNat ≤ o
    omega

theorem part_inRegion (sound : image.Sound) {part : SegmentKind × Segment}
    (member : part ∈ image.parts) (held : part.2.Holds o) : image.InRegion part.1 o :=
  let ⟨lower, upper⟩ := sound.lt_finish_of_holds member held
  sound.inRegion_of_lt lower upper

/-- Nothing is copied to the same place twice. -/
theorem parts_apart (sound : image.Sound) :
    image.parts.Pairwise fun first second => ∀ o, first.2.Holds o → ¬ second.2.Holds o := by
  have byKind {first second : SegmentKind × Segment} (member : first ∈ image.parts)
      (member' : second ∈ image.parts) (different : first.1 ≠ second.1) (o : Nat)
      (held : first.2.Holds o) : ¬ second.2.Holds o := fun held' =>
    different (sound.kind_unique (sound.part_inRegion member held) (sound.part_inRegion member' held'))
  have zeros (o : Nat) (held : image.data.Holds o) : ¬ image.bss.Holds o := by
    have data := sound.finish_data.1
    rintro ⟨lower, _⟩
    change image.data.finish.toNat ≤ o at lower
    have upper := held.2
    omega
  have text := image.segment_mem_parts .text
  have rodata := image.segment_mem_parts .rodata
  have data := image.segment_mem_parts .data
  have bss : (.data, image.bss) ∈ image.parts := by simp [parts]
  simp only [parts, segments, List.cons_append, List.nil_append, List.pairwise_cons,
    List.forall_mem_cons]
  refine ⟨⟨byKind text rodata nofun, byKind text data nofun, byKind text bss nofun, nofun⟩,
    ⟨byKind rodata data nofun, byKind rodata bss nofun, nofun⟩, ⟨zeros, nofun⟩, nofun, .nil⟩

/-- The pages of text, and of rodata, are those that hold a byte of it. -/
theorem onPage_iff (sound : image.Sound) (loaded : kind ≠ .data) :
    (image.segment kind).OnPage (o / pageSize) ↔ image.InRegion kind o := by
  have page : pageSize = 4096 := rfl
  have finish := sound.finish_of_not_data loaded
  have aligned := sound.aligned kind
  constructor
  · rintro ⟨k, ⟨lower, upper⟩, same⟩
    rw [sound.inRegion_iff, ← same, ← sound.inRegion_iff]
    exact sound.inRegion_of_lt lower (finish ▸ upper)
  · intro inside
    obtain ⟨nonempty, lower, upper⟩ := inside
    have rounded := toNat_roundedUp (sound.fits kind)
    have start : (image.segment kind).offset.toNat = (image.start kind).toNat := rfl
    rw [UInt64.lt_iff_toNat_lt] at nonempty
    rw [page] at aligned rounded ⊢
    refine ⟨o / 4096 * 4096, ⟨?_, ?_⟩, ?_⟩
    · omega
    · omega
    · rw [page]
      omega

theorem roundedUp_le_imageSize (sound : image.Sound) (kind : SegmentKind) :
    (roundedUp (image.finish kind)).toNat ≤ image.imageSize.toNat := by
  have page : pageSize = 4096 := rfl
  have toNat_max (a b : UInt64) : (max a b).toNat = max a.toNat b.toNat := by
    change (if a ≤ b then b else a).toNat = _
    split <;> rename_i order <;> rw [UInt64.le_iff_toNat_le] at order <;> omega
  have whole : (max (max image.text.finish image.rodata.finish) image.bssFinish).toNat =
      max (max (image.finish .text).toNat (image.finish .rodata).toNat)
        (image.finish .data).toNat := by
    rw [toNat_max, toNat_max]
    rfl
  have text := sound.fits .text
  have rodata := sound.fits .rodata
  have data := sound.fits .data
  rw [imageSize, toNat_roundedUp (sound.fits kind), toNat_roundedUp (by rw [whole]; omega), whole,
    page]
  cases kind <;> omega

end Sound

end ModuleImage

end GuestMachine
