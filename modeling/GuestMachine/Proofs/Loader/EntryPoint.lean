import GuestMachine.Proofs.Kernel.ThreadLocals
import GuestMachine.Proofs.Loader.Installation

/-! # The entry point of a loaded module

A module that loads has an entry point that can be executed, whatever was in
memory before and wherever it was loaded: protecting a region gives its pages
their permissions or fails, and the regions behind it have other pages.
-/

namespace GuestMachine

open Layout

namespace AddressSpace

variable {space after : AddressSpace} {addr : Address} {size : UInt64} {flags : PageFlags}

/-- Of a size in whole pages, the range is protected to its last byte. -/
theorem flags?_of_protect_whole (protects : space.protect addr size flags = .ok after)
    (whole : size.toNat % pageSize = 0) :
    addr.toNat + size.toNat ≤ addressSpaceSize ∧ ∀ i, after.flags? (i / pageSize) =
      if addr.toNat ≤ i ∧ i < addr.toNat + size.toNat then some flags
      else space.flags? (i / pageSize) := by
  have page : pageSize = 4096 := rfl
  obtain ⟨span, request, changed⟩ := protect_eq_ok protects
  obtain ⟨first, count⟩ := PageSpan.eq_of_ofRequest request
  have aligned := PageSpan.aligned_of_ofRequest request
  have inside := span.inside
  rw [first, count, page] at inside
  rw [page] at whole aligned
  refine ⟨by omega, fun i => ?_⟩
  simp only [changed, PageSpan.Contains, first, count, page]
  refine if_congr ?_ rfl rfl
  omega

end AddressSpace

/-- The offset lies in the region. -/
def ModuleRegion.Covers (region : ModuleRegion) (o : UInt64) : Prop :=
  region.start ≤ o ∧ o < region.finish

/-- The region consists of whole pages. -/
structure ModuleRegion.Whole (region : ModuleRegion) : Prop where
  start : region.start.toNat % pageSize = 0
  finish : region.finish.toNat % pageSize = 0
  ordered : region.start ≤ region.finish

instance (region : ModuleRegion) (o : UInt64) : Decidable (region.Covers o) :=
  inferInstanceAs (Decidable (_ ∧ _))

/-- Offsets count modulo the size of a word, but no region goes over the end of memory. -/
theorem ModuleRegion.Whole.flags?_of_protect {region : ModuleRegion} (whole : region.Whole)
    {space after : AddressSpace} {base : Address}
    (protects : space.protect (base + region.start) (region.finish - region.start)
      region.kind.flags = .ok after) (o : UInt64) :
    after.flags? ((base + o).toNat / pageSize) =
      if region.Covers o then some region.kind.flags
      else space.flags? ((base + o).toNat / pageSize) := by
  have page : pageSize = 4096 := rfl
  have top : addressSpaceSize = 2 ^ 39 := rfl
  obtain ⟨start, finish, ordered⟩ := whole
  rw [page] at start finish
  have size := UInt64.toNat_sub_of_le _ _ ordered
  rw [UInt64.le_iff_toNat_le] at ordered
  obtain ⟨inside, flags⟩ := AddressSpace.flags?_of_protect_whole protects (by rw [size, page]; omega)
  rw [flags]
  refine if_congr ?_ rfl rfl
  rw [ModuleRegion.Covers, UInt64.le_iff_toNat_le, UInt64.lt_iff_toNat_lt]
  rw [size, UInt64.toNat_add, top] at inside
  rw [size, UInt64.toNat_add, UInt64.toNat_add]
  have := region.finish.toNat_lt
  have := o.toNat_lt
  have := base.toNat_lt
  omega

namespace Handoff

open HandoffM

variable {handoff after : Handoff} {base : Address} {regions : List ModuleRegion} {o : UInt64}

theorem protectRegions_cons_eq_ok {region : ModuleRegion} {rest : List ModuleRegion}
    (protects : protectRegions base (region :: rest) handoff = .ok () after) :
    ∃ memory, handoff.machine.board.memory.protect (base + region.start)
        (region.finish - region.start) region.kind.flags = .ok memory ∧
      protectRegions base rest (handoff.withMemory memory) = .ok () after := by
  obtain ⟨_, middle, first, rests⟩ := Operation.bind_eq_ok protects
  rw [HandoffM.protect_eq] at first
  split at first
  · rename_i memory guarded
    cases first
    exact ⟨memory, guarded, rests⟩
  · cases first

/-- Pages of no region keep their permissions. -/
theorem flags?_of_protectRegions_of_not_covers (whole : ∀ region ∈ regions, region.Whole)
    (protects : protectRegions base regions handoff = .ok () after)
    (uncovered : ∀ region ∈ regions, ¬ region.Covers o) :
    after.machine.board.memory.flags? ((base + o).toNat / pageSize) =
      handoff.machine.board.memory.flags? ((base + o).toNat / pageSize) := by
  induction regions generalizing handoff with
  | nil =>
      cases protects
      rfl
  | cons region rest ih =>
      obtain ⟨here, whole⟩ := List.forall_mem_cons.mp whole
      obtain ⟨away, uncovered⟩ := List.forall_mem_cons.mp uncovered
      obtain ⟨memory, first, rests⟩ := protectRegions_cons_eq_ok protects
      rw [ih whole rests uncovered]
      exact (here.flags?_of_protect first o).trans (if_neg away)

theorem flags?_of_protectRegions (whole : ∀ region ∈ regions, region.Whole)
    (ordered : regions.Pairwise fun first second => first.finish ≤ second.start)
    (protects : protectRegions base regions handoff = .ok () after) {region : ModuleRegion}
    (member : region ∈ regions) (covers : region.Covers o) :
    after.machine.board.memory.flags? ((base + o).toNat / pageSize) = some region.kind.flags := by
  induction regions generalizing handoff with
  | nil => cases member
  | cons first rest ih =>
      obtain ⟨here, others⟩ := List.forall_mem_cons.mp whole
      obtain ⟨apart, ordered⟩ := List.pairwise_cons.mp ordered
      obtain ⟨memory, guarded, rests⟩ := protectRegions_cons_eq_ok protects
      cases member with
      | tail _ member => exact ih others ordered rests member
      | head =>
          rw [flags?_of_protectRegions_of_not_covers others rests]
          · exact (here.flags?_of_protect guarded o).trans (if_pos covers)
          · intro other member covers'
            have behind := UInt64.le_iff_toNat_le.mp (apart other member)
            have upper := UInt64.lt_iff_toNat_lt.mp covers.2
            have lower := UInt64.le_iff_toNat_le.mp covers'.1
            omega

/-- Nothing is copied that does not fit in memory. -/
theorem length_le_of_copySegments {parts : List (SegmentKind × Segment)}
    (copies : copySegments base parts handoff = .ok () after) {part : SegmentKind × Segment}
    (member : part ∈ parts) : part.2.bytes.length ≤ addressSpaceSize := by
  induction parts generalizing handoff with
  | nil => cases member
  | cons first rest ih =>
      rw [copySegments] at copies
      split at copies
      · obtain ⟨_, middle, wrote, rests⟩ := Operation.bind_eq_ok copies
        cases member with
        | tail _ member => exact ih rests member
        | head =>
            obtain ⟨allowed, _⟩ | ⟨_, refused⟩ := handoff.machine.board.memory.writeBlock_cases
              (base + part.2.offset) part.2.bytes
            · exact Nat.le_trans (Nat.le_add_left _ _) allowed.1
            · rw [writeBlock_eq, refused] at wrote
              cases wrote
      · rename_i empty
        cases member with
        | tail _ member => exact ih copies member
        | head =>
            have none : part.2.bytes = [] := by simpa [Segment.isEmpty] using empty
            rw [none]
            exact Nat.zero_le _

theorem whole_of_mem_regions {image : ModuleImage} (sound : image.Sound) {region : ModuleRegion}
    (member : region ∈ image.regions) : region.Whole := by
  obtain ⟨nonempty, start, finish⟩ := ModuleImage.mem_regions_iff.mp member
  constructor
  · rw [start]
    exact sound.aligned region.kind
  · rw [finish, ModuleImage.toNat_roundedUp (sound.fits region.kind)]
    exact Nat.mul_mod_left _ _
  · rw [start, finish]
    exact ModuleImage.start_le_roundedUp (sound.fits region.kind) nonempty

/-- A module that was loaded has passed its checks, and is entered in its code. -/
theorem loadModule_entry {image : ModuleImage} {before loaded : Handoff}
    (loads : loadModule image base before = .ok () loaded) :
    loaded.loader.entry = some (base + image.entryOffset) ∧
      loaded.machine.board.memory.pageFlags? (base + image.entryOffset) = some PageFlags.rx := by
  rw [loadModule_eq] at loads
  obtain ⟨process, middle, required, loads⟩ := Operation.bind_eq_ok loads
  obtain ⟨_, checked, validated, loads⟩ := Operation.bind_eq_ok loads
  have valid : image.validate = .ok () := by
    cases result : image.validate with
    | ok => rfl
    | error e =>
        rw [result] at validated
        cases validated
  split at loads
  · cases loads
  · split at loads
    · cases loads
    · obtain ⟨_, copied, copies, loads⟩ := Operation.bind_eq_ok loads
      obtain ⟨_, guarded, protects, loads⟩ := Operation.bind_eq_ok loads
      cases loads
      refine ⟨rfl, ?_⟩
      have sized (kind : SegmentKind) : (image.segment kind).bytes.length < 2 ^ 64 := by
        have top : addressSpaceSize = 2 ^ 39 := rfl
        have length : (image.segment kind).bytes.length ≤ addressSpaceSize :=
          length_le_of_copySegments copies (image.segment_mem_parts kind)
        omega
      have sound := ModuleImage.sound_of_validate sized valid
      have inText : image.InRegion .text image.entryOffset.toNat :=
        sound.part_inRegion (image.segment_mem_parts .text) sound.enters
      obtain ⟨nonempty, lower, upper⟩ := inText
      rw [← UInt64.le_iff_toNat_le] at lower
      rw [← UInt64.lt_iff_toNat_lt] at upper
      let text := ModuleRegion.mk .text (image.start .text)
        (ModuleImage.roundedUp (image.finish .text))
      have member : text ∈ image.regions :=
        ModuleImage.mem_regions_iff.mpr (by simpa only [text, and_true] using nonempty)
      have covers : text.Covers image.entryOffset := by
        dsimp only [text, ModuleRegion.Covers]
        exact ⟨lower, upper⟩
      exact flags?_of_protectRegions (fun _ => whole_of_mem_regions sound) sound.ordered protects
        member covers

end Handoff

end GuestMachine
