import GuestMachine.Proofs.Loader.HandoffSteps
import GuestMachine.Proofs.Memory.Blocks
import GuestMachine.Proofs.Memory.Mapping

/-! # Installing the parts of a module

Copying writes the bytes of the parts and nothing else, as long as they do not
overlap and can be written. Protecting then changes permissions alone, and no page
twice.
-/

namespace GuestMachine

open Layout

namespace AddressSpace

/-- `after` differs from `before` only by holding the parts, `base` added to their
    offsets. -/
structure Copied (before after : AddressSpace) (base : Nat)
    (parts : List (SegmentKind × Segment)) : Prop where
  held : ∀ part ∈ parts, ∀ o, part.2.Holds o →
    after.byte? (base + o) = part.2.bytes[o - part.2.offset.toNat]?
  other : ∀ i, (∀ part ∈ parts, ∀ o, part.2.Holds o → i ≠ base + o) →
    after.byte? i = before.byte? i
  flags : ∀ page, after.flags? page = before.flags? page

/-- A part that is there can be written where it belongs. -/
def Admits (space : AddressSpace) (base : Address) (part : SegmentKind × Segment) : Prop :=
  part.2.bytes ≠ [] →
    (base + part.2.offset).toNat = base.toNat + part.2.offset.toNat ∧
      space.Allows PageFlags.w (base.toNat + part.2.offset.toNat) part.2.bytes.length

theorem Written.copied {before between after : AddressSpace} {base : Nat}
    {part : SegmentKind × Segment} {rest : List (SegmentKind × Segment)}
    (written : before.Written between (base + part.2.offset.toNat) part.2.bytes)
    (copied : between.Copied after base rest)
    (apart : ∀ other ∈ rest, ∀ o, part.2.Holds o → ¬ other.2.Holds o) :
    before.Copied after base (part :: rest) where
  held other member o held := by
    cases member with
    | tail _ member => exact copied.held other member o held
    | head =>
        have kept : after.byte? (base + o) = between.byte? (base + o) := by
          apply copied.other
          intro other member o' held' same
          cases Nat.add_left_cancel same
          exact apart other member o held held'
        obtain ⟨lower, upper⟩ := held
        rw [kept, written.inside (base + o) (by omega) (by omega), Nat.add_sub_add_left]
  other i away := by
    rw [copied.other i fun other member => away other (.tail _ member)]
    apply written.outside
    by_contra inside
    exact away part (.head _) (i - base) ⟨by omega, by omega⟩ (by omega)
  flags page := (copied.flags page).trans (written.flags page)

theorem Copied.cons_of_isEmpty {before after : AddressSpace} {base : Nat}
    {part : SegmentKind × Segment} {rest : List (SegmentKind × Segment)}
    (copied : before.Copied after base rest) (empty : part.2.bytes = []) :
    before.Copied after base (part :: rest) where
  held other member o held := by
    cases member with
    | tail _ member => exact copied.held other member o held
    | head =>
        obtain ⟨lower, upper⟩ := held
        rw [empty, List.length_nil] at upper
        omega
  other i away := copied.other i fun other member => away other (.tail _ member)
  flags := copied.flags

end AddressSpace

namespace AddressSpace

/-- `after` differs from `before` only by the permissions of the regions. -/
structure Protected (before after : AddressSpace) (base : Nat) (regions : List ModuleRegion) :
    Prop where
  held : ∀ region ∈ regions, ∀ o, region.start.toNat ≤ o → o < region.finish.toNat →
    after.flags? ((base + o) / pageSize) = some region.kind.flags
  other : ∀ i, (∀ region ∈ regions,
      ¬ (base + region.start.toNat ≤ i ∧ i < base + region.finish.toNat)) →
    after.flags? (i / pageSize) = before.flags? (i / pageSize)
  bytes : ∀ i, after.byte? i = before.byte? i

/-- The pages of the region are all there. -/
structure Spans (space : AddressSpace) (base : Address) (region : ModuleRegion) : Prop where
  start : region.start.toNat % pageSize = 0
  finish : region.finish.toNat % pageSize = 0
  nonempty : region.start < region.finish
  inside : base.toNat + region.finish.toNat ≤ addressSpaceSize
  mapped : ∀ i, base.toNat ≤ i → i < base.toNat + region.finish.toNat →
    (space.flags? (i / pageSize)).isSome

theorem Spans.protect {space : AddressSpace} {base : Address} {region : ModuleRegion}
    (spans : space.Spans base region) (aligned : base.toNat % pageSize = 0) :
    ∃ after, space.protect (base + region.start) (region.finish - region.start)
        region.kind.flags = .ok after ∧
      space.Reflagged after (base.toNat + region.start.toNat)
        (region.finish.toNat - region.start.toNat) region.kind.flags := by
  have page : pageSize = 4096 := rfl
  have top : addressSpaceSize = 2 ^ 39 := rfl
  obtain ⟨start, finish, nonempty, inside, mapped⟩ := spans
  rw [page] at start finish aligned
  have order := UInt64.lt_iff_toNat_lt.mp nonempty
  have addr : (base + region.start).toNat = base.toNat + region.start.toNat := by
    rw [UInt64.toNat_add]
    omega
  have size : (region.finish - region.start).toNat =
      region.finish.toNat - region.start.toNat :=
    UInt64.toNat_sub_of_le _ _ (UInt64.le_iff_toNat_le.mpr (Nat.le_of_lt order))
  rw [← addr, ← size]
  apply protect_of_mapped
  · rw [addr, page]
    omega
  · rw [size, page]
    omega
  · omega
  · omega
  · intro i lower upper
    exact mapped i (by omega) (by omega)

theorem Reflagged.protected {before between after : AddressSpace} {base : Nat}
    {region : ModuleRegion} {rest : List ModuleRegion}
    (reflagged : before.Reflagged between (base + region.start.toNat)
      (region.finish.toNat - region.start.toNat) region.kind.flags)
    (next : between.Protected after base rest) (nonempty : region.start < region.finish)
    (apart : ∀ other ∈ rest, region.finish ≤ other.start) :
    before.Protected after base (region :: rest) where
  held other member o lower upper := by
    cases member with
    | tail _ member => exact next.held other member o lower upper
    | head =>
        rw [next.other, reflagged.flags, if_pos ⟨by omega, by omega⟩]
        intro other member within
        have beyond := UInt64.le_iff_toNat_le.mp (apart other member)
        omega
  other i away := by
    have order := UInt64.lt_iff_toNat_lt.mp nonempty
    rw [next.other i fun other member => away other (.tail _ member), reflagged.flags, if_neg]
    have outside := away region (.head _)
    omega
  bytes i := (next.bytes i).trans (reflagged.bytes i)

end AddressSpace

namespace Handoff

open HandoffM AddressSpace

theorem copySegments_copied {handoff : Handoff} {base : Address}
    {parts : List (SegmentKind × Segment)}
    (admits : ∀ part ∈ parts, handoff.machine.board.memory.Admits base part)
    (apart : parts.Pairwise fun first second => ∀ o, first.2.Holds o → ¬ second.2.Holds o) :
    ∃ memory, copySegments base parts handoff = .ok () (handoff.withMemory memory) ∧
      handoff.machine.board.memory.Copied memory base.toNat parts := by
  induction parts generalizing handoff with
  | nil => exact ⟨handoff.machine.board.memory, rfl, nofun, fun _ _ => rfl, fun _ => rfl⟩
  | cons part rest ih =>
      obtain ⟨first, apart⟩ := List.pairwise_cons.mp apart
      by_cases empty : part.2.bytes = []
      · obtain ⟨memory, copies, copied⟩ :=
          ih (fun other member => admits other (.tail _ member)) apart
        refine ⟨memory, ?_, copied.cons_of_isEmpty empty⟩
        rw [copySegments, Segment.isEmpty, empty]
        exact copies
      · obtain ⟨addr, allowed⟩ := admits part (.head _) empty
        rw [← addr] at allowed
        obtain ⟨_, between, wrote, written⟩ | ⟨refused, _⟩ :=
          handoff.machine.board.memory.writeBlock_cases (base + part.2.offset) part.2.bytes
        case inr => exact absurd allowed refused
        rw [addr] at written
        have writes := writeBlock_eq (base + part.2.offset) part.2.bytes handoff
        rw [wrote] at writes
        have admits : ∀ other ∈ rest,
            (handoff.withMemory between).machine.board.memory.Admits base other := by
          intro other member nonempty
          obtain ⟨addr, allowed⟩ := admits other (.tail _ member) nonempty
          exact ⟨addr, written.allows_iff.mpr allowed⟩
        obtain ⟨memory, copies, copied⟩ := ih admits apart
        refine ⟨memory, ?_, written.copied copied first⟩
        have nonempty : (!part.2.isEmpty) = true := by simpa [Segment.isEmpty] using empty
        rw [copySegments, if_pos nonempty, Operation.bind_of_ok writes]
        exact copies

theorem protectRegions_protected {handoff : Handoff} {base : Address}
    {regions : List ModuleRegion} (aligned : base.toNat % pageSize = 0)
    (spans : ∀ region ∈ regions, handoff.machine.board.memory.Spans base region)
    (ordered : regions.Pairwise fun first second => first.finish ≤ second.start) :
    ∃ memory, protectRegions base regions handoff = .ok () (handoff.withMemory memory) ∧
      handoff.machine.board.memory.Protected memory base.toNat regions := by
  induction regions generalizing handoff with
  | nil => exact ⟨handoff.machine.board.memory, rfl, nofun, fun _ _ => rfl, fun _ => rfl⟩
  | cons region rest ih =>
      obtain ⟨first, ordered⟩ := List.pairwise_cons.mp ordered
      have here := spans region (.head _)
      obtain ⟨between, protects, reflagged⟩ := here.protect aligned
      have changes := protect_eq (base + region.start) (region.finish - region.start)
        region.kind.flags handoff
      rw [protects] at changes
      have spans : ∀ other ∈ rest,
          (handoff.withMemory between).machine.board.memory.Spans base other := by
        intro other member
        obtain ⟨start, finish, nonempty, inside, mapped⟩ := spans other (.tail _ member)
        refine ⟨start, finish, nonempty, inside, fun i lower upper => ?_⟩
        change (between.flags? (i / pageSize)).isSome
        rw [reflagged.flags]
        split
        · rfl
        · exact mapped i lower upper
      obtain ⟨memory, rests, next⟩ := ih spans ordered
      refine ⟨memory, ?_, reflagged.protected next here.nonempty first⟩
      rw [protectRegions, Operation.bind_of_ok changes]
      exact rests

end Handoff

end GuestMachine
