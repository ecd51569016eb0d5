import GuestMachine.Proofs.Memory.Contents
import GuestMachine.Proofs.Memory.FlatMemory

/-! # Changes of the mapping

What mapping, unmapping and changing permissions do to each page, and which
page a refused request names.
-/

namespace GuestMachine

open Layout

namespace AddressSpace

/-- A request is checked like this whatever is mapped. -/
theorem mappingRange_eq (addr : Address) (size : UInt64) :
    mappingRange addr size =
      (PageSpan.ofRequest addr size).map fun span => (span.first, span.count) := by
  unfold mappingRange PageSpan.ofRequest pageAlignUp? isPageAligned
  by_cases aligned : addr.toNat % pageSize = 0
  · by_cases empty : size = 0
    · simp [aligned, empty, Except.map]
    · by_cases overflow : size.toNat + (pageSize - 1) < 2 ^ 64
      · -- The rounded size is a multiple of the page size that still has 64 bits.
        have rounded : (UInt64.ofNat ((size.toNat + (pageSize - 1)) / pageSize * pageSize)).toNat =
            (size.toNat + (pageSize - 1)) / pageSize * pageSize :=
          UInt64.toNat_ofNat_of_lt' (Nat.lt_of_le_of_lt (Nat.div_mul_le_self _ _) overflow)
        have start : addr.toNat / pageSize * pageSize = addr.toNat :=
          Nat.div_mul_cancel (Nat.dvd_of_mod_eq_zero aligned)
        simp only [-Nat.reducePow, aligned, empty, overflow, Nat.not_le_of_gt overflow, checkRange,
          rounded, Nat.add_mul, start, Nat.mul_div_cancel _ pageSize_pos, beq_self_eq_true,
          Bool.not_true, Bool.false_eq_true, ne_eq, not_true_eq_false, or_self, if_true, if_false]
        split <;> rfl
      · have large := Nat.le_of_not_lt overflow
        simp [-Nat.reducePow, aligned, empty, overflow, large, Except.map]
  · simp [aligned, Except.map]

/-- In an ascending list the first hit is the least. -/
theorem find?_eq_some_iff_least {l : List Nat} {p : Nat → Bool} {a : Nat}
    (ascending : l.Pairwise (· < ·)) :
    l.find? p = some a ↔ a ∈ l ∧ p a ∧ ∀ b ∈ l, p b → a ≤ b := by
  induction l with
  | nil => simp
  | cons head tail ih =>
      obtain ⟨below, ascending⟩ := List.pairwise_cons.mp ascending
      by_cases hit : p head
      · rw [List.find?_cons_of_pos hit, Option.some.injEq]
        constructor
        · rintro rfl
          refine ⟨List.mem_cons_self, hit, ?_⟩
          intro b member _
          rcases List.mem_cons.mp member with rfl | member
          · exact Nat.le_refl _
          · exact Nat.le_of_lt (below b member)
        · rintro ⟨member, _, least⟩
          rcases List.mem_cons.mp member with rfl | member
          · rfl
          · exact absurd (least head List.mem_cons_self hit) (Nat.not_le_of_gt (below a member))
      · rw [List.find?_cons_of_neg hit, ih ascending]
        simp only [List.mem_cons, forall_eq_or_imp, hit, Bool.false_eq_true, false_implies, true_and]
        constructor
        · rintro ⟨member, found, least⟩
          exact ⟨.inr member, found, least⟩
        · rintro ⟨rfl | member, found, least⟩
          · exact absurd found hit
          · exact ⟨member, found, least⟩

theorem mem_keys_iff {space : AddressSpace} {page : Nat} :
    page ∈ space.pages.keys ↔ (space.flags? page).isSome := by
  rw [Std.TreeMap.mem_keys, Std.TreeMap.mem_iff_isSome_getElem?, flags?, Option.isSome_map]

theorem keys_ascending (space : AddressSpace) : space.pages.keys.Pairwise (· < ·) :=
  space.pages.ordered_keys.imp fun less => Nat.compare_eq_lt.mp less

theorem firstMapped?_eq (space : AddressSpace) (span : PageSpan) :
    space.firstMapped? span.first (span.first + span.count) =
      span.pages.find? fun page => (space.flags? page).isSome := by
  apply Option.ext
  intro page
  rw [firstMapped?, find?_eq_some_iff_least space.keys_ascending, PageSpan.pages,
    find?_eq_some_iff_least List.pairwise_lt_range']
  simp only [mem_keys_iff, List.mem_range'_1, Bool.and_eq_true, decide_eq_true_eq]
  grind

theorem firstUnmapped?_eq (space : AddressSpace) (first count : Nat) :
    space.firstUnmapped? first count =
      (List.range' first count).find? fun page => (space.flags? page).isNone := by
  induction count generalizing first with
  | zero => rfl
  | succ count ih =>
      rw [firstUnmapped?, List.range'_succ, List.find?_cons, ih,
        Std.TreeMap.contains_eq_isSome_getElem?]
      cases found : space.pages[first]? <;> simp [flags?, found]

theorem firstUnmapped?_pages (space : AddressSpace) (span : PageSpan) :
    space.firstUnmapped? span.first span.count =
      span.pages.find? fun page => (space.flags? page).isNone :=
  space.firstUnmapped?_eq span.first span.count

theorem getElem?_foldl_insert (pages : Std.TreeMap Nat Page) (fresh : Page) (keys : List Nat)
    (page : Nat) :
    (keys.foldl (fun pages key => pages.insert key fresh) pages)[page]? =
      if page ∈ keys then some fresh else pages[page]? := by
  induction keys generalizing pages with
  | nil => simp
  | cons key keys ih =>
      rw [List.foldl_cons, ih, Std.TreeMap.getElem?_insert]
      simp only [Nat.compare_eq_eq, List.mem_cons]
      grind

theorem getElem?_foldl_erase (pages : Std.TreeMap Nat Page) (keys : List Nat) (page : Nat) :
    (keys.foldl (fun pages key => pages.erase key) pages)[page]? =
      if page ∈ keys then none else pages[page]? := by
  induction keys generalizing pages with
  | nil => simp
  | cons key keys ih =>
      rw [List.foldl_cons, ih, Std.TreeMap.getElem?_erase]
      simp only [Nat.compare_eq_eq, List.mem_cons]
      grind

theorem getElem?_foldl_modify (pages : Std.TreeMap Nat Page) {f : Page → Page}
    (idempotent : ∀ old, f (f old) = f old) (keys : List Nat) (page : Nat) :
    (keys.foldl (fun pages key => pages.modify key f) pages)[page]? =
      if page ∈ keys then pages[page]?.map f else pages[page]? := by
  induction keys generalizing pages with
  | nil => simp
  | cons key keys ih =>
      rw [List.foldl_cons, ih, getElem?_modify]
      by_cases same : key = page
      · simp [same, Function.comp_def, idempotent]
      · simp [same, Ne.symm same]

theorem map_eq (space : AddressSpace) (addr : Address) (size : UInt64) (flags : PageFlags) :
    space.map addr size flags = (do
      let span ← PageSpan.ofRequest addr size
      match span.pages.find? fun page => (space.flags? page).isSome with
      | some page => .error (.alreadyMapped (pageAddress page))
      | none => .ok ⟨span.pages.foldl (fun pages page => pages.insert page (Page.zeroed flags))
          space.pages, true⟩) := by
  rw [map, Operation.result, MemoryM.map, mappingRange_eq]
  cases PageSpan.ofRequest addr size with
  | error error => rfl
  | ok span =>
      simp only [Except.map, Operation.ofExcept_ok_bind, Operation.get_bind, firstMapped?_eq]
      simp only [bind, Except.bind]
      cases span.pages.find? fun page => (space.flags? page).isSome <;> rfl

theorem unmap_eq (space : AddressSpace) (addr : Address) (size : UInt64) :
    space.unmap addr size = (do
      let span ← PageSpan.ofRequest addr size
      match span.pages.find? fun page => (space.flags? page).isNone with
      | some page => .error (.invalidAddress (pageAddress page))
      | none => .ok { space with
          pages := span.pages.foldl (fun pages page => pages.erase page) space.pages }) := by
  rw [unmap, Operation.result, MemoryM.unmap, mappingRange_eq]
  cases PageSpan.ofRequest addr size with
  | error error => rfl
  | ok span =>
      simp only [Except.map, Operation.ofExcept_ok_bind, Operation.get_bind, firstUnmapped?_pages]
      simp only [bind, Except.bind]
      cases span.pages.find? fun page => (space.flags? page).isNone <;> rfl

theorem protect_eq (space : AddressSpace) (addr : Address) (size : UInt64) (flags : PageFlags) :
    space.protect addr size flags = (do
      let span ← PageSpan.ofRequest addr size
      match span.pages.find? fun page => (space.flags? page).isNone with
      | some page => .error (.invalidAddress (pageAddress page))
      | none => .ok { space with
          pages := span.pages.foldl
            (fun pages page => pages.modify page fun old => { old with flags }) space.pages }) := by
  rw [protect, Operation.result, MemoryM.protect, mappingRange_eq]
  cases PageSpan.ofRequest addr size with
  | error error => rfl
  | ok span =>
      simp only [Except.map, Operation.ofExcept_ok_bind, Operation.get_bind, firstUnmapped?_pages]
      simp only [bind, Except.bind]
      cases span.pages.find? fun page => (space.flags? page).isNone <;> rfl

end AddressSpace

namespace MemoryM

variable (addr : Address) (size : UInt64) (flags : PageFlags)

theorem modifyPages_accepted (f : Std.TreeMap Nat Page → Nat → Std.TreeMap Nat Page)
    (first count : Nat) : Operation.Accepted (modifyPages f first count) :=
  Operation.modify_accepted _

theorem map_atomic : Operation.Atomic (map addr size flags) := by
  refine .ofExcept_bind fun range _ => .get_bind fun space => ?_
  split
  · exact Operation.throw_atomic _
  · exact ((modifyPages_accepted _ _ _).bind fun _ => Operation.modify_accepted _).atomic

theorem unmap_atomic : Operation.Atomic (unmap addr size) := by
  refine .ofExcept_bind fun range _ => .get_bind fun space => ?_
  split
  · exact Operation.throw_atomic _
  · exact (modifyPages_accepted _ _ _).atomic

theorem protect_atomic : Operation.Atomic (protect addr size flags) := by
  refine .ofExcept_bind fun range _ => .get_bind fun space => ?_
  split
  · exact Operation.throw_atomic _
  · exact (modifyPages_accepted _ _ _).atomic

end MemoryM

/-- Whole pages inside the address space are a span. -/
theorem PageSpan.ofRequest_of_whole {addr : Address} {size : UInt64}
    (aligned : addr.toNat % pageSize = 0) (whole : size.toNat % pageSize = 0)
    (nonempty : 0 < size.toNat) (inside : addr.toNat + size.toNat ≤ addressSpaceSize) :
    ∃ span, ofRequest addr size = .ok span ∧
      ∀ i, span.Contains (i / pageSize) ↔ addr.toNat ≤ i ∧ i < addr.toNat + size.toNat := by
  have page : pageSize = 4096 := rfl
  have top : addressSpaceSize = 2 ^ 39 := rfl
  have starts : ¬ addr.toNat % pageSize ≠ 0 := not_not_intro aligned
  rw [page] at aligned whole
  have count : (size.toNat + (pageSize - 1)) / pageSize = size.toNat / pageSize := by
    rw [page]
    omega
  have extent : (addr.toNat / pageSize + size.toNat / pageSize) * pageSize ≤ addressSpaceSize := by
    rw [page]
    omega
  have proper : ¬ (size = 0 ∨ 2 ^ 64 ≤ size.toNat + (pageSize - 1)) := by
    rw [← UInt64.toNat_inj, page, UInt64.toNat_zero]
    omega
  refine ⟨⟨_, _, extent⟩, ?_, fun i => ?_⟩
  · simp only [ofRequest, starts, proper, count, extent, if_false, dite_true]
  · simp only [Contains, page]
    omega

namespace AddressSpace

/-- `after` differs from `before` only by the permissions of some pages. -/
structure Reflagged (before after : AddressSpace) (addr len : Nat) (flags : PageFlags) : Prop where
  flags : ∀ i, after.flags? (i / pageSize) =
    if addr ≤ i ∧ i < addr + len then some flags else before.flags? (i / pageSize)
  bytes : ∀ i, after.byte? i = before.byte? i

theorem protect_of_mapped {space : AddressSpace} {addr : Address} {size : UInt64}
    (aligned : addr.toNat % pageSize = 0) (whole : size.toNat % pageSize = 0)
    (nonempty : 0 < size.toNat) (inside : addr.toNat + size.toNat ≤ addressSpaceSize)
    (mapped : ∀ i, addr.toNat ≤ i → i < addr.toNat + size.toNat →
      (space.flags? (i / pageSize)).isSome) (flags : PageFlags) :
    ∃ after, space.protect addr size flags = .ok after ∧
      space.Reflagged after addr.toNat size.toNat flags := by
  obtain ⟨span, request, contains⟩ := PageSpan.ofRequest_of_whole aligned whole nonempty inside
  have present : (span.pages.find? fun page => (space.flags? page).isNone) = none := by
    rw [List.find?_eq_none]
    intro number member
    have start : number * pageSize / pageSize = number := Nat.mul_div_cancel _ pageSize_pos
    rw [PageSpan.mem_pages, ← start] at member
    obtain ⟨lower, upper⟩ := (contains (number * pageSize)).mp member
    have found := mapped (number * pageSize) lower upper
    rw [start] at found
    simpa [Option.isSome_iff_ne_none] using found
  let change (old : Page) : Page := { old with flags }
  have changed (i : Nat) : (span.pages.foldl (fun pages page => pages.modify page change)
      space.pages)[i / pageSize]? = if addr.toNat ≤ i ∧ i < addr.toNat + size.toNat then
        space.pages[i / pageSize]?.map change else space.pages[i / pageSize]? := by
    rw [getElem?_foldl_modify space.pages (f := change) fun _ => rfl]
    simp only [PageSpan.mem_pages, contains]
  rw [protect_eq, request]
  simp only [bind, Except.bind, present]
  refine ⟨_, rfl, ?_, ?_⟩
  · intro i
    refine (congrArg (Option.map Page.flags) (changed i)).trans ?_
    split
    · rename_i within
      obtain ⟨old, found⟩ := Option.isSome_iff_exists.mp (mapped i within.1 within.2)
      rw [flags?, Option.map_eq_some_iff] at found
      obtain ⟨held, found, _⟩ := found
      rw [found]
      rfl
    · rfl
  · intro i
    refine (congrArg (Option.map fun page => page.byte i) (changed i)).trans ?_
    split
    · rw [Option.map_map]
      rfl
    · rfl

end AddressSpace

end GuestMachine
