import Mathlib.Data.List.Basic
import Std.Data.TreeMap.Lemmas
import GuestMachine.Memory.Access
import GuestMachine.Proofs.Operations

/-! # What memory holds, byte by byte

The mapped pages seen as a partial map from addresses to bytes and a partial
map from page numbers to permissions. Accesses work on chunks; here each of
them is shown to act on exactly the addressed bytes.
-/

namespace GuestMachine

open Layout

theorem pageSize_pos : 0 < pageSize := by decide

namespace Page

theorem byte_congr (page : Page) {i j : Nat} (h : i % pageSize = j % pageSize) :
    page.byte i = page.byte j := by
  simp only [byte, h]

@[simp] theorem byte_zeroed (flags : PageFlags) (i : Nat) : (zeroed flags).byte i = 0 := by
  simp [byte, zeroed, zeros, ByteArray.getElem_eq_getElem_data]

@[simp] theorem flags_setByte (page : Page) (i : Nat) (value : UInt8) :
    (page.setByte i value).flags = page.flags := rfl

@[simp] theorem flags_setBytes (page : Page) (i : Nat) (data : List UInt8) :
    (page.setBytes i data).flags = page.flags := by
  induction data generalizing page i with
  | nil => rfl
  | cons value rest ih => simp only [setBytes, ih, flags_setByte]

theorem byte_setByte (page : Page) (i j : Nat) (value : UInt8) :
    (page.setByte i value).byte j =
      if i % pageSize = j % pageSize then value else page.byte j := by
  simp only [byte, setByte, ByteArray.getElem_eq_getElem_data, ByteArray.set, Array.getElem_set]

theorem byte_setBytes (page : Page) {offset i : Nat} (data : List UInt8)
    (fits : offset + data.length ≤ pageSize) (inside : i < pageSize) :
    (page.setBytes offset data).byte i =
      if offset ≤ i then data[i - offset]?.getD (page.byte i) else page.byte i := by
  induction data generalizing page offset with
  | nil => simp [setBytes]
  | cons value rest ih =>
      simp only [List.length_cons] at fits
      rw [setBytes, ih _ (by omega), byte_setByte, Nat.mod_eq_of_lt inside,
        Nat.mod_eq_of_lt (by omega)]
      rcases Nat.lt_trichotomy offset i with less | rfl | greater
      · have index : i - offset = i - (offset + 1) + 1 := by omega
        rw [if_neg (Nat.ne_of_lt less), if_pos (Nat.succ_le_of_lt less), if_pos (Nat.le_of_lt less),
          index, List.getElem?_cons_succ]
      · rw [if_neg (Nat.not_succ_le_self offset), if_pos rfl, if_pos (Nat.le_refl offset),
          Nat.sub_self, List.getElem?_cons_zero, Option.getD_some]
      · rw [if_neg (Nat.ne_of_gt greater), if_neg (by omega : ¬ offset + 1 ≤ i),
          if_neg (Nat.not_le_of_gt greater)]

end Page

namespace AddressSpace

/-- The byte at `addr`, if its page is mapped. -/
def byte? (space : AddressSpace) (addr : Nat) : Option UInt8 :=
  space.pages[addr / pageSize]?.map (·.byte addr)

def flags? (space : AddressSpace) (page : Nat) : Option PageFlags :=
  space.pages[page]?.map Page.flags

namespace Chunk

def addresses (chunk : Chunk) : List Nat :=
  List.range' (chunk.page * pageSize + chunk.offset) chunk.len

/-- A chunk holds at least one byte and does not leave its page. -/
structure Within (chunk : Chunk) : Prop where
  nonempty : 0 < chunk.len
  fits : chunk.offset + chunk.len ≤ pageSize

theorem Within.page_eq {chunk : Chunk} (h : chunk.Within) {addr : Nat}
    (member : addr ∈ chunk.addresses) : addr / pageSize = chunk.page := by
  obtain ⟨lower, upper⟩ := List.mem_range'_1.mp member
  have := h.fits
  exact Nat.div_eq_of_lt_le (by omega) (by rw [Nat.succ_mul]; omega)

end Chunk

theorem chunksFrom_within {addr len pos : Nat} {chunk : Chunk}
    (member : chunk ∈ chunksFrom addr len pos) : chunk.Within := by
  induction pos using chunksFrom.induct addr len with
  | case1 pos more offset count ih =>
      rw [chunksFrom, if_pos more] at member
      rcases List.mem_cons.mp member with rfl | member
      · have : (addr + pos) % pageSize < pageSize := Nat.mod_lt _ pageSize_pos
        constructor <;> dsimp only <;> omega
      · exact ih member
  | case2 pos done =>
      rw [chunksFrom, if_neg done] at member
      simp at member

/-- The chunks of an access cover its addresses, each once and in order. -/
theorem addresses_chunksFrom (addr len pos : Nat) :
    (chunksFrom addr len pos).flatMap Chunk.addresses =
      List.range' (addr + pos) (len - pos) := by
  induction pos using chunksFrom.induct addr len with
  | case1 pos more offset count ih =>
      have split : List.range' (addr + pos) (len - pos) =
          List.range' (addr + pos) count ++
            List.range' (addr + (pos + count)) (len - (pos + count)) := by
        rw [← Nat.add_assoc, List.range'_append_1]
        congr 1
        omega
      rw [chunksFrom, if_pos more, List.flatMap_cons, ih, split]
      simp only [Chunk.addresses, offset, count, Nat.div_add_mod']
  | case2 pos done =>
      rw [chunksFrom, if_neg done]
      simp [Nat.sub_eq_zero_of_le (Nat.le_of_not_lt done)]

theorem addresses_chunks (addr len : Nat) :
    (chunks addr len).flatMap Chunk.addresses = List.range' addr len := by
  simpa [chunks] using addresses_chunksFrom addr len 0

theorem chunkBytes_eq (space : AddressSpace) {chunk : Chunk} (within : chunk.Within) :
    space.chunkBytes chunk = chunk.addresses.filterMap space.byte? := by
  have onPage : ∀ addr ∈ chunk.addresses,
      space.byte? addr = space.pages[chunk.page]?.map (·.byte addr) := by
    intro addr member
    rw [byte?, within.page_eq member]
  rw [List.filterMap_congr onPage, chunkBytes]
  cases found : space.pages[chunk.page]? with
  | none => simp
  | some page =>
      have shift (i : Nat) : page.byte (chunk.page * pageSize + chunk.offset + i) =
          page.byte (chunk.offset + i) :=
        page.byte_congr (by rw [Nat.add_assoc, Nat.mul_add_mod'])
      have asMap : (fun addr => (some page).map (·.byte addr)) = some ∘ page.byte := rfl
      rw [asMap, List.filterMap_eq_map, Chunk.addresses, List.range'_eq_map_range, List.map_map]
      exact List.map_congr_left fun i _ => (shift i).symm

/-- Why the byte at `addr` cannot be used. -/
def fault? (space : AddressSpace) (required : PageFlags) (kind : AccessKind) (addr : Nat) :
    Option MemoryError :=
  match space.flags? (addr / pageSize) with
  | none => some (.invalidAddress (UInt64.ofNat addr))
  | some flags =>
      if flags.contains required then none else some (.accessViolation (UInt64.ofNat addr) kind)

/-- All bytes of a chunk share a page, so its first byte has the first fault. -/
theorem chunkFault?_eq (space : AddressSpace) (required : PageFlags) (kind : AccessKind)
    {chunk : Chunk} (within : chunk.Within) :
    space.chunkFault? required kind chunk =
      chunk.addresses.findSome? (space.fault? required kind) := by
  have same : ∀ addr ∈ chunk.addresses,
      space.flags? (addr / pageSize) = space.pages[chunk.page]?.map Page.flags := by
    intro addr member
    rw [within.page_eq member, flags?]
  obtain ⟨rest, front⟩ : ∃ rest,
      chunk.addresses = (chunk.page * pageSize + chunk.offset) :: rest := by
    obtain ⟨n, positive⟩ := Nat.exists_eq_succ_of_ne_zero (Nat.ne_of_gt within.nonempty)
    exact ⟨_, by rw [Chunk.addresses, positive, List.range'_succ]⟩
  have first := same _ (front ▸ List.mem_cons_self)
  cases found : space.pages[chunk.page]? with
  | none =>
      rw [found] at first
      simp [chunkFault?, found, front, fault?, first]
  | some page =>
      rw [found] at first same
      by_cases allowed : page.flags.contains required
      · have clean : ∀ addr ∈ chunk.addresses, space.fault? required kind addr = none := by
          intro addr member
          simp [fault?, same addr member, allowed]
        rw [List.findSome?_eq_none_iff.mpr clean]
        simp [chunkFault?, found, allowed]
      · simp [chunkFault?, found, front, fault?, first, allowed]

theorem findSome?_of_flatMap {f : α → Option γ} {g : β → Option γ} {parts : α → List β}
    {l : List α} (each : ∀ a ∈ l, f a = (parts a).findSome? g) :
    l.findSome? f = (l.flatMap parts).findSome? g := by
  induction l with
  | nil => rfl
  | cons a l ih =>
      rw [List.flatMap_cons, List.findSome?_append, List.findSome?_cons, each a List.mem_cons_self,
        ih fun b member => each b (List.mem_cons_of_mem a member)]
      cases (parts a).findSome? g <;> rfl

theorem validate_eq (space : AddressSpace) (addr : Address) (len : Nat) (required : PageFlags)
    (kind : AccessKind) :
    space.validate addr len required kind =
      if addr.toNat + len ≤ addressSpaceSize then
        match (List.range' addr.toNat len).findSome? (space.fault? required kind) with
        | some error => .error error
        | none => .ok ()
      else .error (.invalidAddress addr) := by
  have faults : (chunks addr.toNat len).findSome? (space.chunkFault? required kind) =
      (List.range' addr.toNat len).findSome? (space.fault? required kind) := by
    rw [← addresses_chunks]
    exact findSome?_of_flatMap fun chunk member =>
      space.chunkFault?_eq required kind (chunksFrom_within member)
  rw [validate, faults, checkRange]
  split <;> rfl

/-- Every byte of `[addr, addr + len)` lies inside the address space, on a page
    with the required permissions. -/
def Allows (space : AddressSpace) (required : PageFlags) (addr len : Nat) : Prop :=
  addr + len ≤ addressSpaceSize ∧
    ∀ i, addr ≤ i → i < addr + len →
      ∃ flags, space.flags? (i / pageSize) = some flags ∧ flags.contains required

theorem fault?_eq_none_iff {space : AddressSpace} {required : PageFlags} {kind : AccessKind}
    {addr : Nat} :
    space.fault? required kind addr = none ↔
      ∃ flags, space.flags? (addr / pageSize) = some flags ∧ flags.contains required := by
  unfold fault?
  cases space.flags? (addr / pageSize) with
  | none => simp
  | some flags => by_cases allowed : flags.contains required <;> simp [allowed]

theorem validate_eq_ok_iff {space : AddressSpace} {addr : Address} {len : Nat}
    {required : PageFlags} {kind : AccessKind} :
    space.validate addr len required kind = .ok () ↔ space.Allows required addr.toNat len := by
  have clean : (List.range' addr.toNat len).findSome? (space.fault? required kind) = none ↔
      ∀ i, addr.toNat ≤ i → i < addr.toNat + len →
        ∃ flags, space.flags? (i / pageSize) = some flags ∧ flags.contains required := by
    simp only [List.findSome?_eq_none_iff, List.mem_range'_1, fault?_eq_none_iff, and_imp]
  rw [validate_eq, Allows, ← clean]
  split
  · rename_i inside
    cases (List.range' addr.toNat len).findSome? (space.fault? required kind) <;> simp [inside]
  · rename_i outside
    simp [outside]

/-- The bytes of `[addr, addr + len)` that are mapped. -/
def bytes (space : AddressSpace) (addr len : Nat) : List UInt8 :=
  (List.range' addr len).filterMap space.byte?

theorem bytes_add (space : AddressSpace) (addr n m : Nat) :
    space.bytes addr (n + m) = space.bytes addr n ++ space.bytes (addr + n) m := by
  simp only [bytes, ← List.range'_append_1, List.filterMap_append]

def Mapped (space : AddressSpace) (addr len : Nat) : Prop :=
  ∀ i, addr ≤ i → i < addr + len → (space.byte? i).isSome

theorem Allows.mapped {space : AddressSpace} {required : PageFlags} {addr len : Nat}
    (allowed : space.Allows required addr len) : space.Mapped addr len := by
  intro i lower upper
  obtain ⟨flags, found, _⟩ := allowed.2 i lower upper
  rw [flags?, Option.map_eq_some_iff] at found
  obtain ⟨page, found, _⟩ := found
  simp [byte?, found]

theorem Mapped.length_bytes {space : AddressSpace} {addr len : Nat}
    (mapped : space.Mapped addr len) : (space.bytes addr len).length = len := by
  have kept : (space.bytes addr len).length = (List.range' addr len).length := by
    apply List.filterMap_length_eq_length.mpr
    intro i member
    obtain ⟨lower, upper⟩ := List.mem_range'_1.mp member
    exact mapped i lower upper
  simpa using kept

/-- Chunk by chunk, the buffer is filled from front to back. -/
theorem foldl_splice_chunksFrom {space : AddressSpace} {addr len pos : Nat} {buffer : List UInt8}
    (mapped : space.Mapped addr len) (size : buffer.length = len) :
    (chunksFrom addr len pos).foldl
        (fun buffer chunk => splice buffer chunk.pos (space.chunkBytes chunk)) buffer =
      buffer.take pos ++ space.bytes (addr + pos) (len - pos) := by
  induction pos using chunksFrom.induct addr len generalizing buffer with
  | case1 pos more offset count =>
      rename_i ih
      let front : Chunk := ⟨(addr + pos) / pageSize, offset, count, pos⟩
      have unfolded : chunksFrom addr len pos = front :: chunksFrom addr len (pos + count) := by
        rw [chunksFrom, if_pos more]
      have fits : pos + count ≤ len := by omega
      have here : space.chunkBytes front = space.bytes (addr + pos) count := by
        rw [space.chunkBytes_eq (chunksFrom_within (unfolded ▸ List.mem_cons_self))]
        simp only [front, bytes, Chunk.addresses, offset, Nat.div_add_mod']
      have part : (space.bytes (addr + pos) count).length = count :=
        Mapped.length_bytes fun i lower upper => mapped i (by omega) (by omega)
      have filled : (splice buffer pos (space.bytes (addr + pos) count)).take (pos + count) =
          buffer.take pos ++ space.bytes (addr + pos) count := by
        have lengths : (buffer.take pos ++ space.bytes (addr + pos) count).length = pos + count := by
          rw [List.length_append, part, List.length_take, Nat.min_eq_left (by omega)]
        rw [splice, ← lengths, List.take_left]
      have kept : (splice buffer pos (space.bytes (addr + pos) count)).length = len := by
        simp only [splice, List.length_append, List.length_take, List.length_drop, part]
        omega
      have split : space.bytes (addr + pos) (len - pos) =
          space.bytes (addr + pos) count ++
            space.bytes (addr + (pos + count)) (len - (pos + count)) := by
        rw [← Nat.add_assoc, ← bytes_add]
        congr 1
        omega
      rw [unfolded, List.foldl_cons, here, ih kept, filled, split, List.append_assoc]
  | case2 pos done =>
      have whole : buffer.take pos = buffer := List.take_of_length_le (by omega)
      rw [chunksFrom, if_neg done, List.foldl_nil, whole, Nat.sub_eq_zero_of_le (by omega)]
      simp [bytes]

/-- What becomes of the caller's buffer. -/
theorem readInto_eq (space : AddressSpace) (addr : Address) (buffer : List UInt8) :
    space.readInto addr buffer =
      match space.validate addr buffer.length PageFlags.r .read with
      | .ok () => .ok () (space.bytes addr.toNat buffer.length)
      | .error e => .error e buffer := by
  change (Operation.ofExcept (space.validate addr buffer.length PageFlags.r .read) >>=
    fun _ => modify _) buffer = _
  cases checked : space.validate addr buffer.length PageFlags.r .read with
  | error e => rfl
  | ok =>
      have mapped := (validate_eq_ok_iff.mp checked).mapped
      have filled := @foldl_splice_chunksFrom space addr.toNat buffer.length 0 buffer mapped rfl
      exact congrArg (EStateM.Result.ok ()) filled

theorem read_eq (space : AddressSpace) (addr : Address) (len : Nat) :
    space.read addr len =
      (space.validate addr len PageFlags.r .read).map fun _ => space.bytes addr.toNat len := by
  rw [read, Operation.result, readInto_eq, List.length_replicate]
  cases space.validate addr len PageFlags.r .read <;> rfl

/-- Comparing chunk by chunk is comparing all bytes. -/
theorem all_chunkMatches_iff {space : AddressSpace} {addr len pos : Nat} {expected : List UInt8}
    (mapped : space.Mapped addr len) (same : expected.length = len) :
    (chunksFrom addr len pos).all (space.chunkMatches expected) ↔
      space.bytes (addr + pos) (len - pos) = expected.drop pos := by
  induction pos using chunksFrom.induct addr len with
  | case1 pos more offset count ih =>
      let front : Chunk := ⟨(addr + pos) / pageSize, offset, count, pos⟩
      have unfolded : chunksFrom addr len pos = front :: chunksFrom addr len (pos + count) := by
        rw [chunksFrom, if_pos more]
      have here : space.chunkBytes front = space.bytes (addr + pos) count := by
        rw [space.chunkBytes_eq (chunksFrom_within (unfolded ▸ List.mem_cons_self))]
        simp only [front, bytes, Chunk.addresses, offset, Nat.div_add_mod']
      have part : (space.bytes (addr + pos) count).length =
          ((expected.drop pos).take count).length := by
        rw [Mapped.length_bytes fun i lower upper => mapped i (by omega) (by omega)]
        simp only [List.length_take, List.length_drop]
        omega
      have held : space.bytes (addr + pos) (len - pos) =
          space.bytes (addr + pos) count ++
            space.bytes (addr + (pos + count)) (len - (pos + count)) := by
        rw [← Nat.add_assoc, ← bytes_add]
        congr 1
        omega
      have wanted : expected.drop pos =
          (expected.drop pos).take count ++ expected.drop (pos + count) := by
        rw [← List.drop_drop, List.take_append_drop]
      -- Both lists split behind the first chunk, into parts of equal lengths.
      rw [unfolded, List.all_cons, Bool.and_eq_true, ih, held, wanted, chunkMatches, beq_iff_eq,
        here]
      constructor
      · rintro ⟨first, others⟩
        rw [first, others]
      · intro whole
        exact List.append_inj whole part
  | case2 pos done =>
      rw [chunksFrom, if_neg done, Nat.sub_eq_zero_of_le (Nat.le_of_not_lt done),
        List.drop_eq_nil_of_le (by omega)]
      simp [bytes]

end AddressSpace

namespace MemoryM

open AddressSpace

/-- What becomes of memory in a write. -/
theorem write_eq (addr : Address) (data : List UInt8) (space : AddressSpace) :
    write addr data space =
      match space.validate addr data.length PageFlags.w .write with
      | .ok () => .ok () { space with pages := putBytes space.pages addr.toNat data }
      | .error e => .error e space := by
  change (Operation.ofExcept (space.validate addr data.length PageFlags.w .write) >>=
    fun _ => modify _) space = _
  cases space.validate addr data.length PageFlags.w .write <;> rfl

theorem write_atomic (addr : Address) (data : List UInt8) : Operation.Atomic (write addr data) :=
  .get_bind fun _ => (Operation.ofExcept_atomic _).bind_accepted fun _ =>
    Operation.modify_accepted _

/-- What becomes of memory in a compare-exchange. -/
theorem compareExchange_eq (addr : Address) (expected new : List UInt8) (space : AddressSpace) :
    compareExchange addr expected new space =
      if expected.length = new.length then
        match space.validate addr new.length PageFlags.rw .write with
        | .ok () =>
            if space.bytes addr.toNat new.length = expected then
              .ok true { space with pages := putBytes space.pages addr.toNat new }
            else .ok false space
        | .error e => .error e space
      else .error (.invalidSize (UInt64.ofNat new.length)) space := by
  by_cases same : expected.length = new.length
  · rw [compareExchange, if_neg (not_not_intro same), if_pos same]
    change (Operation.ofExcept (space.validate addr new.length PageFlags.rw .write) >>= _) space = _
    cases checked : space.validate addr new.length PageFlags.rw .write with
    | error error => rfl
    | ok =>
        have mapped := (validate_eq_ok_iff.mp checked).mapped
        have held := @all_chunkMatches_iff space addr.toNat new.length 0 expected mapped same
        simp only [Nat.add_zero, Nat.sub_zero, List.drop_zero] at held
        change (if (chunksFrom addr.toNat new.length 0).all (space.chunkMatches expected) then _
          else _ : MemoryM Bool) space = ite _ _ _
        by_cases equal : space.bytes addr.toNat new.length = expected
        · rw [if_pos (held.mpr equal), if_pos equal]
          rfl
        · rw [if_neg (mt held.mp equal), if_neg equal]
          rfl
  · rw [compareExchange, if_pos same, if_neg same]
    rfl

theorem compareExchange_atomic (addr : Address) (expected new : List UInt8) :
    Operation.Atomic (compareExchange addr expected new) := by
  rw [compareExchange]
  split
  · exact Operation.throw_atomic _
  · refine .get_bind fun space => (Operation.ofExcept_atomic _).bind_accepted fun _ => ?_
    split
    · exact (Operation.modify_accepted _).bind fun _ => Operation.pure_accepted true
    · exact Operation.pure_accepted false

end MemoryM

namespace AddressSpace

theorem readInto_atomic (space : AddressSpace) (addr : Address) :
    Operation.Atomic (space.readInto addr) :=
  .get_bind fun _ => (Operation.ofExcept_atomic _).bind_accepted fun _ =>
    Operation.modify_accepted _

theorem write_eq (space : AddressSpace) (addr : Address) (data : List UInt8) :
    space.write addr data = (space.validate addr data.length PageFlags.w .write).map fun _ =>
      { space with pages := putBytes space.pages addr.toNat data } := by
  rw [write, Operation.result, MemoryM.write_eq]
  cases space.validate addr data.length PageFlags.w .write <;> rfl

theorem write_eq_ok {space after : AddressSpace} {addr : Address} {data : List UInt8}
    (wrote : space.write addr data = .ok after) :
    space.Allows PageFlags.w addr.toNat data.length ∧
      after = { space with pages := putBytes space.pages addr.toNat data } := by
  rw [write_eq] at wrote
  cases checked : space.validate addr data.length PageFlags.w .write with
  | error error =>
      rw [checked] at wrote
      cases wrote
  | ok =>
      rw [checked] at wrote
      cases wrote
      exact ⟨validate_eq_ok_iff.mp checked, rfl⟩

theorem compareExchange_eq (space : AddressSpace) (addr : Address) {expected new : List UInt8}
    (same : expected.length = new.length) :
    space.compareExchange addr expected new =
      (space.validate addr new.length PageFlags.rw .write).map fun _ =>
        if space.bytes addr.toNat new.length = expected then
          (true, { space with pages := putBytes space.pages addr.toNat new })
        else (false, space) := by
  rw [compareExchange, Operation.outcome, MemoryM.compareExchange_eq, if_pos same]
  cases space.validate addr new.length PageFlags.rw .write with
  | error error => rfl
  | ok =>
      by_cases held : space.bytes addr.toNat new.length = expected
      · simp only [if_pos held]
        rfl
      · simp only [if_neg held]
        rfl

theorem writeBlock_eq (space : AddressSpace) (addr : Address) (data : List UInt8) :
    space.writeBlock addr data =
      match space.validate addr data.length PageFlags.w .write with
      | .ok () => (true, { space with pages := putBytes space.pages addr.toNat data })
      | .error _ => (false, space) := by
  rw [writeBlock, Operation.attempt, MemoryM.write_eq]
  cases space.validate addr data.length PageFlags.w .write <;> rfl

theorem writeBlock_refused {space after : AddressSpace} {addr : Address}
    {data : List UInt8} (refused : space.writeBlock addr data = (false, after)) :
    after = space := by
  rw [writeBlock_eq] at refused
  split at refused
  · cases refused
  · cases refused
    rfl

theorem compareExchangeBlock_eq (space : AddressSpace) (addr : Address)
    {expected new : List UInt8} (same : expected.length = new.length) :
    space.compareExchangeBlock addr expected new =
      match space.validate addr new.length PageFlags.rw .write with
      | .ok () =>
          if space.bytes addr.toNat new.length = expected then
            (true, { space with pages := putBytes space.pages addr.toNat new })
          else (false, space)
      | .error _ => (false, space) := by
  rw [compareExchangeBlock, MemoryM.compareExchange_eq, if_pos same]
  cases space.validate addr new.length PageFlags.rw .write with
  | error error => rfl
  | ok =>
      by_cases held : space.bytes addr.toNat new.length = expected
      · simp only [if_pos held]
      · simp only [if_neg held]

theorem getElem?_modify (pages : Std.TreeMap Nat Page) (f : Page → Page) (page i : Nat) :
    (pages.modify page f)[i]? = if page = i then pages[i]?.map f else pages[i]? := by
  rw [Std.TreeMap.getElem?_modify]
  by_cases same : page = i <;> simp [same]

theorem flags?_putBytes (pages : Std.TreeMap Nat Page) (ever : Bool) (addr : Nat)
    (data : List UInt8) (page : Nat) :
    flags? ⟨putBytes pages addr data, ever⟩ page = flags? ⟨pages, ever⟩ page := by
  induction pages, addr, data using putBytes.induct with
  | case1 pages addr => rw [putBytes]
  | case2 pages addr first rest room ih =>
      rw [putBytes, ih]
      simp only [flags?, getElem?_modify]
      split
      · cases pages[page]? <;> simp
      · rfl

/-- What one page looks like after the bytes that go to it. -/
theorem byte_setBytes_page (page : Page) {addr i : Nat} (data : List UInt8)
    (same : i / pageSize = addr / pageSize) :
    (page.setBytes (addr % pageSize) (data.take (pageSize - addr % pageSize))).byte i =
      if addr ≤ i then data[i - addr]?.getD (page.byte i) else page.byte i := by
  have bound : addr % pageSize < pageSize := Nat.mod_lt _ pageSize_pos
  have start := Nat.div_add_mod' addr pageSize
  have here := Nat.div_add_mod' i pageSize
  have inside : i % pageSize < pageSize := Nat.mod_lt _ pageSize_pos
  rw [same] at here
  rw [← page.byte_congr (Nat.mod_mod i pageSize), ← Page.byte_congr _ (Nat.mod_mod i pageSize),
    Page.byte_setBytes _ _ (by simp only [List.length_take]; omega) inside]
  have order : addr % pageSize ≤ i % pageSize ↔ addr ≤ i := by omega
  have index : i % pageSize - addr % pageSize = i - addr := by omega
  simp only [order, index]
  split
  · rw [List.getElem?_take_of_lt (by omega)]
  · rfl

/-- A write changes the mapped bytes of its range to `data` and no others. -/
theorem byte?_putBytes (pages : Std.TreeMap Nat Page) (ever : Bool) (addr : Nat)
    (data : List UInt8) (i : Nat) :
    byte? ⟨putBytes pages addr data, ever⟩ i =
      (byte? ⟨pages, ever⟩ i).map fun old =>
        if addr ≤ i then data[i - addr]?.getD old else old := by
  induction pages, addr, data using putBytes.induct with
  | case1 pages addr => simp [putBytes]
  | case2 pages addr first rest room ih =>
      have bound : addr % pageSize < pageSize := Nat.mod_lt _ pageSize_pos
      have start := Nat.div_add_mod' addr pageSize
      rw [putBytes, ih]
      by_cases same : i / pageSize = addr / pageSize
      · have here := Nat.div_add_mod' i pageSize
        have inside : i % pageSize < pageSize := Nat.mod_lt _ pageSize_pos
        rw [same] at here
        have before : ¬ addr + room ≤ i := by omega
        simp only [byte?, getElem?_modify, same, if_true, before, if_false, Option.map_map]
        cases pages[addr / pageSize]? with
        | none => rfl
        | some page => exact congrArg some (byte_setBytes_page page (first :: rest) same)
      · have untouched : byte? ⟨pages.modify (addr / pageSize) fun page => page.setBytes
            (addr % pageSize) ((first :: rest).take room), ever⟩ i = byte? ⟨pages, ever⟩ i := by
          simp only [byte?, getElem?_modify, if_neg (Ne.symm same)]
        rw [untouched]
        by_cases later : addr ≤ i
        · have after : addr + room ≤ i := by
            have page : addr / pageSize < i / pageSize :=
              Nat.lt_of_le_of_ne (Nat.div_le_div_right later) (Ne.symm same)
            have next := Nat.mul_le_mul_right pageSize (Nat.succ_le_of_lt page)
            rw [Nat.succ_mul] at next
            have := Nat.div_mul_le_self i pageSize
            omega
          simp only [after, later, if_true, List.getElem?_drop]
          rw [show room + (i - (addr + room)) = i - addr by omega]
        · have before : ¬ addr + room ≤ i := by omega
          simp only [before, later, if_false]

end AddressSpace

end GuestMachine
