import Mathlib.Data.List.Basic
import GuestMachine.Memory.AddressSpace

/-! # Flat byte memory

The memory that guest code may picture: a partial map from addresses to bytes
with one set of permissions for each mapped page. Nothing is split into chunks
here; an access looks at its bytes one after another.
-/

namespace GuestMachine

open Layout

/-- Whole pages inside the address space. -/
structure PageSpan where
  first : Nat
  count : Nat
  inside : (first + count) * pageSize ≤ addressSpaceSize

namespace PageSpan

def Contains (span : PageSpan) (page : Nat) : Prop :=
  span.first ≤ page ∧ page < span.first + span.count

instance (span : PageSpan) (page : Nat) : Decidable (span.Contains page) :=
  inferInstanceAs (Decidable (_ ∧ _))

def pages (span : PageSpan) : List Nat :=
  List.range' span.first span.count

@[simp] theorem mem_pages {span : PageSpan} {page : Nat} :
    page ∈ span.pages ↔ span.Contains page := by
  rw [pages, List.mem_range'_1, Contains]

/-- The span that a mapping request covers: it starts at a page boundary and
    its size, which must not be zero, counts in whole pages, rounded up. -/
def ofRequest (addr : Address) (size : UInt64) : Except MemoryError PageSpan :=
  let count := (size.toNat + (pageSize - 1)) / pageSize
  if addr.toNat % pageSize ≠ 0 then .error (.alignment addr (UInt64.ofNat pageSize))
  else if size = 0 ∨ 2 ^ 64 ≤ size.toNat + (pageSize - 1) then .error (.invalidSize size)
  else if h : (addr.toNat / pageSize + count) * pageSize ≤ addressSpaceSize then
    .ok ⟨addr.toNat / pageSize, count, h⟩
  else .error (.invalidAddress addr)

end PageSpan

/-- A partial map from addresses to bytes, with permissions by page number. -/
structure FlatMemory where
  byte? : Nat → Option UInt8
  flags? : Nat → Option PageFlags
  /-- A page is mapped as a whole. -/
  mapped_iff : ∀ addr, (byte? addr).isSome ↔ (flags? (addr / pageSize)).isSome
  inside : ∀ addr, (byte? addr).isSome → addr < addressSpaceSize

namespace FlatMemory

def empty : FlatMemory where
  byte? _ := none
  flags? _ := none
  mapped_iff := by simp
  inside := by simp

def fill (memory : FlatMemory) (span : PageSpan) (flags : PageFlags) : FlatMemory where
  byte? addr := if span.Contains (addr / pageSize) then some 0 else memory.byte? addr
  flags? page := if span.Contains page then some flags else memory.flags? page
  mapped_iff addr := by
    by_cases h : span.Contains (addr / pageSize) <;> simp [h, memory.mapped_iff]
  inside addr := by
    by_cases h : span.Contains (addr / pageSize)
    · intro _
      have bound := span.inside
      have : addr / pageSize < span.first + span.count := h.2
      exact Nat.lt_of_lt_of_le ((Nat.div_lt_iff_lt_mul (by decide)).mp this) bound
    · simpa [h] using memory.inside addr

def drop (memory : FlatMemory) (span : PageSpan) : FlatMemory where
  byte? addr := if span.Contains (addr / pageSize) then none else memory.byte? addr
  flags? page := if span.Contains page then none else memory.flags? page
  mapped_iff addr := by
    by_cases h : span.Contains (addr / pageSize) <;> simp [h, memory.mapped_iff]
  inside addr := by
    by_cases h : span.Contains (addr / pageSize)
    · simp [h]
    · simpa [h] using memory.inside addr

def setFlags (memory : FlatMemory) (span : PageSpan) (flags : PageFlags) : FlatMemory where
  byte? := memory.byte?
  flags? page :=
    if span.Contains page then (memory.flags? page).map fun _ => flags else memory.flags? page
  mapped_iff addr := by
    by_cases h : span.Contains (addr / pageSize) <;> simp [h, memory.mapped_iff]
  inside := memory.inside

/-- Map zeros, unless a page is mapped already; the lowest such page is named. -/
def map (memory : FlatMemory) (addr : Address) (size : UInt64) (flags : PageFlags) :
    Except MemoryError FlatMemory := do
  let span ← PageSpan.ofRequest addr size
  match span.pages.find? fun page => (memory.flags? page).isSome with
  | some page => .error (.alreadyMapped (UInt64.ofNat (page * pageSize)))
  | none => .ok (memory.fill span flags)

/-- The span of a request if all of it is mapped. Otherwise the lowest page
    that is not is named. -/
def mappedSpan (memory : FlatMemory) (addr : Address) (size : UInt64) :
    Except MemoryError PageSpan := do
  let span ← PageSpan.ofRequest addr size
  match span.pages.find? fun page => (memory.flags? page).isNone with
  | some page => .error (.invalidAddress (UInt64.ofNat (page * pageSize)))
  | none => .ok span

def unmap (memory : FlatMemory) (addr : Address) (size : UInt64) :
    Except MemoryError FlatMemory := do
  return memory.drop (← memory.mappedSpan addr size)

def protect (memory : FlatMemory) (addr : Address) (size : UInt64) (flags : PageFlags) :
    Except MemoryError FlatMemory := do
  return memory.setFlags (← memory.mappedSpan addr size) flags

def fault? (memory : FlatMemory) (required : PageFlags) (kind : AccessKind) (addr : Nat) :
    Option MemoryError :=
  match memory.flags? (addr / pageSize) with
  | none => some (.invalidAddress (UInt64.ofNat addr))
  | some flags =>
      if flags.contains required then none else some (.accessViolation (UInt64.ofNat addr) kind)

/-- The range ends inside the address space and each of its bytes lies on a
    page with the required permissions. The lowest offending byte is named
    otherwise. -/
def check (memory : FlatMemory) (addr : Address) (len : Nat) (required : PageFlags)
    (kind : AccessKind) : Except MemoryError Unit :=
  if addr.toNat + len ≤ addressSpaceSize then
    match (List.range' addr.toNat len).findSome? (memory.fault? required kind) with
    | some error => .error error
    | none => .ok ()
  else .error (.invalidAddress addr)

def bytes (memory : FlatMemory) (addr len : Nat) : List UInt8 :=
  (List.range' addr len).filterMap memory.byte?

/-- Change the mapped bytes from `addr` on to `data`. -/
def put (memory : FlatMemory) (addr : Nat) (data : List UInt8) : FlatMemory where
  byte? i := (memory.byte? i).map fun old => if addr ≤ i then data[i - addr]?.getD old else old
  flags? := memory.flags?
  mapped_iff i := by simp [memory.mapped_iff]
  inside i := by simpa using memory.inside i

def read (memory : FlatMemory) (addr : Address) (len : Nat) : Except MemoryError (List UInt8) := do
  memory.check addr len PageFlags.r .read
  return memory.bytes addr.toNat len

def write (memory : FlatMemory) (addr : Address) (data : List UInt8) :
    Except MemoryError FlatMemory := do
  memory.check addr data.length PageFlags.w .write
  return memory.put addr.toNat data

def compareExchange (memory : FlatMemory) (addr : Address) (expected new : List UInt8) :
    Except MemoryError (Bool × FlatMemory) :=
  if expected.length = new.length then do
    memory.check addr new.length PageFlags.rw .write
    return if memory.bytes addr.toNat new.length = expected then (true, memory.put addr.toNat new)
      else (false, memory)
  else .error (.invalidSize (UInt64.ofNat new.length))

end FlatMemory

end GuestMachine
