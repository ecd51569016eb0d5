import GuestMachine.Memory.Layout

/-! # Pages

A page is 4 KiB of bytes under one set of permissions. Page numbers are
natural numbers: the address divided by the page size.
-/

namespace GuestMachine

open Layout

/-- What guest code may do with a page. -/
structure PageFlags where
  read : Bool := false
  write : Bool := false
  execute : Bool := false
  deriving Repr, DecidableEq, Inhabited

namespace PageFlags

def none : PageFlags := {}
def r : PageFlags := { read := true }
def w : PageFlags := { write := true }
def rw : PageFlags := { read := true, write := true }
def rx : PageFlags := { read := true, execute := true }
def rwx : PageFlags := { read := true, write := true, execute := true }

/-- Every permission of `required` is granted. -/
def contains (flags required : PageFlags) : Bool :=
  (!required.read || flags.read) && (!required.write || flags.write)
    && (!required.execute || flags.execute)

/-- One letter per permission, in the order read, write, execute. -/
def letters (flags : PageFlags) : String :=
  (if flags.read then "r" else "") ++ (if flags.write then "w" else "")
    ++ (if flags.execute then "x" else "")

/-- The permissions whose letters occur. -/
def ofLetters (text : String) : PageFlags :=
  { read := text.contains 'r', write := text.contains 'w', execute := text.contains 'x' }

/-- The guest's encoding: bit 0 read, bit 1 write, bit 2 execute. -/
def bits (flags : PageFlags) : UInt32 :=
  (if flags.read then 1 else 0) + (if flags.write then 2 else 0)
    + (if flags.execute then 4 else 0)

end PageFlags

/-- Whether `addr` is the first byte of a page. -/
def isPageAligned (addr : Address) : Bool :=
  addr.toNat % pageSize == 0

/-- The first byte of the page that holds `addr`. -/
def pageAlignDown (addr : Address) : Address :=
  UInt64.ofNat (addr.toNat / pageSize * pageSize)

/-- The least multiple of the page size that is at least `size`, unless that
    takes more than 64 bits. -/
def pageAlignUp? (size : UInt64) : Option UInt64 :=
  if size.toNat + (pageSize - 1) < 2 ^ 64 then
    some (UInt64.ofNat ((size.toNat + (pageSize - 1)) / pageSize * pageSize))
  else
    Option.none

structure Page where
  bytes : ByteArray
  flags : PageFlags
  size_bytes : bytes.size = pageSize

namespace Page

/-- The contents of a page nobody has written to. -/
def zeros : ByteArray := ⟨Array.replicate pageSize 0⟩

theorem size_zeros : zeros.size = pageSize := by
  simp [zeros, ByteArray.size]

def zeroed (flags : PageFlags) : Page :=
  ⟨zeros, flags, size_zeros⟩

/-- The byte at `offset`, taken modulo the page size. -/
def byte (page : Page) (offset : Nat) : UInt8 :=
  have : offset % pageSize < page.bytes.size := by
    rw [page.size_bytes]; exact Nat.mod_lt _ (by decide)
  page.bytes[offset % pageSize]

/-- `count` consecutive bytes from `offset` on. -/
def slice (page : Page) (offset count : Nat) : List UInt8 :=
  (List.range count).map fun i => page.byte (offset + i)

/-- Change the byte at `offset`, taken modulo the page size. -/
def setByte (page : Page) (offset : Nat) (value : UInt8) : Page :=
  have h : offset % pageSize < page.bytes.size := by
    rw [page.size_bytes]; exact Nat.mod_lt _ (by decide)
  ⟨page.bytes.set (offset % pageSize) value h, page.flags, by
    have := page.size_bytes
    simp only [ByteArray.size, ByteArray.set, Array.size_set] at this ⊢
    exact this⟩

/-- Change consecutive bytes from `offset` on. -/
def setBytes (page : Page) (offset : Nat) : List UInt8 → Page
  | [] => page
  | value :: rest => (page.setByte offset value).setBytes (offset + 1) rest

end Page

end GuestMachine
