import Std.Data.TreeMap
import GuestMachine.Error
import GuestMachine.Memory.Page
import GuestMachine.Operation

/-! # The guest address space

Which pages are mapped and under which permissions. Mapping works on whole
pages and either covers its range completely or changes nothing. The contents
of the pages are the subject of `Memory.Access`.
-/

namespace GuestMachine

open Layout

/-- A maximal uniform stretch of the address space. -/
structure MemoryRegion where
  base : Address
  size : UInt64
  /-- Empty for a free region. -/
  flags : PageFlags
  mapped : Bool
  deriving Repr, DecidableEq

namespace MemoryRegion

/-- One past the last byte. -/
def finish (region : MemoryRegion) : Address :=
  region.base + region.size

def contains (region : MemoryRegion) (addr : Address) : Bool :=
  region.base ≤ addr && addr < region.finish

end MemoryRegion

/-- The mapped pages of one process, by page number. -/
structure AddressSpace where
  pages : Std.TreeMap Nat Page := {}
  /-- Whether any page was ever mapped, even if none is now. -/
  everMapped : Bool := false

namespace AddressSpace

def empty : AddressSpace := {}

instance : Inhabited AddressSpace := ⟨empty⟩

/-- `[addr, addr + len)` lies inside the address space. -/
def checkRange (addr : Address) (len : Nat) : Except MemoryError Unit :=
  if addr.toNat + len ≤ addressSpaceSize then .ok () else .error (.invalidAddress addr)

/-- First page and page count of a mapping request. The start has to be page
    aligned; the size is rounded up to pages and must not be zero. -/
def mappingRange (addr : Address) (size : UInt64) : Except MemoryError (Nat × Nat) :=
  if !isPageAligned addr then .error (.alignment addr (UInt64.ofNat pageSize))
  else if size = 0 then .error (.invalidSize size)
  else match pageAlignUp? size with
    | none => .error (.invalidSize size)
    | some size => do
        checkRange addr size.toNat
        return (addr.toNat / pageSize, size.toNat / pageSize)

def pageAddress (page : Nat) : Address :=
  UInt64.ofNat (page * pageSize)

/-- The lowest mapped page in `[first, stop)`. -/
def firstMapped? (space : AddressSpace) (first stop : Nat) : Option Nat :=
  space.pages.keys.find? fun page => first ≤ page && page < stop

/-- The lowest page without a mapping among the `count` pages from `first` on. -/
def firstUnmapped? (space : AddressSpace) (first : Nat) : Nat → Option Nat
  | 0 => none
  | count + 1 =>
      if space.pages.contains first then space.firstUnmapped? (first + 1) count else some first

end AddressSpace

/-- An operation on memory. -/
abbrev MemoryM := Operation MemoryError AddressSpace

namespace MemoryM

open AddressSpace

def modifyPages (f : Std.TreeMap Nat Page → Nat → Std.TreeMap Nat Page) (first count : Nat) :
    MemoryM Unit :=
  modify fun space => { space with pages := (List.range' first count).foldl f space.pages }

/-- Map zero-filled pages over `[addr, addr + size)`, none of which may be
    mapped yet. -/
def map (addr : Address) (size : UInt64) (flags : PageFlags) : MemoryM Unit := do
  let (first, count) ← Operation.ofExcept (mappingRange addr size)
  match (← get).firstMapped? first (first + count) with
  | some page => throw (.alreadyMapped (pageAddress page))
  | none =>
      modifyPages (fun pages page => pages.insert page (Page.zeroed flags)) first count
      modify fun space => { space with everMapped := true }

/-- Unmap `[addr, addr + size)`, all of which has to be mapped. -/
def unmap (addr : Address) (size : UInt64) : MemoryM Unit := do
  let (first, count) ← Operation.ofExcept (mappingRange addr size)
  match (← get).firstUnmapped? first count with
  | some page => throw (.invalidAddress (pageAddress page))
  | none => modifyPages (fun pages page => pages.erase page) first count

/-- Change the permissions of `[addr, addr + size)`, all of which has to be
    mapped. -/
def protect (addr : Address) (size : UInt64) (flags : PageFlags) : MemoryM Unit := do
  let (first, count) ← Operation.ofExcept (mappingRange addr size)
  match (← get).firstUnmapped? first count with
  | some page => throw (.invalidAddress (pageAddress page))
  | none => modifyPages (fun pages page => pages.modify page fun old => { old with flags }) first count

end MemoryM

namespace AddressSpace

/-- Memory after `MemoryM.map`. -/
def map (space : AddressSpace) (addr : Address) (size : UInt64) (flags : PageFlags) :
    Except MemoryError AddressSpace :=
  (MemoryM.map addr size flags).result space

/-- Memory after `MemoryM.unmap`. -/
def unmap (space : AddressSpace) (addr : Address) (size : UInt64) :
    Except MemoryError AddressSpace :=
  (MemoryM.unmap addr size).result space

/-- Memory after `MemoryM.protect`. -/
def protect (space : AddressSpace) (addr : Address) (size : UInt64) (flags : PageFlags) :
    Except MemoryError AddressSpace :=
  (MemoryM.protect addr size flags).result space

/-- The mapped page that holds `addr`. -/
def pageAt? (space : AddressSpace) (addr : Address) : Option Page :=
  space.pages[addr.toNat / pageSize]?

def isMapped (space : AddressSpace) (addr : Address) : Bool :=
  space.pages.contains (addr.toNat / pageSize)

def mappedSize (space : AddressSpace) : UInt64 :=
  UInt64.ofNat (space.pages.size * pageSize)

/-- Permissions of the page that holds `addr`. -/
def pageFlags? (space : AddressSpace) (addr : Address) : Option PageFlags :=
  (space.pageAt? addr).map Page.flags

/-- Mapped, but not for writing. -/
def isReadOnly (space : AddressSpace) (addr : Address) : Bool :=
  match space.pageFlags? addr with
  | some flags => !flags.write
  | none => false

/-- Mapped as guest code. -/
def isExecutable (space : AddressSpace) (addr : Address) : Bool :=
  match space.pageFlags? addr with
  | some flags => flags.execute
  | none => false

/-- Page `page` is mapped with exactly these permissions. -/
def hasFlags (space : AddressSpace) (flags : PageFlags) (page : Nat) : Bool :=
  match space.pages[page]? with
  | some found => found.flags == flags
  | none => false

/-- The lowest page from which every page below `page` has these permissions. -/
def runStart (space : AddressSpace) (flags : PageFlags) : Nat → Nat
  | 0 => 0
  | page + 1 => if space.hasFlags flags page then space.runStart flags page else page + 1

/-- The lowest page from `page` on that lacks these permissions, looking at
    no more than `limit` pages. -/
def runEnd (space : AddressSpace) (flags : PageFlags) : (limit page : Nat) → Nat
  | 0, page => page
  | limit + 1, page =>
      if space.hasFlags flags page then space.runEnd flags limit (page + 1) else page

private def regionOfPages (first stop : Nat) (flags : PageFlags) (mapped : Bool) : MemoryRegion :=
  { base := pageAddress first, size := UInt64.ofNat ((stop - first) * pageSize), flags, mapped }

/-- The region around `addr`: a maximal run of pages with equal permissions,
    or the whole gap between two mappings. Nothing lies outside the address
    space. -/
def query (space : AddressSpace) (addr : Address) : Option MemoryRegion :=
  if addressSpaceSize ≤ addr.toNat then none
  else
    let page := addr.toNat / pageSize
    match space.pages[page]? with
    | some found =>
        some (regionOfPages (space.runStart found.flags page)
          (space.runEnd found.flags space.pages.size page) found.flags true)
    | none =>
        let mapped := space.pages.keys
        let first := ((mapped.filter (· < page)).getLast?.map (· + 1)).getD 0
        let stop := (mapped.find? (page ≤ ·)).getD (addressSpaceSize / pageSize)
        some (regionOfPages first stop PageFlags.none false)

/-- The answer to a search for free space. -/
inductive AreaSearch where
  | found (addr : Address)
  | notFound
  /-- The region's first whole page lies after its end. The question makes no
      sense, which is noticed once a page was ever mapped. -/
  | invertedRegion
  deriving Repr, DecidableEq

/-- Sweep over the mapped pages of a region in ascending order: the first gap
    of `needed` pages at or after `cursor`, or the page after the last
    mapping. -/
def sweepGaps (needed : Nat) : (cursor : Nat) → (mapped : List Nat) → Nat × Bool
  | cursor, [] => (cursor, false)
  | cursor, page :: rest =>
      if needed ≤ page - cursor then (cursor, true) else sweepGaps needed (page + 1) rest

/-- The lowest page-aligned range of `size` unmapped bytes inside
    `[regionBase, regionBase + regionSize)`. -/
def findFreeArea (space : AddressSpace) (regionBase : Address) (regionSize size : UInt64) :
    AreaSearch :=
  match pageAlignUp? size, pageAlignUp? regionBase with
  | some size, some base =>
      if 2 ^ 64 ≤ regionBase.toNat + regionSize.toNat then .notFound
      else
        let needed := size.toNat / pageSize
        let first := base.toNat / pageSize
        let stop := (regionBase.toNat + regionSize.toNat) / pageSize
        if needed = 0 then .notFound
        else if stop < first && space.everMapped then .invertedRegion
        else
          let mapped := space.pages.keys.filter fun page => first ≤ page && page < stop
          let (cursor, gap) := sweepGaps needed first mapped
          if gap || needed ≤ stop - cursor then .found (pageAddress cursor) else .notFound
  | _, _ => .notFound

end AddressSpace

end GuestMachine
