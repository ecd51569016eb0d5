import GuestMachine.Memory.AddressSpace
import GuestMachine.Memory.Width

/-! # Guest memory contents

Block accesses check every page first and then move all bytes or none. The
accesses of a fixed width never fail loudly: a read that is refused yields
zero, and a refused write changes nothing.
-/

namespace GuestMachine

open Layout

namespace AddressSpace

/-- The part of an access that lies on one page. -/
structure Chunk where
  page : Nat
  /-- Where the part begins inside its page. -/
  offset : Nat
  len : Nat
  /-- How many bytes of the access come before the part. -/
  pos : Nat
  deriving Repr, DecidableEq

/-- The bytes of `[addr, addr + len)` from position `pos` on, split at page
    boundaries. -/
def chunksFrom (addr len pos : Nat) : List Chunk :=
  if pos < len then
    let offset := (addr + pos) % pageSize
    let count := min (pageSize - offset) (len - pos)
    { page := (addr + pos) / pageSize, offset, len := count, pos } ::
      chunksFrom addr len (pos + count)
  else []
termination_by len - pos
decreasing_by
  have : (addr + pos) % pageSize < pageSize := Nat.mod_lt _ (by decide)
  omega

/-- `[addr, addr + len)`, split at page boundaries. -/
def chunks (addr len : Nat) : List Chunk :=
  chunksFrom addr len 0

/-- Why `chunk` cannot be used, naming its first byte. -/
def chunkFault? (space : AddressSpace) (required : PageFlags) (kind : AccessKind)
    (chunk : Chunk) : Option MemoryError :=
  let fault := UInt64.ofNat (chunk.page * pageSize + chunk.offset)
  match space.pages[chunk.page]? with
  | none => some (.invalidAddress fault)
  | some page =>
      if page.flags.contains required then none else some (.accessViolation fault kind)

/-- Every byte of the range lies on a page with the required permissions. The
    lowest offending byte is named otherwise. -/
def validate (space : AddressSpace) (addr : Address) (len : Nat) (required : PageFlags)
    (kind : AccessKind) : Except MemoryError Unit := do
  checkRange addr len
  match (chunks addr.toNat len).findSome? (space.chunkFault? required kind) with
  | some error => .error error
  | none => .ok ()

/-- What memory holds in `chunk`, nothing on an unmapped page. -/
def chunkBytes (space : AddressSpace) (chunk : Chunk) : List UInt8 :=
  match space.pages[chunk.page]? with
  | some page => page.slice chunk.offset chunk.len
  | none => []

/-- Memory holds in `chunk` what `expected` holds at its position. -/
def chunkMatches (space : AddressSpace) (expected : List UInt8) (chunk : Chunk) : Bool :=
  space.chunkBytes chunk == (expected.drop chunk.pos).take chunk.len

/-- Write `data` page by page from `addr` on, skipping unmapped pages. -/
def putBytes (pages : Std.TreeMap Nat Page) (addr : Nat) (data : List UInt8) :
    Std.TreeMap Nat Page :=
  match data with
  | [] => pages
  | first :: rest =>
      let room := pageSize - addr % pageSize
      putBytes
        (pages.modify (addr / pageSize) fun page =>
          page.setBytes (addr % pageSize) ((first :: rest).take room))
        (addr + room) ((first :: rest).drop room)
termination_by data.length
decreasing_by
  have : addr % pageSize < pageSize := Nat.mod_lt _ (by decide)
  simp only [List.length_drop, List.length_cons]
  omega

/-- A buffer with `data` in it from `pos` on. -/
def splice (buffer : List UInt8) (pos : Nat) (data : List UInt8) : List UInt8 :=
  buffer.take pos ++ data ++ buffer.drop (pos + data.length)

/-- Fill the caller's buffer with what memory holds from `addr` on. The buffer is
    the state; memory is only looked at. -/
def readInto (space : AddressSpace) (addr : Address) : Operation MemoryError (List UInt8) Unit := do
  let len := (← get).length
  Operation.ofExcept (space.validate addr len PageFlags.r .read)
  modify fun buffer => (chunks addr.toNat len).foldl
    (fun buffer chunk => splice buffer chunk.pos (space.chunkBytes chunk)) buffer

/-- Read `len` bytes into a new buffer. -/
def read (space : AddressSpace) (addr : Address) (len : Nat) : Except MemoryError (List UInt8) :=
  (space.readInto addr).result (List.replicate len 0)

end AddressSpace

namespace MemoryM

open AddressSpace

/-- Write `data`, if every byte of it may be written. -/
def write (addr : Address) (data : List UInt8) : MemoryM Unit := do
  Operation.ofExcept ((← get).validate addr data.length PageFlags.w .write)
  modify fun space => { space with pages := putBytes space.pages addr.toNat data }

/-- Replace `expected` by `new` if that is what memory holds, and say whether
    it was. -/
def compareExchange (addr : Address) (expected new : List UInt8) : MemoryM Bool := do
  if expected.length ≠ new.length then throw (.invalidSize (UInt64.ofNat new.length))
  else
    let space ← get
    Operation.ofExcept (space.validate addr new.length PageFlags.rw .write)
    if (chunks addr.toNat new.length).all (space.chunkMatches expected) then
      modify fun space => { space with pages := putBytes space.pages addr.toNat new }
      return true
    else return false

end MemoryM

namespace AddressSpace

/-- Memory after `MemoryM.write`. -/
def write (space : AddressSpace) (addr : Address) (data : List UInt8) :
    Except MemoryError AddressSpace :=
  (MemoryM.write addr data).result space

/-- The answer and memory after `MemoryM.compareExchange`. -/
def compareExchange (space : AddressSpace) (addr : Address) (expected new : List UInt8) :
    Except MemoryError (Bool × AddressSpace) :=
  (MemoryM.compareExchange addr expected new).outcome space

/-- Write `data` and say whether that was allowed. -/
def writeBlock (space : AddressSpace) (addr : Address) (data : List UInt8) :
    Bool × AddressSpace :=
  (MemoryM.write addr data).attempt space

/-- A compare-exchange that counts a refusal as a mismatch. -/
def compareExchangeBlock (space : AddressSpace) (addr : Address) (expected new : List UInt8) :
    Bool × AddressSpace :=
  match MemoryM.compareExchange addr expected new space with
  | .ok equal after => (equal, after)
  | .error _ after => (false, after)

/-- Read one value; zero if refused. -/
def load (space : AddressSpace) (w : Width) (addr : Address) : BitVec w.bits :=
  match space.read addr w.bytes with
  | .ok data => w.ofBytes data
  | .error _ => 0

def store (space : AddressSpace) (w : Width) (addr : Address) (value : BitVec w.bits) :
    Bool × AddressSpace :=
  space.writeBlock addr (w.toBytes value)

/-- Write `value` if memory still holds `expected`. -/
def storeIf (space : AddressSpace) (w : Width) (addr : Address) (value expected : BitVec w.bits) :
    Bool × AddressSpace :=
  space.compareExchangeBlock addr (w.toBytes expected) (w.toBytes value)

end AddressSpace

end GuestMachine
