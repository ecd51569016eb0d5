import GuestMachine.Memory.Access

/-! # Memory queries

What the guest learns about the region around an address: its extent, its
permissions, and what kind of memory the kernel takes it for.
-/

namespace GuestMachine

open Layout

/-- The kinds of memory that a query tells apart. -/
inductive MemoryState where
  | free
  | code
  | codeData
  | normal
  | stack
  | threadLocal
  /-- Outside the address space. -/
  | inaccessible
  deriving Repr, DecidableEq

def MemoryState.value : MemoryState → UInt32
  | free => 0
  | code => 3
  | codeData => 4
  | normal => 5
  | stack => 0xB
  | threadLocal => 0xC
  | inaccessible => 0x10

structure MemoryInfo where
  base : Address
  size : UInt64
  state : MemoryState
  attributes : UInt32 := 0
  permission : UInt32 := 0
  ipcCount : UInt32 := 0
  deviceCount : UInt32 := 0
  padding : UInt32 := 0
  deriving Repr, DecidableEq

namespace MemoryInfo

/-- The `size` bytes from `base` on. -/
private def within (addr base : Address) (size : UInt64) : Bool :=
  base ≤ addr && addr < base + size

/-- The kind of a mapped region, by the standard region its first byte is in. -/
def stateOf (base : Address) (flags : PageFlags) : MemoryState :=
  if within base codeBase codeSize then
    if flags.execute then .code else .codeData
  else if within base stackBase stackSize then .stack
  else if within base tlsBase tlsSize then .threadLocal
  else .normal

/-- Describe the region around `addr`. All that lies above the address space is
    one inaccessible region. -/
def query (memory : AddressSpace) (addr : Address) : MemoryInfo :=
  match memory.query addr with
  | some region =>
      if region.mapped then
        { base := region.base, size := region.size
          state := stateOf region.base region.flags, permission := region.flags.bits }
      else { base := region.base, size := region.size, state := .free }
  | none =>
      { base := UInt64.ofNat addressSpaceSize
        size := 0 - UInt64.ofNat addressSpaceSize
        state := .inaccessible }

private def wordBytes (value : UInt32) : List UInt8 :=
  Width.word.toBytes value.toBitVec

private def doubleBytes (value : UInt64) : List UInt8 :=
  Width.double.toBytes value.toBitVec

/-- The 40 bytes that guest code gets. -/
def encode (info : MemoryInfo) : List UInt8 :=
  doubleBytes info.base ++ doubleBytes info.size ++ wordBytes info.state.value
    ++ wordBytes info.attributes ++ wordBytes info.permission ++ wordBytes info.ipcCount
    ++ wordBytes info.deviceCount ++ wordBytes info.padding

end MemoryInfo

end GuestMachine
