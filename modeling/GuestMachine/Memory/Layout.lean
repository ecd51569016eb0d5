import GuestMachine.Basic

/-! # Address space layout

A 39-bit application address space in 4 KiB pages, and the regions the kernel
hands out of it.
-/

namespace GuestMachine.Layout

def pageBits : Nat := 12

/-- Bytes in a page. -/
def pageSize : Nat := 2 ^ pageBits

/-- One past the last address (512 GiB). -/
def addressSpaceSize : Nat := 2 ^ 39

/-- Application image. -/
def codeBase : Address := 0x08000000
def codeSize : UInt64 := 0x78000000

/-- Memory the application grows and shrinks as a whole. -/
def heapBase : Address := 0x80000000
def heapSize : UInt64 := 0x180000000

/-- Heap sizes are multiples of this. -/
def heapAlignment : UInt64 := 0x200000

def aliasBase : Address := 0x200000000
def aliasSize : UInt64 := 0x1000000000

/-- Thread stacks. -/
def stackBase : Address := 0x1200000000
def stackSize : UInt64 := 0x80000000

/-- Thread-local storage pages. -/
def tlsBase : Address := 0x1280000000
def tlsSize : UInt64 := 0x10000000

/-- Bytes of thread-local storage owned by each thread. -/
def tlsEntrySize : UInt64 := 0x200

end GuestMachine.Layout
