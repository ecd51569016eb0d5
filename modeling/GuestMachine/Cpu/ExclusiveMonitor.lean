import GuestMachine.Memory.Access

/-! # Exclusive monitor

Load-exclusive and store-exclusive for all cores of one system. Each core holds
at most one reservation: the address, size and value of its last exclusive
read. An exclusive write commits only by compare-and-exchange against that
value, and a store by anyone else to a reserved byte breaks the reservation.
-/

namespace GuestMachine

/-- What a core observed with its last exclusive read. -/
structure Reservation where
  addr : Address
  size : UInt64
  value : UInt64
  deriving Repr, DecidableEq

/-- The reservation shares a byte with `[addr, addr + size)`. -/
def Reservation.overlaps (r : Reservation) (addr : Address) (size : UInt64) : Bool :=
  r.addr < saturatingAdd addr size && addr < saturatingAdd r.addr r.size

/-- One slot per core. -/
structure ExclusiveMonitor where
  reservations : List (Option Reservation)
  /-- Number of reservations held, so that stores need not look when it is
      zero. -/
  active : Nat := 0
  deriving Repr, DecidableEq

namespace ExclusiveMonitor

/-- A monitor for `cores` cores, none of which holds a reservation. -/
def ofCores (cores : Nat) : ExclusiveMonitor :=
  { reservations := List.replicate cores none }

def coreCount (monitor : ExclusiveMonitor) : Nat :=
  monitor.reservations.length

def reservation? (monitor : ExclusiveMonitor) (core : CoreIndex) : Option Reservation :=
  monitor.reservations[core]?.join

def isReserved (monitor : ExclusiveMonitor) (core : CoreIndex) : Bool :=
  (monitor.reservation? core).isSome

/-- Empty the slot of `core`. -/
def drop (monitor : ExclusiveMonitor) (core : CoreIndex) : ExclusiveMonitor :=
  if monitor.isReserved core then
    { reservations := monitor.reservations.set core none, active := monitor.active - 1 }
  else monitor

def clear (monitor : ExclusiveMonitor) (core : CoreIndex) : ExclusiveMonitor :=
  if monitor.active = 0 then monitor else monitor.drop core

/-- Reserve for `core`, in place of what it held. A core outside the monitor's
    range gets no reservation. -/
def reserve (monitor : ExclusiveMonitor) (core : CoreIndex) (r : Reservation) : ExclusiveMonitor :=
  if core < monitor.coreCount then
    { reservations := monitor.reservations.set core (some r)
      active := if monitor.isReserved core then monitor.active else monitor.active + 1 }
  else monitor

/-- Use up the reservation of `core`, and its value if it is for exactly this
    address and size. -/
def take (monitor : ExclusiveMonitor) (core : CoreIndex) (addr : Address) (size : UInt64) :
    Option UInt64 × ExclusiveMonitor :=
  match monitor.reservation? core with
  | none => (none, monitor)
  | some r =>
      (if r.addr = addr ∧ r.size = size then some r.value else none, monitor.drop core)

/-- A store by `writer` to the range breaks this reservation of `core`. -/
def isBroken (writer : Option CoreIndex) (addr : Address) (size : UInt64)
    (core : CoreIndex) (slot : Option Reservation) : Bool :=
  some core != writer && slot.any (·.overlaps addr size)

/-- Break every reservation that shares a byte with the range, except that of
    the writing core. -/
def breakOverlapping (monitor : ExclusiveMonitor) (writer : Option CoreIndex) (addr : Address)
    (size : UInt64) : ExclusiveMonitor :=
  let broken := (monitor.reservations.zipIdx.filter fun (slot, core) =>
    isBroken writer addr size core slot).length
  { reservations := monitor.reservations.mapIdx fun core slot =>
      if isBroken writer addr size core slot then none else slot
    active := monitor.active - broken }

/-- Read a value and reserve its bytes for `core`. -/
def exclusiveRead (monitor : ExclusiveMonitor) (memory : AddressSpace) (w : Width)
    (core : CoreIndex) (addr : Address) : BitVec w.bits × ExclusiveMonitor :=
  let value := memory.load w addr
  (value, monitor.reserve core
    { addr, size := w.size, value := UInt64.ofBitVec (value.setWidth 64) })

/-- Write `value` if `core` holds a reservation of exactly these bytes and
    memory still holds the value it observed. The reservation is used up either
    way; a committed write breaks those of other cores. -/
def exclusiveWrite (monitor : ExclusiveMonitor) (memory : AddressSpace) (w : Width)
    (core : CoreIndex) (addr : Address) (value : BitVec w.bits) :
    Bool × AddressSpace × ExclusiveMonitor :=
  match monitor.take core addr w.size with
  | (none, monitor) => (false, memory, monitor)
  | (some expected, monitor) =>
      match memory.storeIf w addr value (expected.toBitVec.setWidth w.bits) with
      | (true, memory) => (true, memory, monitor.breakOverlapping (some core) addr w.size)
      | (false, memory) => (false, memory, monitor)

/-- Run `store`, and break the reservations on `[addr, addr + size)` if it
    succeeds. Without reservations there is nothing to look for. -/
def storeAndBreak (monitor : ExclusiveMonitor) (memory : AddressSpace)
    (writer : Option CoreIndex) (addr : Address) (size : UInt64)
    (store : AddressSpace → Bool × AddressSpace) : Bool × AddressSpace × ExclusiveMonitor :=
  let (stored, memory) := store memory
  if monitor.active = 0 || !stored then (stored, memory, monitor)
  else (stored, memory, monitor.breakOverlapping writer addr size)

/-- A plain store by `core`: it breaks the reservations of other cores. -/
def guardedStore (monitor : ExclusiveMonitor) (memory : AddressSpace) (core : CoreIndex)
    (addr : Address) (size : UInt64) (store : AddressSpace → Bool × AddressSpace) :
    Bool × AddressSpace × ExclusiveMonitor :=
  monitor.storeAndBreak memory (some core) addr size store

/-- A store on the guest's behalf: it breaks the reservations of all cores. -/
def externalStore (monitor : ExclusiveMonitor) (memory : AddressSpace) (addr : Address)
    (size : UInt64) (store : AddressSpace → Bool × AddressSpace) :
    Bool × AddressSpace × ExclusiveMonitor :=
  monitor.storeAndBreak memory none addr size store

end ExclusiveMonitor

end GuestMachine
