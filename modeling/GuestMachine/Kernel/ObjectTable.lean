import GuestMachine.Error

/-! # Object tables

Kernel objects of one kind, numbered in the order of their creation. Removing
an object takes it off the list of known numbers, but whoever still holds it
can go on using it.
-/

namespace GuestMachine

structure ObjectSlot (α : Type) where
  object : α
  /-- Found under its number. -/
  listed : Bool := true
  deriving Repr, DecidableEq

structure ObjectTable (α : Type) where
  firstId : UInt64
  /-- All objects ever created, in order. -/
  slots : Array (ObjectSlot α) := #[]
  deriving Repr, DecidableEq

namespace ObjectTable

instance : Inhabited (ObjectTable α) := ⟨{ firstId := 0 }⟩

/-- Number of the object in slot `index`. -/
def idOf (table : ObjectTable α) (index : Nat) : UInt64 :=
  table.firstId + UInt64.ofNat index

/-- The slot of the object with number `id`. -/
def indexOf (table : ObjectTable α) (id : UInt64) : Nat :=
  (id - table.firstId).toNat

def nextId (table : ObjectTable α) : UInt64 :=
  table.idOf table.slots.size

def insert (table : ObjectTable α) (object : α) : ObjectTable α :=
  { table with slots := table.slots.push { object } }

/-- The object with this number, on the list or not. -/
def find? (table : ObjectTable α) (id : UInt64) : Option α :=
  table.slots[table.indexOf id]?.map ObjectSlot.object

/-- The object found under this number. -/
def get? (table : ObjectTable α) (id : UInt64) : Option α :=
  (table.slots[table.indexOf id]?.filter ObjectSlot.listed).map ObjectSlot.object

/-- Change an object, on the list or not. -/
def modify (table : ObjectTable α) (id : UInt64) (f : α → α) : ObjectTable α :=
  { table with
    slots := table.slots.modify (table.indexOf id) fun slot => { slot with object := f slot.object } }

def remove (table : ObjectTable α) (id : UInt64) : ObjectTable α :=
  { table with
    slots := table.slots.modify (table.indexOf id) fun slot => { slot with listed := false } }

/-- The listed objects with their numbers, ascending. -/
def entries (table : ObjectTable α) : List (UInt64 × α) :=
  table.slots.toList.zipIdx.filterMap fun (slot, index) =>
    if slot.listed then some (table.idOf index, slot.object) else none

def ids (table : ObjectTable α) : List UInt64 :=
  table.entries.map (·.1)

def count (table : ObjectTable α) : Nat :=
  table.entries.length

end ObjectTable

end GuestMachine
