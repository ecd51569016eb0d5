import GuestMachine.Toml.Value

/-! # Reading records

Reading typed values from a document. A record is written as a table, whose
unknown keys do not matter, or as an array with its fields in order. A field
that is missing keeps its default; one that is there has to be of its type.
-/

namespace GuestMachine.Toml

/-- The parts of a record. -/
inductive Fields where
  | named (entries : List (String × Value))
  | ordered (items : List Value)

/-- The parts of a value. A date-time has parts, but no record knows any of
    them. -/
def Value.fields? : Value → Option Fields
  | .table _ entries => some (.named entries)
  | .dateTime => some (.named [])
  | .array items => some (.ordered items)
  | .tables rows => some (.ordered rows)
  | _ => none

/-- The part with this name, or at this place. -/
def Fields.find? (fields : Fields) (place : Nat) (name : String) : Option Value :=
  match fields with
  | named entries => entries.lookup name
  | ordered items => items[place]?

/-- Read a part, if it is there. -/
def Fields.get (fields : Fields) (place : Nat) (name : String) (read : Value → Option α)
    (default : α) : Option α :=
  match fields.find? place name with
  | some value => read value
  | none => some default

namespace Value

def bool? : Value → Option Bool
  | boolean b => some b
  | _ => none

def text? : Value → Option String
  | string s => some s
  | _ => none

/-- An integer from `low` to `high`. -/
def between? (low high : Int) : Value → Option Int
  | integer n => if low ≤ n ∧ n ≤ high then some n else none
  | _ => none

def uint64? (value : Value) : Option UInt64 :=
  (value.between? 0 (2 ^ 64 - 1)).map fun n => UInt64.ofNat n.toNat

def uint32? (value : Value) : Option UInt32 :=
  (value.between? 0 (2 ^ 32 - 1)).map fun n => UInt32.ofNat n.toNat

def int32? (value : Value) : Option Int32 :=
  (value.between? (-2 ^ 31) (2 ^ 31 - 1)).map Int32.ofInt

/-- One of several things, by its name. The name is written as a string, or as
    the only key of a table whose value is empty. -/
def choice? (options : List α) (name : α → String) (value : Value) : Option α :=
  let named (s : String) : Option α := options.find? (name · == s)
  match value with
  | string s => named s
  | table _ [(s, array [])] => named s
  | table _ [(s, table _ [])] => named s
  | _ => none

end Value

end GuestMachine.Toml
