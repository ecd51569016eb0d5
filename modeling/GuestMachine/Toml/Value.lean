/-! # TOML values

What a document holds. Floats and date-times are recognised, but what they
stand for is not kept: nothing here is configured with one.

A table remembers how it came to be, because that decides what may still be
added to it.
-/

namespace GuestMachine.Toml

inductive TableKind where
  /-- It has a header of its own, or is the whole document. -/
  | header
  /-- It is only named on the way to another header. -/
  | implied
  /-- It is only named on the way to a dotted key. -/
  | dotted
  /-- It is written in braces, and complete. -/
  | inline
  deriving Repr, DecidableEq

inductive Value where
  | string (s : String)
  | integer (n : Int)
  | boolean (b : Bool)
  | float
  | dateTime
  | array (items : List Value)
  | table (kind : TableKind) (entries : List (String × Value))
  /-- One table for each header in double brackets. -/
  | tables (rows : List Value)
  deriving Repr, BEq, Inhabited

namespace Value

/-- Put `value` under `key`, in place of what is there. -/
def setEntry (entries : List (String × Value)) (key : String) (value : Value) :
    List (String × Value) :=
  match entries with
  | [] => [(key, value)]
  | (k, v) :: rest => if k = key then (key, value) :: rest else (k, v) :: setEntry rest key value

/-- Change the table at the end of a path. Tables that are missing on the way
    come into being. In an array of tables the way leads through the last one.
    A dotted path must not enter a table that is already written out. -/
def changeAt (dotted : Bool) (change : Value → Option Value) :
    (path : List String) → Value → Option Value
  | [], value => change value
  | key :: path, .table kind entries => do
      let child ← match entries.lookup key with
        | none => changeAt dotted change path (.table (if dotted then .dotted else .implied) [])
        | some (.tables rows) =>
            (rows.getLast?.bind (changeAt dotted change path)).map fun row =>
              .tables (rows.dropLast ++ [row])
        | some (.table .inline _) => none
        | some (.table .header entries) =>
            if dotted then none else changeAt dotted change path (.table .header entries)
        | some (.table kind entries) => changeAt dotted change path (.table kind entries)
        | some _ => none
      return .table kind (setEntry entries key child)
  | _, _ => none

/-- Add an entry. A table that came to be through dotted keys gets more entries
    only through dotted keys, any other only through plain ones. -/
def insertNew (plain : Bool) (key : String) (value : Value) : Value → Option Value
  | .table kind entries =>
      if (kind == .dotted) == plain || (entries.lookup key).isSome then none
      else some (.table kind (entries ++ [(key, value)]))
  | _ => none

/-- Add an entry under a dotted key, seen from this table. -/
def assign (table : Value) (path : List String) (value : Value) : Option Value := do
  let key ← path.getLast?
  changeAt true (insertNew (path.length == 1) key value) path.dropLast table

/-- Open the table of a header. It must not have been written out before. -/
def openTable (path : List String) (root : Value) : Option Value := do
  let key ← path.getLast?
  let change : Value → Option Value
    | .table kind entries =>
        match entries.lookup key with
        | none => some (.table kind (setEntry entries key (.table .header [])))
        | some (.table .implied inner) =>
            some (.table kind (setEntry entries key (.table .header inner)))
        | some _ => none
    | _ => none
  changeAt false change path.dropLast root

/-- Append a table to the array of a header in double brackets. -/
def openRow (path : List String) (root : Value) : Option Value := do
  let key ← path.getLast?
  let change : Value → Option Value
    | .table kind entries =>
        let rows := match entries.lookup key with
          | none => some []
          | some (.tables rows) => some rows
          | some _ => none
        rows.map fun rows =>
          .table kind (setEntry entries key (.tables (rows ++ [.table .header []])))
    | _ => none
  changeAt false change path.dropLast root

/-- The table in braces with these entries, in order of their writing. -/
def ofInline (entries : List (List String × Value)) : Option Value :=
  entries.foldlM (fun table (path, value) => table.assign path value) (.table .inline [])

end Value

end GuestMachine.Toml
