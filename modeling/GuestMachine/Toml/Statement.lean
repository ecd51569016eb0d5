import GuestMachine.Toml.Number
import GuestMachine.Toml.Quoted
import GuestMachine.Toml.Value

/-! # TOML statements

A document is a list of statements, at most one to a line unless a value takes
more: an entry, the header of a table, or the header of a table in an array.
-/

namespace GuestMachine.Toml

open Scan

inductive Statement where
  /-- A dotted key and its value. -/
  | entry (path : List String) (value : Value)
  /-- Further entries belong to this table. -/
  | table (path : List String)
  /-- Further entries belong to a new table at the end of this array. -/
  | row (path : List String)
  deriving Repr, BEq

def isBare (c : Char) : Bool := c.isAlphanum || c == '_' || c == '-'

def simpleKey : Scan String :=
  basicString <|> literalString <|> (do return String.ofList (← span1 isBare))

/-- Keys and arrays in arrays may be this deep. -/
def maxDepth : Nat := 79

/-- A dotted key. Blanks do not matter around its parts. -/
def key : Scan (List String) := do
  let path ← separated (blanks *> simpleKey <* blanks) (char '.')
  guard (path.length ≤ maxDepth)
  return path

def boolean : Scan Bool :=
  (word "true" *> pure true) <|> (word "false" *> pure false)

def scalar : Scan Value :=
  (.string <$> string) <|> (.boolean <$> boolean)
    <|> (DateTime.dateTime *> pure .dateTime)
    <|> (Number.float *> pure .float)
    <|> (.integer <$> Number.integer)

/-- Values in brackets. A comma may follow the last one. -/
def array (item : Scan Value) : Scan (List Value) := do
  char '['
  let items ← Scan.optional (do
    let items ← separated (gap *> item <* gap) (char ',')
    let _ ← Scan.optional (char ',')
    return items)
  gap
  char ']'
  return items.getD []

/-- A key, an equals sign and a value. -/
def entry (item : Scan Value) : Scan (List String × Value) := do
  let path ← key
  char '='
  blanks
  return (path, ← item)

/-- Entries in braces, on one line. No comma may follow the last one. -/
def inlineTable (item : Scan Value) : Scan Value := do
  char '\x7b'
  let entries ← Scan.optional (separated (entry item <* blanks) (char ','))
  blanks
  char '\x7d'
  match Value.ofInline (entries.getD []) with
  | some table => return table
  | none => failure

/-- A value with at most so many brackets and braces around its parts. -/
def value : (depth : Nat) → Scan Value
  | 0 => scalar
  | depth + 1 => scalar <|> (.array <$> array (value depth)) <|> inlineTable (value depth)

def statement : Scan Statement :=
  (.row <$> (word "[[" *> key <* word "]]"))
    <|> (.table <$> (char '[' *> key <* char ']'))
    <|> (do
      let (path, value) ← entry (value maxDepth)
      return .entry path value)

/-- A line, with the statement on it if it holds one. -/
def line : Scan (Option Statement) := do
  blanks
  Scan.optional statement <* lineEnd

/-- The statements of a document. A mark of byte order may come first. -/
def statements? (text : List Char) : Option (List Statement) := do
  let text := if text.head? = some '\ufeff' then text.tail else text
  let rec go : (fuel : Nat) → Scan (List Statement)
    | 0 => pure []
    | fuel + 1 => do
        if (← peek?).isNone then return []
        return (← line).toList ++ (← go fuel)
  all? (go text.length) text

end GuestMachine.Toml
