/-! # Scanning text

A scanner reads from the front of a text and leaves the rest, or fails and
leaves everything. Alternatives are tried in order on the same text.
-/

namespace GuestMachine.Toml

abbrev Scan := StateT (List Char) Option

namespace Scan

def peek? : Scan (Option Char) := fun text => some (text.head?, text)

/-- The next character, if it satisfies `p`. -/
def satisfy (p : Char → Bool) : Scan Char := fun
  | c :: rest => if p c then some (c, rest) else none
  | [] => none

/-- Exactly this character. -/
def char (c : Char) : Scan Unit := discard (satisfy (· == c))

/-- Exactly these characters, one after the other. -/
def word (w : String) : Scan Unit := w.toList.forM char

def oneOf (cs : List Char) : Scan Char := satisfy cs.contains

/-- The longest stretch of characters that satisfy `p`, maybe none. -/
def span (p : Char → Bool) : Scan (List Char) := fun text =>
  some (text.takeWhile p, text.dropWhile p)

/-- The longest such stretch, of at least one character. -/
def span1 (p : Char → Bool) : Scan (List Char) := do
  return (← satisfy p) :: (← span p)

def endOfText : Scan Unit := fun
  | [] => some ((), [])
  | _ => none

def optional (item : Scan α) : Scan (Option α) :=
  some <$> item <|> pure none

/-- As many items as follow each other, at most `fuel`. -/
def manyUpTo (item : Scan α) : (fuel : Nat) → Scan (List α)
  | 0 => pure []
  | fuel + 1 => (do return (← item) :: (← manyUpTo item fuel)) <|> pure []

/-- As many items as follow each other. An item takes a character at least, so
    there are no more of them than characters. -/
def many (item : Scan α) : Scan (List α) := fun text =>
  manyUpTo item text.length text

/-- Items with a separator between any two. -/
def separated (item : Scan α) (separator : Scan Unit) : Scan (List α) := do
  return (← item) :: (← many (separator *> item))

/-- Read a whole text. -/
def all? (item : Scan α) (text : List Char) : Option α :=
  ((item <* endOfText) text).map (·.1)

end Scan

end GuestMachine.Toml
