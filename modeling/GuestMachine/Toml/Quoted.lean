import GuestMachine.Toml.Number
import GuestMachine.Toml.Scan

/-! # Blanks, comments and strings

The small parts of a line. A string stands in double quotes, with escapes, or
in single quotes, without; in three quotes of its kind it may have many lines,
and the line break right after the opening quotes does not belong to it.
Control characters other than the tab are allowed nowhere.
-/

namespace GuestMachine.Toml

open Scan

def isBlank (c : Char) : Bool := c == ' ' || c == '\t'

/-- Characters of comments and strings. -/
def isPrintable (c : Char) : Bool :=
  c == '\t' || (' ' ≤ c && c != '\x7f')

def blanks : Scan Unit := discard (span isBlank)

def newline : Scan Unit := char '\n' <|> word "\r\n"

def comment : Scan Unit := do
  char '#'
  let _ ← span isPrintable

/-- What may follow the last part of a line. -/
def lineEnd : Scan Unit := do
  blanks
  let _ ← Scan.optional comment
  newline <|> endOfText

/-- Blanks, comments and line breaks. -/
def gap : Scan Unit :=
  discard (many (discard (span1 isBlank) <|> newline <|> (comment *> newline)))

/-- A character by its number, of exactly so many digits. Surrogates and numbers
    beyond the last character are refused. -/
def numbered (digits : Nat) : Scan Char := do
  let rec go : Nat → Scan (List Char)
    | 0 => pure []
    | n + 1 => do return (← satisfy (Number.isDigitIn 16)) :: (← go n)
  let n := Number.ofDigits 16 (← go digits)
  guard n.isValidChar
  return Char.ofNat n

def escape : Scan Char := do
  char '\\'
  match ← satisfy fun _ => true with
  | 'b' => return '\x08'
  | 'f' => return '\x0c'
  | 'n' => return '\n'
  | 'r' => return '\r'
  | 't' => return '\t'
  | '"' => return '"'
  | '\\' => return '\\'
  | 'u' => numbered 4
  | 'U' => numbered 8
  | _ => failure

def basicString : Scan String := do
  char '"'
  let text ← many (satisfy (fun c => isPrintable c && c != '"' && c != '\\') <|> escape)
  char '"'
  return String.ofList text

def literalString : Scan String := do
  char '\''
  let text ← span fun c => isPrintable c && c != '\''
  char '\''
  return String.ofList text

/-- Quotes inside a string in three quotes: one or two at a time. -/
def innerQuotes (quote : Char) : Scan (List Char) := do
  let run ← span1 (· == quote)
  guard (run.length < 3)
  return run

/-- The closing quotes, with up to two more that belong to the string. -/
def closingQuotes (quote : Char) : Scan (List Char) := do
  let run ← span1 (· == quote)
  guard (3 ≤ run.length ∧ run.length ≤ 5)
  return run.drop 3

/-- A backslash at the end of a line, which joins what follows to the line. -/
def lineJoin : Scan (List Char) := do
  char '\\'
  blanks
  newline
  let _ ← many (discard (span1 isBlank) <|> newline)
  return []

/-- A string in three quotes, with these parts besides quotes and line breaks.
    A line break is kept as a line feed. -/
def multiline (quote : Char) (part : Scan (List Char)) : Scan String := do
  word (String.ofList [quote, quote, quote])
  let _ ← Scan.optional newline
  let parts ← many (part <|> newline *> pure ['\n'] <|> innerQuotes quote)
  return String.ofList (parts.flatten ++ (← closingQuotes quote))

def multilineBasic : Scan String :=
  multiline '"' (span1 (fun c => isPrintable c && c != '"' && c != '\\')
    <|> lineJoin <|> (do return [← escape]))

def multilineLiteral : Scan String :=
  multiline '\'' (span1 fun c => isPrintable c && c != '\'')

def string : Scan String :=
  multilineBasic <|> basicString <|> multilineLiteral <|> literalString

end GuestMachine.Toml
