import GuestMachine.Text.Hex
import GuestMachine.Toml.Scan

/-! # Numbers and dates

Integers of 64 bits in four bases, floats, and dates with times. Digits may be
grouped by single underscores. A float must not be too large to be finite,
unless it is negative.
-/

namespace GuestMachine.Toml

open Scan

namespace Number

def isDigit (c : Char) : Bool := '0' ≤ c && c ≤ '9'

/-- A digit in a base up to sixteen, of either case. -/
def isDigitIn (base : Nat) (c : Char) : Bool :=
  (Text.digitValue? c).any (· < base)

/-- The number that digits write, most significant first. -/
def ofDigits (base : Nat) (digits : List Char) : Nat :=
  digits.foldl (fun n c => n * base + (Text.digitValue? c).getD 0) 0

/-- Digits, with single underscores between some of them. -/
def digits (p : Char → Bool) : Scan (List Char) := do
  return (← satisfy p) :: (← many (satisfy p <|> (char '_' *> satisfy p)))

/-- Whether a minus is written. A plus may be. -/
def sign : Scan Bool := do
  return (← Scan.optional (oneOf ['+', '-'])) == some '-'

/-- A sign and digits, of which the first is zero only if it is alone. -/
def decimal : Scan (Bool × List Char) := do
  let negative ← sign
  let digits ← (char '0' *> pure ['0']) <|> digits isDigit
  return (negative, digits)

def signed (negative : Bool) (n : Nat) : Int :=
  if negative then -n else n

def fits (n : Int) : Bool := -2 ^ 63 ≤ n && n < 2 ^ 63

def based (letter : Char) (base : Nat) : Scan Int := do
  char '0'
  char letter
  return (ofDigits base (← digits (isDigitIn base)) : Nat)

def integer : Scan Int := do
  let n ← based 'x' 16 <|> based 'o' 8 <|> based 'b' 2 <|> (do
    let (negative, digits) ← decimal
    return signed negative (ofDigits 10 digits))
  guard (fits n)
  return n

/-- The smallest number that rounds to infinity: half a step above the largest
    finite double. -/
def infinite : Nat := 2 ^ 1024 - 2 ^ 970

/-- Whether `mantissa` times ten to the `exponent` is finite. Exponents that
    settle it by themselves are not computed with. -/
def isFinite (mantissa : Nat) (exponent : Int) : Bool :=
  let magnitude := (Nat.toDigits 10 mantissa).length + exponent
  if mantissa = 0 || magnitude ≤ 308 then true
  else if 310 < magnitude then false
  else mantissa * 10 ^ exponent.toNat < infinite * 10 ^ (-exponent).toNat

def exponent : Scan Int := do
  let _ ← oneOf ['e', 'E']
  let negative ← sign
  return signed negative (ofDigits 10 (← digits isDigit))

def fraction : Scan (List Char) := char '.' *> digits isDigit

/-- A decimal with a fraction, an exponent or both. -/
def decimalFloat : Scan Unit := do
  let (negative, whole) ← decimal
  let (fraction, exponent) ← (do return ([], ← exponent)) <|> (do
    return (← fraction, (← Scan.optional exponent).getD 0))
  guard (negative || isFinite (ofDigits 10 (whole ++ fraction)) (exponent - fraction.length))

def float : Scan Unit :=
  decimalFloat <|> (sign *> (word "inf" <|> word "nan"))

end Number

namespace DateTime

open Number (isDigit ofDigits)

def numeral : (length : Nat) → Scan (List Char)
  | 0 => pure []
  | length + 1 => do return (← satisfy isDigit) :: (← numeral length)

/-- A number of two digits within bounds. -/
def pair (low high : Nat) : Scan Nat := do
  let n := ofDigits 10 (← numeral 2)
  guard (low ≤ n ∧ n ≤ high)
  return n

def isLeap (year : Nat) : Bool :=
  year % 4 == 0 && (year % 100 != 0 || year % 400 == 0)

def daysIn (year month : Nat) : Nat :=
  if month = 2 then if isLeap year then 29 else 28
  else if month ∈ [4, 6, 9, 11] then 30
  else 31

def date : Scan Unit := do
  let year := ofDigits 10 (← numeral 4)
  char '-'
  let month ← pair 1 12
  char '-'
  let _ ← pair 1 (daysIn year month)

/-- Hours, minutes, seconds (with room for a leap second) and their fraction. -/
def time : Scan Unit := do
  let _ ← pair 0 23
  char ':'
  let _ ← pair 0 59
  char ':'
  let _ ← pair 0 60
  let _ ← Scan.optional (char '.' *> span1 isDigit)

def offset : Scan Unit :=
  discard (oneOf ['Z', 'z']) <|> (do
    let _ ← oneOf ['+', '-']
    let _ ← pair 0 23
    char ':'
    let _ ← pair 0 59)

/-- A date, a time, or both with an offset if there is one. -/
def dateTime : Scan Unit :=
  (do
    date
    let _ ← Scan.optional (do
      let _ ← oneOf ['T', 't', ' ']
      time
      Scan.optional offset))
  <|> time

end DateTime

end GuestMachine.Toml
