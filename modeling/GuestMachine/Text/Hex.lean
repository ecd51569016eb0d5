/-! # Hexadecimal text

Numbers are shown in lower-case base sixteen, either as short as possible or
padded with zeros to a fixed number of digits. Bytes take two digits each.
-/

namespace GuestMachine.Text

/-- The digits of `n` in base sixteen, lower case, without a leading zero. -/
def hexDigits (n : Nat) : String :=
  String.ofList (Nat.toDigits 16 n)

/-- `text` with `fill` put in front until it has `width` characters. -/
def padLeft (fill : Char) (width : Nat) (text : String) : String :=
  String.ofList (List.replicate (width - text.length) fill) ++ text

/-- The shortest form, as in `0x1f`. -/
def hex (n : Nat) : String :=
  "0x" ++ hexDigits n

/-- The form of at least `width` digits, as in `0x0000001f`. -/
def hexPadded (width n : Nat) : String :=
  "0x" ++ padLeft '0' width (hexDigits n)

/-- Eight digits, as wide as a 32-bit word. -/
def hexWord (n : UInt32) : String :=
  hexPadded 8 n.toNat

/-- Sixteen digits, as wide as an address. -/
def hexAddress (n : UInt64) : String :=
  hexPadded 16 n.toNat

/-- Two digits per byte. -/
def hexBytes (data : List UInt8) : String :=
  String.join (data.map fun byte => padLeft '0' 2 (hexDigits byte.toNat))

/-- The value of a digit of either case. -/
def digitValue? (c : Char) : Option Nat :=
  if '0' ≤ c ∧ c ≤ '9' then some (c.toNat - '0'.toNat)
  else if 'a' ≤ c ∧ c ≤ 'f' then some (c.toNat - 'a'.toNat + 10)
  else if 'A' ≤ c ∧ c ≤ 'F' then some (c.toNat - 'A'.toNat + 10)
  else none

/-- The number that digits write, most significant first. -/
def ofHexDigits? (digits : List Char) : Option Nat :=
  digits.foldlM (fun value c => (digitValue? c).map (16 * value + ·)) 0

/-- The bytes that pairs of digits write. -/
def bytesOfHex? : List Char → Option (List UInt8)
  | [] => some []
  | high :: low :: rest => do
      let byte ← ofHexDigits? [high, low]
      let bytes ← bytesOfHex? rest
      return UInt8.ofNat byte :: bytes
  | [_] => none

end GuestMachine.Text
