import LogEgress.Text.Hex
import LogEgress.Text.Utf8

set_option autoImplicit false

/-! # Percent-encoding

An octet that may not stand in some part of a URL is written as `%` and two hexadecimal digits.
Which ASCII characters are written so depends on the part; all others are, always.
-/

namespace LogEgress.Url

/-- Controls. -/
def isControl (c : Char) : Bool := c.toNat < 0x20 || c.toNat == 0x7f

/-- What is encoded in a fragment. -/
def inFragmentSet (c : Char) : Bool := isControl c || c ∈ [' ', '"', '<', '>', '`']

/-- What is encoded in a path. -/
def inPathSet (c : Char) : Bool := inFragmentSet c || c ∈ ['#', '?', '\x7b', '\x7d']

/-- What is encoded in a user name or password. -/
def inUserinfoSet (c : Char) : Bool :=
  inPathSet c || c ∈ ['/', ':', ';', '=', '@', '[', '\\', ']', '^', '|']

/-- What is encoded in a query. -/
def inQuerySet (c : Char) : Bool := isControl c || c ∈ [' ', '"', '#', '<', '>']

/-- What is encoded in the query of a special scheme. -/
def inSpecialQuerySet (c : Char) : Bool := inQuerySet c || c == '\''

/-- An octet in its encoded form. -/
def encodeOctet (b : UInt8) : List Char :=
  ['%', Text.hexUpper (b.toNat / 16), Text.hexUpper (b.toNat % 16)]

/-- A character in its encoded form. -/
def encodeChar (c : Char) : List Char := (utf8 [c]).flatMap encodeOctet

/-- Encodes the characters of a set and all beyond ASCII. -/
def percentEncode (inSet : Char → Bool) (s : List Char) : List Char :=
  s.flatMap fun c => if inSet c || 0x80 ≤ c.toNat then encodeChar c else [c]

/-- The number of an octet that is a hexadecimal digit. -/
def hexOctet? (b : UInt8) : Option Nat := Text.hexDigit? (Char.ofNat b.toNat)

/-- The octets that an encoded form stands for; a `%` without two digits stands for itself. -/
def percentDecode : Octets → Octets
  | [] => []
  | [a] => [a]
  | [a, b] => [a, b]
  | a :: b :: c :: rest =>
    if a = 37 then
      match hexOctet? b, hexOctet? c with
      | some x, some y => UInt8.ofNat (x * 16 + y) :: percentDecode rest
      | _, _ => a :: percentDecode (b :: c :: rest)
    else a :: percentDecode (b :: c :: rest)

end LogEgress.Url
