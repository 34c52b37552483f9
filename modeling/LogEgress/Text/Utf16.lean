import LogEgress.Text.Utf8

set_option autoImplicit false

/-! # UTF-16

Octets are read as UTF-16 two at a time, in either order. Two units that are surrogates, a leading
and a trailing one, stand for one character; every other surrogate, and an octet that is left over,
is read as U+FFFD.
-/

namespace LogEgress.Utf16

/-- The order of the two octets of a unit. -/
inductive ByteOrder where
  /-- The low octet comes first. -/
  | little
  /-- The high octet comes first. -/
  | big
  deriving DecidableEq, Repr

/-- The unit that two octets make up. -/
def unit (order : ByteOrder) (a b : UInt8) : Nat :=
  match order with
  | .little => b.toNat * 256 + a.toNat
  | .big => a.toNat * 256 + b.toNat

/-- Whether a unit is a leading surrogate. -/
def isLeading (u : Nat) : Bool := 0xd800 ≤ u && u < 0xdc00

/-- Whether a unit is a trailing surrogate. -/
def isTrailing (u : Nat) : Bool := 0xdc00 ≤ u && u < 0xe000

/-- The character of a leading and a trailing surrogate. -/
def ofSurrogates (u v : Nat) : Char := Char.ofNat (0x10000 + (u - 0xd800) * 0x400 + (v - 0xdc00))

/-- Reads octets that may follow a leading surrogate. -/
def decodeAfter (order : ByteOrder) : Option Nat → Octets → List Char
  | none, [] => []
  -- An octet that is left over counts as one with the surrogate before it.
  | some _, [] => ['\ufffd']
  | _, [_] => ['\ufffd']
  | leading, a :: b :: o =>
    let u := unit order a b
    let alone :=
      if isLeading u then decodeAfter order (some u) o
      else if isTrailing u then '\ufffd' :: decodeAfter order none o
      else Char.ofNat u :: decodeAfter order none o
    match leading with
    | none => alone
    | some l =>
      if isTrailing u then ofSurrogates l u :: decodeAfter order none o else '\ufffd' :: alone

/-- Reads octets as a text, with U+FFFD in place of what stands for no character. -/
def decodeLossy (order : ByteOrder) (o : Octets) : List Char := decodeAfter order none o

end LogEgress.Utf16
