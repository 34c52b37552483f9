import LogEgress.Text.Normal
import LogEgress.Url.Domain.Direction
import LogEgress.Url.Domain.Joining
import LogEgress.Url.Domain.Mapping
import LogEgress.Url.Domain.Mark
import LogEgress.Url.Domain.Punycode
import LogEgress.Url.Percent

set_option autoImplicit false

/-! # Domain names

A domain name is folded to the form in which names are compared, and each of its labels is written
in ASCII. A label that begins with the mark `xn--` is in ASCII already; it stands for the label
that was written so, and has to be one that could be.
-/

namespace LogEgress.Url.Domain

/-- The ASCII characters that a domain name may not have. -/
def isForbidden (c : Char) : Bool :=
  c.toNat ≤ 0x20 || c.toNat == 0x7f ||
  c ∈ ['%', '#', '/', ':', '<', '>', '?', '@', '[', '\\', ']', '^', '|']

/-- The form of a name in which names are compared; none if it has a character that no name
has. -/
def fold? (name : List Char) : Option (List Char) := do
  let folded := Text.compose (← name.mapM mapChar?).flatten
  if folded.any isForbidden then none else some folded

/-- The mark of a label that is written in ASCII. -/
def aceMark : List Char := ['x', 'n', '-', '-']

/-- Whether a label begins like one that is written in ASCII. -/
def isAce (label : List Char) : Bool := label.take 4 == aceMark

/-- Whether a text is in ASCII. -/
def isAscii (s : List Char) : Bool := s.all (·.toNat < 128)

/-- The greatest length of a label that is written in ASCII, or that is to be. -/
def maxUnicodeLabel : Nat := 1000

/-- The greatest length of what follows the mark of a label in ASCII. -/
def maxAceLabel : Nat := 2000

/-- The label that a label of a folded name stands for: itself, unless it has the mark. -/
def unicodeLabel? (label : List Char) : Option (List Char) :=
  if isAce label then
    let written := label.drop 4
    if isAscii written && written.length ≤ maxAceLabel && written.getLast? ≠ some '-' then do
      let decoded ← Punycode.decode? written
      -- A folded label stays as it is when it is folded again.
      if decoded ≠ [] && decoded.all isMapped && Text.compose decoded == decoded then some decoded
      else none
    else none
  else some label

/-- Whether a label may stand in a name, whatever the others are. -/
def isValidLabel (label : List Char) : Bool :=
  isAscii label || (label.length ≤ maxUnicodeLabel && !(label.take 1).any isMark &&
    hasGoodJoiners label)

/-- Whether labels make a name. -/
def isValidName (labels : List (List Char)) : Bool :=
  labels.all isValidLabel && (!labels.any hasRight || labels.all isOrdered)

/-- A label in ASCII. -/
def asciiLabel (label : List Char) : List Char :=
  if isAscii label then label else aceMark ++ Punycode.encode label

/-- A domain name in ASCII. -/
def toAscii? (name : List Char) : Option (List Char) := do
  let labels ← (Text.splitOn '.' (← fold? name)).mapM unicodeLabel?
  if isValidName labels then some (Text.join ['.'] (labels.map asciiLabel)) else none

end LogEgress.Url.Domain
