import LogEgress.Text.Segments
import LogEgress.Text.Split
import LogEgress.Url.Domain.Mapping.Table

set_option autoImplicit false

/-! # Mapping the characters of a domain name

Names that look alike to their readers are mapped to one form: letters lose their case, variants
of a character become the plain one, and what does not show is left out. Characters that no name
may have make it invalid.
-/

namespace LogEgress.Url.Domain

namespace Mapping

/-- How the characters of a segment are mapped. -/
inductive Rule where
  /-- Each stays as it is. -/
  | keep
  /-- No name has them. -/
  | reject
  /-- They are left out. -/
  | leaveOut
  /-- Each pair of neighbours is mapped to its second. -/
  | pairs
  /-- The first is mapped to a code point, and the others to those that follow it. -/
  | run (form : Nat)
  /-- Each is mapped to the same text. -/
  | text (form : List Char)
  deriving DecidableEq, Repr

/-- Reads a rule, as it is written in the table. -/
def readRule : List Char → Rule
  | [] => .keep
  | '!' :: _ => .reject
  | '~' :: _ => .leaveOut
  | '*' :: _ => .pairs
  | _ :: s => match (Text.splitOn '+' s).map Text.hexNumber with
    | [n] => .run n
    | ns => .text (ns.map Char.ofNat)

/-- The rules, by segments. -/
def table : Text.Segments Rule := .ofLines readRule lines

/-- The form of the character that stands at a place in its segment, counted from zero; none if
no name has it. -/
def Rule.apply? (place : Nat) (c : Char) : Rule → Option (List Char)
  | .keep => some [c]
  | .reject => none
  | .leaveOut => some []
  | .pairs => some [if place % 2 = 0 then Char.ofNat (c.toNat + 1) else c]
  | .run n => some [Char.ofNat (n + place)]
  | .text s => some s

end Mapping

/-- The form of a character; none if no name has it. -/
def mapChar? (c : Char) : Option (List Char) :=
  if c.toNat < 128 then some [c.toLower]
  else (Mapping.table.segmentOf? c).bind fun s => s.value.apply? (c.toNat - s.first) c

/-- Whether a character is its own form. -/
def isMapped (c : Char) : Bool := mapChar? c = some [c]

end LogEgress.Url.Domain
