import LogEgress.Text.Normal
import LogEgress.Url.Domain.Joining.Table

set_option autoImplicit false

/-! # Joiners

Two characters that do not show by themselves change how their neighbours are joined. A name may
have them only where they can be seen: after a virama, and the one that keeps letters apart also
between letters that would join.
-/

namespace LogEgress.Url.Domain

/-- How a character joins with its neighbours. -/
inductive Joining where
  | none
  /-- It joins with both. -/
  | dual
  /-- It joins with the one after it. -/
  | left
  /-- It joins with the one before it. -/
  | right
  /-- What is before it joins with what is after it. -/
  | transparent
  deriving DecidableEq, Repr

namespace Joining

/-- Reads how a character joins, as it is written in the table. -/
def read : List Char → Joining
  | [':', 'D'] => dual
  | [':', 'L'] => left
  | [':', 'R'] => right
  | [':', 'T'] => transparent
  | _ => none

/-- How characters join, by segments. -/
def table : Text.Segments Joining := .ofLines read lines

/-- How a character joins. -/
def ofChar (c : Char) : Joining := (table.valueAt? c).getD none

end Joining

/-- The character that joins. -/
def joiner : Char := '\u200d'

/-- The character that keeps from joining. -/
def nonJoiner : Char := '\u200c'

/-- Whether a character is a virama, which suppresses a vowel. -/
def isVirama (c : Char) : Bool := Text.Normal.combiningClass c = 9

/-- Whether the first of some characters that joining does not pass through joins in one of some
ways. -/
def reaches (ways : List Joining) (s : List Char) : Bool :=
  match s.find? fun c => Joining.ofChar c ≠ .transparent with
  | some c => Joining.ofChar c ∈ ways
  | none => false

/-- Whether each joiner stands where it can be seen. The first list holds the characters before
the second one, the last one first. -/
def hasGoodJoinersFrom : List Char → List Char → Bool
  | _, [] => true
  | before, c :: s =>
    (if c = joiner ∨ c = nonJoiner then
      match before with
      | [] => false
      | b :: _ => isVirama b ||
        (c = nonJoiner && reaches [.left, .dual] before && reaches [.right, .dual] s)
    else true) && hasGoodJoinersFrom (c :: before) s

/-- Whether each joiner of a label stands where it can be seen. -/
def hasGoodJoiners (label : List Char) : Bool := hasGoodJoinersFrom [] label

end LogEgress.Url.Domain
