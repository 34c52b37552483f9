import LogEgress.Text.Segments
import LogEgress.Url.Domain.Direction.Table

set_option autoImplicit false

/-! # Labels that are written from right to left

A name in which letters written from right to left occur must not change its look with the text
around it. `isOrdered` is the rule that each of its labels has to follow (the Bidi rule): a label
is written in one direction, begins with a letter and does not end with punctuation.
-/

namespace LogEgress.Url.Domain

/-- What a character does to the direction of a text. -/
inductive Direction where
  /-- A letter written from left to right. -/
  | left
  /-- A letter written from right to left. -/
  | right
  /-- A letter of Arabic and related scripts, written from right to left. -/
  | arabic
  /-- A digit. -/
  | number
  /-- A sign between digits. -/
  | numberSign
  /-- A unit before or after digits. -/
  | numberUnit
  /-- An Arabic digit. -/
  | arabicNumber
  /-- A sign between digits of any kind. -/
  | commonSign
  /-- A mark that follows the character before it. -/
  | mark
  /-- A character that does not show. -/
  | hidden
  /-- A character that takes the direction around it. -/
  | neutral
  /-- A character that labels of such names do not have. -/
  | other
  deriving DecidableEq, Repr

namespace Direction

/-- The direction with a short name. -/
def ofName (name : List Char) : Direction :=
  match String.ofList name with
  | "L" => left
  | "R" => right
  | "AL" => arabic
  | "EN" => number
  | "ES" => numberSign
  | "ET" => numberUnit
  | "AN" => arabicNumber
  | "CS" => commonSign
  | "NSM" => mark
  | "BN" => hidden
  | "ON" => neutral
  | _ => other

/-- The directions, by segments. -/
def table : Text.Segments Direction := .ofLines (fun s => ofName (s.drop 1)) lines

/-- The direction of a character. -/
def ofChar (c : Char) : Direction := (table.valueAt? c).getD .other

/-- The directions that a label in either direction may have inside. -/
def inner : List Direction :=
  [number, numberSign, numberUnit, commonSign, mark, hidden, neutral]

/-- Whether directions make a label from left to right, after its first letter. The list is that
of the label without the marks at its end. -/
def isLeftOrdered (ds : List Direction) : Bool :=
  ds.all (fun d => d = left || d ∈ inner) &&
    match ds.getLast? with
    | some d => d = left || d = number
    | none => true

/-- Whether directions make a label from right to left. It has digits of one kind only. -/
def isRightOrdered (ds : List Direction) : Bool :=
  ds.all (fun d => d ∈ [right, arabic, arabicNumber] || d ∈ inner) &&
    (match ds.getLast? with
      | some d => d ∈ [right, arabic, number, arabicNumber]
      | none => true) &&
    !(number ∈ ds && arabicNumber ∈ ds)

end Direction

/-- Whether a label makes the directions in its name count. -/
def hasRight (label : List Char) : Bool :=
  label.any fun c => 0x590 ≤ c.toNat && Direction.ofChar c ∈ [.right, .arabic, .arabicNumber]

/-- Whether a label keeps its look in every text. -/
def isOrdered (label : List Char) : Bool :=
  let ds := label.map Direction.ofChar
  let ds := (ds.reverse.dropWhile (· = .mark)).reverse
  match ds with
  | [] => label.isEmpty
  | .left :: _ => Direction.isLeftOrdered ds
  | .right :: _ | .arabic :: _ => Direction.isRightOrdered ds
  | _ => false

end LogEgress.Url.Domain
