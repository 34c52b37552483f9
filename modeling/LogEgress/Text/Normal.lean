import LogEgress.Text.Normal.Table
import LogEgress.Text.Segments
import LogEgress.Text.Split

set_option autoImplicit false

/-! # Composed texts

One text can be spelt in several ways: a letter with an accent is one character, or a letter and
a combining mark. `compose` gives the spelling with the fewest characters, the canonical
composition (NFC): characters are taken apart, marks are put into their canonical order, and each
mark is joined with the character before it where the two have a composite.
-/

namespace LogEgress.Text

namespace Normal

/-- The number that decimal digits stand for. -/
def decimal (s : List Char) : Nat := s.foldl (fun n c => 10 * n + (c.toNat - 48)) 0

/-- The table of combining classes. -/
def classTable : Segments Nat := .ofLines (fun s => decimal (s.drop 1)) classLines

/-- The combining class of a character. Marks of different classes do not touch each other, so
their order does not count; class zero is that of characters that stay in their place. -/
def combiningClass (c : Char) : Nat :=
  if c.toNat < 0x300 then 0 else (classTable.valueAt? c).getD 0

/-- The two parts of a composite. -/
abbrev Parts := Nat × Nat

/-- Reads the parts of a composite, as they are written in the table. -/
def readParts (s : List Char) : Parts :=
  match splitOn '+' (s.drop 1) with
  | [a, b] => (hexNumber a, hexNumber b)
  | _ => (0, 0)

/-- The composites. -/
def composites : Segments Parts := .ofLines readParts compositeLines

/-! ## Hangul -/

/-- The first syllable of Hangul. -/
def syllableBase : Nat := 0xac00

/-- The first of the 19 leading consonants. -/
def leadBase : Nat := 0x1100

/-- The first of the 21 vowels. -/
def vowelBase : Nat := 0x1161

/-- What precedes the first of the 27 trailing consonants. -/
def trailBase : Nat := 0x11a7

/-- The two parts of a syllable: a syllable without a trailing consonant and that consonant, or a
leading consonant and a vowel. -/
def syllableParts? (n : Nat) : Option Parts :=
  if syllableBase ≤ n ∧ n < syllableBase + 11172 then
    let i := n - syllableBase
    if i % 28 = 0 then some (leadBase + i / 588, vowelBase + i % 588 / 28)
    else some (n - i % 28, trailBase + i % 28)
  else none

/-- The syllable of two parts. -/
def syllable? (a b : Nat) : Option Nat :=
  if leadBase ≤ a ∧ a < leadBase + 19 ∧ vowelBase ≤ b ∧ b < vowelBase + 21 then
    some (syllableBase + ((a - leadBase) * 21 + (b - vowelBase)) * 28)
  else if syllableBase ≤ a ∧ a < syllableBase + 11172 ∧ (a - syllableBase) % 28 = 0 ∧
      trailBase < b ∧ b < trailBase + 28 then
    some (a + (b - trailBase))
  else none

/-! ## Taking apart -/

/-- The two parts of a character. -/
def parts? (c : Char) : Option Parts :=
  match syllableParts? c.toNat with
  | some p => some p
  | none => ((composites.segmentOf? c).filter (·.first = c.toNat)).map (·.value)

/-- The character of two parts. -/
def composite? (a b : Char) : Option Char :=
  match syllable? a.toNat b.toNat with
  | some n => some (Char.ofNat n)
  | none =>
    (composites.find? fun s => s.value = (a.toNat, b.toNat)).map fun s => Char.ofNat s.first

/-- A character taken apart. The number bounds how often its first part is taken apart again. -/
def takeApart : Nat → Char → List Char
  | 0, c => [c]
  | depth + 1, c => match parts? c with
    | some (a, b) => takeApart depth (Char.ofNat a) ++ [Char.ofNat b]
    | none => [c]

/-- No character has more parts than one more than this. -/
def maxDepth : Nat := 3

/-- A character with its combining class. -/
abbrev Classed := Nat × Char

/-- Puts a character in front of characters in canonical order: it passes marks of a lower
class. -/
def place (x : Classed) : List Classed → List Classed
  | [] => [x]
  | y :: s => if 0 < y.1 ∧ y.1 < x.1 then y :: place x s else x :: y :: s

/-- A text taken apart, with its marks in canonical order. -/
def decompose (s : List Char) : List Classed :=
  ((s.flatMap (takeApart maxDepth)).map fun c => (combiningClass c, c)).foldr place []

/-! ## Joining -/

/-- The text joined so far, from its end: the marks that were not joined with the base, the base,
which is the last character of class zero, and what comes before it. -/
structure Joined where
  done : List Char := []
  base : Option Char := none
  marks : List Classed := []

/-- The whole text from its end. -/
def Joined.all (j : Joined) : List Char := j.marks.map (·.2) ++ j.base.toList ++ j.done

/-- Whether nothing between the base and a character of a class keeps them apart. -/
def Joined.isFree (j : Joined) (cls : Nat) : Bool :=
  match j.marks with
  | [] => true
  | m :: _ => m.1 < cls

/-- Adds a character, joined with the base if it can be. -/
def Joined.add (j : Joined) (x : Classed) : Joined :=
  match j.base.bind fun b => if j.isFree x.1 then composite? b x.2 else none with
  | some c => { j with base := some c }
  | none =>
    if x.1 = 0 then { done := j.all, base := some x.2 }
    else { j with marks := x :: j.marks }

end Normal

/-- The canonical composition of a text. Texts without marks, as all before U+0300 are, stay as
they are. -/
def compose (s : List Char) : List Char :=
  if s.all (·.toNat < 0x300) then s
  else ((Normal.decompose s).foldl Normal.Joined.add {}).all.reverse

end LogEgress.Text
