import LogEgress.Text.Hex

set_option autoImplicit false

/-! # Properties of characters, by segments

Most properties of characters are the same for long runs of them. A table of segments says where
each run begins and what holds from there on. Tables are written as lines of text and looked
up by bisection.
-/

namespace LogEgress.Text

/-- A run of characters: its first code point, and what holds for the characters of the run. -/
structure Segment (α : Type) where
  first : Nat
  value : α

/-- Segments in the order of their characters; each ends where the next one begins. -/
abbrev Segments (α : Type) := Array (Segment α)

/-- The number that hexadecimal digits stand for. -/
def hexNumber (s : List Char) : Nat := s.foldl (fun n c => 16 * n + (hexDigit? c).getD 0) 0

namespace Segments

variable {α : Type}

/-- Reads a segment: a code point in hexadecimal, and what is written directly after it. -/
def readSegment (value : List Char → α) (s : List Char) : Segment α :=
  let digits := s.takeWhile fun c => (hexDigit? c).isSome
  ⟨hexNumber digits, value (s.drop digits.length)⟩

/-- Reads the segments in some lines, one blank between neighbours. -/
def ofLines (value : List Char → α) (lines : List String) : Segments α :=
  ((lines.flatMap fun l => l.splitOn " ").map fun word => readSegment value word.toList).toArray

/-- The place of the last segment that begins at a code point or before it, among the segments
from one place on and before another. -/
def search (t : Segments α) (n lo hi : Nat) : Nat :=
  if lo + 1 < hi then
    let mid := (lo + hi) / 2
    match t[mid]? with
    | some s => if s.first ≤ n then search t n mid hi else search t n lo mid
    | none => search t n lo mid
  else lo
termination_by hi - lo

/-- The segment that a character is in. None begins before the first segment. -/
def segmentOf? (t : Segments α) (c : Char) : Option (Segment α) :=
  t[search t c.toNat 0 t.size]?.filter (·.first ≤ c.toNat)

/-- What holds for a character. -/
def valueAt? (t : Segments α) (c : Char) : Option α := (t.segmentOf? c).map (·.value)

end Segments

end LogEgress.Text
