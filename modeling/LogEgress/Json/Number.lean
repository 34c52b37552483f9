import LogEgress.Text.Integer

set_option autoImplicit false

/-! # Numbers in binary floating point

A number with a fraction or an exponent, or with too many digits, is read as a binary64 number: its
leading digits, as far as they make a 64-bit number, times a power of ten. Both factors and their
product are rounded, so the greatest numbers that can be read are not quite those that binary64
has.
-/

namespace LogEgress.Json

/-- A number as a whole number times a power of ten. -/
structure Scaled where
  significand : Nat
  exponent : Int
  deriving DecidableEq, Repr

namespace Scaled

/-- A number with one more digit, if it still has 64 bits. -/
def append? (n : Nat) (c : Char) : Option Nat :=
  let m := 10 * n + (c.toNat - 48)
  if m ≤ Text.greatest64 then some m else none

/-- Reads digits after a number already read: the number, and how many digits are left over. -/
def readWhole : Nat → List Char → Nat × Nat
  | n, [] => (n, 0)
  | n, c :: s => match append? n c with
    | some m => readWhole m s
    | none => (n, s.length + 1)

/-- Reads the digits of a fraction after a number already read: the number, and how many digits
were read. -/
def readFraction : Nat → List Char → Nat × Nat
  | n, [] => (n, 0)
  | n, c :: s => match append? n c with
    | some m =>
      let (r, k) := readFraction m s
      (r, k + 1)
    | none => (n, 0)

/-- An exponent beyond this counts as this. -/
def greatestExponent : Nat := 0x80000000

/-- Reads the digits of an exponent. -/
def readExponent (s : List Char) : Nat :=
  (s.filter Char.isDigit).foldl (fun n c => min greatestExponent (10 * n + (c.toNat - 48))) 0

/-- The exponent that is written at the end of a number, if there is one. -/
def writtenExponent : List Char → Int
  | _ :: '-' :: s => -(readExponent s : Int)
  | _ :: s => readExponent s
  | [] => 0

/-- Reads a number as it is written. -/
def ofLiteral (literal : List Char) : Scaled :=
  let s := literal.dropWhile (· = '-')
  let (n, dropped) := readWhole 0 (s.takeWhile Char.isDigit)
  match s.dropWhile Char.isDigit with
  | '.' :: s =>
    let (n, places) := readFraction n (s.takeWhile Char.isDigit)
    ⟨n, (dropped : Int) - places + writtenExponent (s.dropWhile Char.isDigit)⟩
  | s => ⟨n, dropped + writtenExponent s⟩

/-- The number with at most 53 significant bits that is nearest to a number; of two that are equally
near it is the one whose last bit is zero. -/
def nearest (n : Nat) : Nat :=
  let size := n.log2 - 52
  let head := n >>> size
  let rest := n - head <<< size
  if size = 0 then n
  else if 1 <<< size < 2 * rest ∨ (1 <<< size = 2 * rest ∧ head % 2 = 1) then (head + 1) <<< size
  else head <<< size

/-- A product from here on is rounded to no finite number: it is half a unit of the last place above
the greatest one. -/
def bound : Nat := 1 <<< 1024 - 1 <<< 970

/-- The greatest power of ten that is finite. -/
def greatestPower : Int := 308

/-- Whether a number is read as a finite one. One below the range is read as zero. -/
def isFinite (x : Scaled) : Bool :=
  x.significand = 0 || x.exponent < 0 || (x.exponent ≤ greatestPower &&
    nearest x.significand * nearest (Nat.pow 10 x.exponent.toNat) < bound)

end Scaled

end LogEgress.Json
