set_option autoImplicit false

/-! # Punycode

A label with characters beyond ASCII is written in ASCII: its ASCII characters first, then, in the
order of their code points, the others, each as the distance from the one before it in a number
system of base 36 whose digits adapt to the distances seen so far.
-/

namespace LogEgress.Url.Punycode

/-- The digit of a number below 36. -/
def digit (n : Nat) : Char := if n < 26 then Char.ofNat (97 + n) else Char.ofNat (22 + n)

/-- The number of a digit. -/
def digit? (c : Char) : Option Nat :=
  if c.isDigit then some (c.toNat - 22)
  else if c.isLower then some (c.toNat - 97)
  else if c.isUpper then some (c.toNat - 65)
  else none

/-- The threshold of the digit at a position. -/
def threshold (bias position : Nat) : Nat :=
  if position ≤ bias then 1 else if bias + 26 ≤ position then 26 else position - bias

theorem threshold_pos (bias position : Nat) : 1 ≤ threshold bias position := by
  unfold threshold; split <;> (try split) <;> omega

theorem threshold_le (bias position : Nat) : threshold bias position ≤ 26 := by
  unfold threshold; split <;> (try split) <;> omega

/-- The digits of a number from a position on. -/
def digits (bias position q : Nat) : List Char :=
  if h : q < threshold bias position then [digit q]
  else
    let t := threshold bias position
    have : (q - t) / (36 - t) < q := by
      have h₁ := threshold_pos bias position
      have h₂ := threshold_le bias position
      have h₃ : (q - t) / (36 - t) ≤ q - t := Nat.div_le_self _ _
      simp only [t] at *
      omega
    digit (t + (q - t) % (36 - t)) :: digits bias (position + 36) ((q - t) / (36 - t))
termination_by q

/-- Divides until the rest is small; gives the rest and the number of divisions. -/
def shrink (delta : Nat) : Nat × Nat :=
  if h : 455 < delta then
    have : delta / 35 < delta := Nat.div_lt_self (by omega) (by omega)
    let r := shrink (delta / 35)
    (r.1, r.2 + 1)
  else (delta, 0)
termination_by delta

/-- The bias after a distance; the number counts the characters written so far. -/
def adapt (delta count : Nat) (isFirst : Bool) : Nat :=
  let d := if isFirst then delta / 700 else delta / 2
  let (r, k) := shrink (d + d / count)
  36 * k + 36 * r / (r + 38)

/-- What the encoder keeps: the distance so far, the bias, the characters written. -/
structure Encoder where
  delta : Nat
  bias : Nat
  count : Nat
  out : List Char

/-- Passes over one character of the label while the character with a code point is written. -/
def Encoder.pass (basic point : Nat) (s : Encoder) (c : Char) : Encoder :=
  if c.toNat < point then { s with delta := s.delta + 1 }
  else if c.toNat = point then
    { delta := 0, bias := adapt s.delta (s.count + 1) (s.count == basic), count := s.count + 1,
      out := s.out ++ digits s.bias 36 s.delta }
  else s

/-- Writes the characters with the given code points, which ascend from the second number on. -/
def Encoder.points (basic : Nat) (label : List Char) : Nat → Encoder → List Nat → Encoder
  | _, s, [] => s
  | n, s, m :: ms =>
    -- Each code point between the last one and this one could have stood at every place.
    let s := { s with delta := s.delta + (m - n) * (s.count + 1) }
    let s := label.foldl (Encoder.pass basic m) s
    Encoder.points basic label (m + 1) { s with delta := s.delta + 1 } ms

/-- The code points beyond ASCII of a label, each once, in ascending order. -/
def pointsOf (label : List Char) : List Nat :=
  ((label.map Char.toNat).filter (128 ≤ ·)).mergeSort.eraseDups

/-- A label in ASCII. -/
def encode (label : List Char) : List Char :=
  let basic := label.filter (·.toNat < 128)
  let start : Encoder := ⟨0, 72, basic.length, if basic = [] then [] else basic ++ ['-']⟩
  (Encoder.points basic.length label 128 start (pointsOf label)).out

/-- What the decoder keeps: the code point and place reached, the bias, and the number being read:
the place where it began, its weight and its position. -/
structure Decoder where
  point : Nat
  place : Nat
  bias : Nat
  start : Nat
  weight : Nat
  position : Nat
  out : List Char

/-- The weight of a digit is less than this. -/
def maxWeight : Nat := 0x100000000

/-- Reads a digit. -/
def Decoder.step (s : Decoder) (c : Char) : Option Decoder := do
  let d ← digit? c
  let place := s.place + d * s.weight
  let t := threshold s.bias s.position
  if d < t then
    let n := s.out.length + 1
    let point := s.point + place / n
    if point < 0x110000 ∧ ¬ (0xd800 ≤ point ∧ point < 0xe000) then
      let spot := place % n
      some ⟨point, spot + 1, adapt (place - s.start) n (s.start == 0), spot + 1, 1, 36,
        s.out.take spot ++ Char.ofNat point :: s.out.drop spot⟩
    else none
  else
    let weight := s.weight * (36 - t)
    if weight < maxWeight then
      some { s with place := place, weight := weight, position := s.position + 36 }
    else none

/-- The last hyphen of a label divides its ASCII characters from the digits. One at the beginning has
nothing to divide, and it is no digit. -/
def decode? (label : List Char) : Option (List Char) :=
  let tail := (label.reverse.takeWhile (· ≠ '-')).reverse
  let front := label.take (label.length - tail.length)
  if front.all (·.toNat < 128) && front ≠ ['-'] then do
    let s ← tail.foldlM Decoder.step ⟨128, 0, 72, 0, 1, 36, front.dropLast⟩
    if s.position = 36 then some s.out else none
  else none

end LogEgress.Url.Punycode
