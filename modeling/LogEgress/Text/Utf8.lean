set_option autoImplicit false

/-! # UTF-8

Octets are read as UTF-8 one character at a time: `Utf8.step` takes the first character off, or
says how many octets its longest well-formed beginning has. `Utf8.decode` refuses ill-formed
input and says where; `Utf8.decodeWith` puts one character for each maximal ill-formed part, and
`Utf8.decodeLossy` makes it U+FFFD.
-/

namespace LogEgress

/-- A sequence of octets. -/
abbrev Octets := List UInt8

/-- The UTF-8 form of a text. -/
def utf8 (s : List Char) : Octets := s.flatMap String.utf8EncodeChar

namespace Utf8

/-- What the beginning of some octets is. -/
inductive Step where
  /-- A character and the octets after it. -/
  | char (c : Char) (rest : Octets)
  /-- An ill-formed part of a size, and the octets after it. -/
  | bad (size : Nat) (rest : Octets)
  /-- The beginning of a character, and nothing after it. -/
  | cut
  deriving DecidableEq

/-- Whether an octet lies in a closed range. -/
def within (lo hi : Nat) (b : UInt8) : Bool := lo ≤ b.toNat && b.toNat ≤ hi

/-- Whether an octet continues a character. -/
def isContinuation (b : UInt8) : Bool := within 0x80 0xbf b

/-- The range of the second octet that may follow a first octet of three. -/
def secondOfThree (b : UInt8) : Nat × Nat :=
  if b = 0xe0 then (0xa0, 0xbf) else if b = 0xed then (0x80, 0x9f) else (0x80, 0xbf)

/-- The range of the second octet that may follow a first octet of four. -/
def secondOfFour (b : UInt8) : Nat × Nat :=
  if b = 0xf0 then (0x90, 0xbf) else if b = 0xf4 then (0x80, 0x8f) else (0x80, 0xbf)

/-- The six payload bits of a continuing octet. -/
def low6 (b : UInt8) : Nat := b.toNat % 64

/-- Takes the first character off. -/
def step (b : UInt8) (rest : Octets) : Step :=
  if b.toNat < 0x80 then .char (Char.ofNat b.toNat) rest
  -- Two octets. The first octets 0xc0 and 0xc1 could only begin overlong forms.
  else if within 0xc2 0xdf b then
    match rest with
    | [] => .cut
    | b1 :: r1 =>
      if isContinuation b1 then .char (Char.ofNat (b.toNat % 32 * 64 + low6 b1)) r1
      else .bad 1 rest
  -- Three octets.
  else if within 0xe0 0xef b then
    match rest with
    | [] => .cut
    | b1 :: r1 =>
      if within (secondOfThree b).1 (secondOfThree b).2 b1 then
        match r1 with
        | [] => .cut
        | b2 :: r2 =>
          if isContinuation b2 then
            .char (Char.ofNat ((b.toNat % 16 * 64 + low6 b1) * 64 + low6 b2)) r2
          else .bad 2 r1
      else .bad 1 rest
  -- Four octets.
  else if within 0xf0 0xf4 b then
    match rest with
    | [] => .cut
    | b1 :: r1 =>
      if within (secondOfFour b).1 (secondOfFour b).2 b1 then
        match r1 with
        | [] => .cut
        | b2 :: r2 =>
          if isContinuation b2 then
            match r2 with
            | [] => .cut
            | b3 :: r3 =>
              if isContinuation b3 then
                .char (Char.ofNat (((b.toNat % 8 * 64 + low6 b1) * 64 + low6 b2) * 64 + low6 b3)) r3
              else .bad 3 r2
          else .bad 2 r1
      else .bad 1 rest
  else .bad 1 rest

/-- What is left after a step is never longer than what followed the first octet. -/
def Step.rest : Step → Octets
  | .char _ r => r
  | .bad _ r => r
  | .cut => []

theorem length_rest_step (b : UInt8) (rest : Octets) :
    (step b rest).rest.length ≤ rest.length := by
  unfold step
  repeat' split
  all_goals
    simp only [Step.rest, List.length_cons, List.length_nil]
    omega

theorem length_lt_of_step {b : UInt8} {rest r : Octets} {s : Step} (h : step b rest = s)
    (hr : s.rest = r) : r.length < (b :: rest).length := by
  have := length_rest_step b rest
  rw [h, hr] at this
  exact Nat.lt_succ_of_le this

/-- Where octets stop being UTF-8. -/
inductive Fault where
  /-- An ill-formed part of a size begins at an offset. -/
  | invalid (size offset : Nat)
  /-- The octets end inside the character that begins at an offset. -/
  | incomplete (offset : Nat)
  deriving DecidableEq, Repr

/-- The wording of a fault. -/
def Fault.message : Fault → String
  | .invalid size offset =>
    "invalid utf-8 sequence of " ++ toString size ++ " bytes from index " ++ toString offset
  | .incomplete offset => "incomplete utf-8 byte sequence from index " ++ toString offset

/-- Reads octets that stand at an offset. -/
def decodeFrom (offset : Nat) : Octets → Except Fault (List Char)
  | [] => .ok []
  | b :: rest =>
    match _h : step b rest with
    | .char c r =>
      (decodeFrom (offset + (rest.length + 1 - r.length)) r).map (c :: ·)
    | .bad size _ => .error (.invalid size offset)
    | .cut => .error (.incomplete offset)
termination_by o => o.length
decreasing_by all_goals exact length_lt_of_step _h rfl

/-- Reads octets as a text. -/
def decode (o : Octets) : Except Fault (List Char) := decodeFrom 0 o

/-- Reads octets as a text, with one substitute in place of each maximal ill-formed part. -/
def decodeWith (substitute : Char) : Octets → List Char
  | [] => []
  | b :: rest =>
    match _h : step b rest with
    | .char c r =>
      c :: decodeWith substitute r
    | .bad _ r =>
      substitute :: decodeWith substitute r
    | .cut => [substitute]
termination_by o => o.length
decreasing_by all_goals exact length_lt_of_step _h rfl

/-- Reads octets as a text, with one U+FFFD in place of each maximal ill-formed part. -/
def decodeLossy (o : Octets) : List Char := decodeWith '\ufffd' o

end Utf8

end LogEgress
