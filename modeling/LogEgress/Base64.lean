import LogEgress.Text.Utf8

set_option autoImplicit false

/-! # Base64

Octets are written in groups of four symbols for three octets, the last group filled up with
`=`. Reading with `decode` is strict: the filling must be there and the unused bits of the last
symbol must be zero, so each octet sequence has one written form. `decodeLoosely?` asks for neither.
-/

namespace LogEgress.Base64

/-- The symbol for a number below 64. -/
def symbol (n : Nat) : Char :=
  if n < 26 then Char.ofNat ('A'.toNat + n)
  else if n < 52 then Char.ofNat ('a'.toNat + (n - 26))
  else if n < 62 then Char.ofNat ('0'.toNat + (n - 52))
  else if n = 62 then '+' else '/'

/-- The number that an octet stands for as a symbol. -/
def value? (b : UInt8) : Option Nat :=
  let n := b.toNat
  if 65 ≤ n ∧ n ≤ 90 then some (n - 65)
  else if 97 ≤ n ∧ n ≤ 122 then some (n - 97 + 26)
  else if 48 ≤ n ∧ n ≤ 57 then some (n - 48 + 52)
  else if n = 43 then some 62
  else if n = 47 then some 63
  else none

/-- The written form of some octets. -/
def encode : Octets → List Char
  | [] => []
  | [a] =>
    let n := a.toNat
    [symbol (n / 4), symbol (n % 4 * 16), '=', '=']
  | [a, b] =>
    let n := a.toNat * 256 + b.toNat
    [symbol (n / 1024), symbol (n / 16 % 64), symbol (n % 16 * 4), '=']
  | a :: b :: c :: rest =>
    let n := (a.toNat * 256 + b.toNat) * 256 + c.toNat
    symbol (n / 262144) :: symbol (n / 4096 % 64) :: symbol (n / 64 % 64) :: symbol (n % 64) ::
      encode rest

/-- Why a text is not a written form. -/
inductive Fault where
  /-- An octet that is no symbol, or filling out of its place, at an offset. -/
  | symbol (octet : UInt8) (offset : Nat)
  /-- The number of symbols leaves a single one over. -/
  | length (count : Nat)
  /-- The last symbol, at an offset, sets bits that belong to no octet. -/
  | lastSymbol (octet : UInt8) (offset : Nat)
  /-- The filling is not complete. -/
  | padding
  deriving DecidableEq, Repr

/-- The wording of a fault. -/
def Fault.message : Fault → String
  | .symbol b i => "Invalid symbol " ++ toString b.toNat ++ ", offset " ++ toString i ++ "."
  | .length n => "Invalid input length: " ++ toString n
  | .lastSymbol b i =>
    "Invalid last symbol " ++ toString b.toNat ++ ", offset " ++ toString i ++ "."
  | .padding => "Invalid padding"

/-- The octet that fills up the last group. -/
def fill : UInt8 := 61

/-- The number a symbol at an offset stands for. -/
def readSymbol (offset : Nat) (b : UInt8) : Except Fault Nat :=
  match value? b with
  | some n => .ok n
  | none => .error (.symbol b offset)

/-- The numbers of the symbols of the last group, which stands at an offset, and how much filling
follows them. Filling may follow two or three symbols, and nothing may follow filling. -/
def readLast (offset : Nat) : Octets → Except Fault (List Nat × Nat)
  | [] => .ok ([], 0)
  | a :: rest => do
    let x ← readSymbol offset a
    match rest with
    | [] => .ok ([x], 0)
    | b :: rest =>
      let y ← readSymbol (offset + 1) b
      match rest with
      | [] => .ok ([x, y], 0)
      | c :: rest =>
        if c = fill then
          match rest with
          | [] => .ok ([x, y], 1)
          | d :: _ => if d = fill then .ok ([x, y], 2) else .error (.symbol fill (offset + 2))
        else
          let z ← readSymbol (offset + 2) c
          match rest with
          | [] => .ok ([x, y, z], 0)
          | d :: _ =>
            if d = fill then .ok ([x, y, z], 1)
            else do
              let w ← readSymbol (offset + 3) d
              .ok ([x, y, z, w], 0)

/-- The octets of the last group, which stands at an offset. -/
def decodeLast (offset : Nat) (group : Octets) : Except Fault Octets := do
  let (numbers, filling) ← readLast offset group
  match numbers with
  | [] => .ok []
  -- Six bits are no octet.
  | [_] => .error (.length (offset + 1))
  | [x, y] =>
    if filling ≠ 2 then .error .padding
    else if y % 16 ≠ 0 then .error (.lastSymbol (group.getD 1 0) (offset + 1))
    else .ok [UInt8.ofNat (x * 4 + y / 16)]
  | [x, y, z] =>
    if filling ≠ 1 then .error .padding
    else if z % 4 ≠ 0 then .error (.lastSymbol (group.getD 2 0) (offset + 2))
    else .ok [UInt8.ofNat (x * 4 + y / 16), UInt8.ofNat (y % 16 * 16 + z / 4)]
  | x :: y :: z :: w :: _ =>
    .ok [UInt8.ofNat (x * 4 + y / 16), UInt8.ofNat (y % 16 * 16 + z / 4),
      UInt8.ofNat (z % 4 * 64 + w)]

/-- The octets of a written form that begins at an offset. Every group but the last one has four
symbols and no filling. -/
def decodeGroups (offset : Nat) : Octets → Except Fault Octets
  | a :: b :: c :: d :: e :: rest => do
    let x ← readSymbol offset a
    let y ← readSymbol (offset + 1) b
    let z ← readSymbol (offset + 2) c
    let w ← readSymbol (offset + 3) d
    let more ← decodeGroups (offset + 4) (e :: rest)
    .ok (UInt8.ofNat (x * 4 + y / 16) :: UInt8.ofNat (y % 16 * 16 + z / 4) ::
      UInt8.ofNat (z % 4 * 64 + w) :: more)
  | group => decodeLast offset group

/-- The octets of a written form. A wrong symbol that is left over at the end is reported before
any other fault. -/
def decode (text : Octets) : Except Fault Octets :=
  match text.getLast? with
  | some b =>
    -- One symbol alone cannot be a group, but it is judged as a symbol first.
    if text.length % 4 = 1 ∧ b ≠ fill ∧ value? b = none then
      .error (.symbol b (text.length - 1))
    else decodeGroups 0 text
  | none => .ok []

/-! ## Reading loosely -/

/-- The number of an octet as a symbol, none inside if it is filling. -/
def looseValue? (b : UInt8) : Option (Option Nat) :=
  if b = fill then some none else (value? b).map some

/-- The octets of symbols and filling. Filling may stand only at the end, where it completes the
last group. -/
def ofSymbols? : List (Option Nat) → Option Octets
  | [] => some []
  | [some x, some y] | [some x, some y, none, none] => some [UInt8.ofNat (x * 4 + y / 16)]
  | [some x, some y, some z] | [some x, some y, some z, none] =>
    some [UInt8.ofNat (x * 4 + y / 16), UInt8.ofNat (y % 16 * 16 + z / 4)]
  | some x :: some y :: some z :: some w :: rest => do
    let more ← ofSymbols? rest
    return UInt8.ofNat (x * 4 + y / 16) :: UInt8.ofNat (y % 16 * 16 + z / 4) ::
      UInt8.ofNat (z % 4 * 64 + w) :: more
  | _ => none

/-- The octets of a written form whose last group may lack its filling, and whose last symbol may
set bits that belong to no octet. -/
def decodeLoosely? (text : Octets) : Option Octets := (text.mapM looseValue?).bind ofSymbols?

end LogEgress.Base64
