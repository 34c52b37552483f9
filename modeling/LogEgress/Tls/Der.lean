import LogEgress.Text.Utf8

set_option autoImplicit false

/-! # DER

In the distinguished encoding each element has a tag, a length in its shortest form, and a content
of that length.
-/

namespace LogEgress.Tls.Der

/-- The tags that certificates use. -/
inductive Tag where
  | boolean
  | integer
  | bitString
  | octetString
  | objectId
  | sequence
  | context0
  | context3
  deriving DecidableEq, Repr

/-- The octet of a tag. -/
def Tag.octet : Tag → UInt8
  | .boolean => 0x01
  | .integer => 0x02
  | .bitString => 0x03
  | .octetString => 0x04
  | .objectId => 0x06
  | .sequence => 0x30
  | .context0 => 0xa0
  | .context3 => 0xa3

/-- An element must be shorter than this. -/
def sizeLimit : Nat := 0xffff

/-- The number of some octets, the first of which weighs most. -/
def number (o : Octets) : Nat := o.foldl (fun n b => n * 256 + b.toNat) 0

/-- Reads a length and says what follows it. The shortest form is the only one. -/
def readLength? : Octets → Option (Nat × Octets)
  | [] => none
  | b :: r =>
    let n := b.toNat
    if n < 0x80 then some (n, r)
    else if 0x81 ≤ n ∧ n ≤ 0x84 ∧ n - 0x80 ≤ r.length then
      let size := n - 0x80
      let length := number (r.take size)
      if length < 0x80 ∨ length < 1 <<< (8 * (size - 1)) then none else some (length, r.drop size)
    else none

/-- Reads an element: its tag, its content, and what follows it. -/
def readElement? : Octets → Option (UInt8 × Octets × Octets)
  | [] => none
  | tag :: r =>
    if tag.toNat % 32 = 31 then none
    else match readLength? r with
      | some (n, r) =>
        if n < sizeLimit ∧ n ≤ r.length then some (tag, r.take n, r.drop n) else none
      | none => none

/-- Reads an element with a tag: its content, and what follows it. -/
def read? (tag : Tag) (o : Octets) : Option (Octets × Octets) :=
  match readElement? o with
  | some (t, content, rest) => if t = tag.octet then some (content, rest) else none
  | none => none

/-- Reads an element with a tag that nothing follows. -/
def readOnly? (tag : Tag) (o : Octets) : Option Octets :=
  match read? tag o with
  | some (content, []) => some content
  | _ => none

/-- Reads a switch, which is off where it is left out. -/
def readSwitch? (o : Octets) : Option (Bool × Octets) :=
  if o.head? = some Tag.boolean.octet then
    match read? .boolean o with
    | some ([0xff], rest) => some (true, rest)
    | some ([0x00], rest) => some (false, rest)
    | _ => none
  else some (false, o)

/-- The elements of a content, all with one tag. The first number bounds their count. -/
def readAll? (tag : Tag) : Nat → Octets → Option (List Octets)
  | _, [] => some []
  | 0, _ :: _ => none
  | n + 1, o => do
    let (content, rest) ← read? tag o
    let more ← readAll? tag n rest
    return content :: more

end LogEgress.Tls.Der
