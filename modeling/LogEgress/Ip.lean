import LogEgress.Text.Hex
import LogEgress.Text.Split

set_option autoImplicit false

/-! # Internet addresses

Addresses of both families, their written forms, and the 128-bit number by which they are
compared: an IPv4 address counts as the IPv6 address that maps it. `IpAddr.parse?` reads exactly
the addresses in the standard notation, and `IpAddr.print` writes the shortest one.
-/

namespace LogEgress

/-- An IPv4 address, by its four octets. -/
structure Ipv4 where
  a : UInt8
  b : UInt8
  c : UInt8
  d : UInt8
  deriving DecidableEq, Repr

/-- An IPv6 address, by its eight groups of sixteen bits. -/
structure Ipv6 where
  groups : List UInt16
  length_eq : groups.length = 8
  deriving DecidableEq, Repr

/-- An internet address. -/
inductive IpAddr where
  | v4 (address : Ipv4)
  | v6 (address : Ipv6)
  deriving DecidableEq, Repr

/-! ## Values -/

/-- The two groups that hold the octets of an IPv4 address. -/
def Ipv4.groups (x : Ipv4) : List UInt16 :=
  [UInt16.ofNat (x.a.toNat * 256 + x.b.toNat), UInt16.ofNat (x.c.toNat * 256 + x.d.toNat)]

/-- The IPv6 address that stands for an IPv4 address. -/
def Ipv4.mapped (x : Ipv4) : Ipv6 := ⟨[0, 0, 0, 0, 0, 0xffff] ++ x.groups, rfl⟩

/-- The 128-bit number of an address. -/
def Ipv6.value (x : Ipv6) : Nat := x.groups.foldl (fun n g => n * 65536 + g.toNat) 0

/-- The 128-bit number by which addresses are compared. -/
def IpAddr.value : IpAddr → Nat
  | .v4 x => x.mapped.value
  | .v6 x => x.value

/-! ## Reading -/

namespace Ipv4

/-- Reads a decimal octet without leading zeros. -/
def octet? (s : List Char) : Option UInt8 :=
  if s = [] ∨ s.length > 3 ∨ !s.all Char.isDigit ∨ (s.length > 1 ∧ s.head? = some '0') then none
  else
    let n := s.foldl (fun n c => 10 * n + (c.toNat - 48)) 0
    if n < 256 then some (UInt8.ofNat n) else none

/-- Reads four octets between dots. -/
def parse? (s : List Char) : Option Ipv4 :=
  match Text.splitOn '.' s with
  | [a, b, c, d] => do return ⟨← octet? a, ← octet? b, ← octet? c, ← octet? d⟩
  | _ => none

end Ipv4

namespace Ipv6

/-- Reads a group of one to four hexadecimal digits. -/
def group? (s : List Char) : Option UInt16 :=
  if s = [] ∨ s.length > 4 then none
  else (s.mapM Text.hexDigit?).map fun ds => UInt16.ofNat (ds.foldl (fun n d => n * 16 + d) 0)

/-- Reads groups, the last of which may be an IPv4 address in place of two. -/
def groups? : List (List Char) → Option (List UInt16)
  | [] => some []
  | [s] => if '.' ∈ s then (Ipv4.parse? s).map Ipv4.groups else (group? s).map ([·])
  | s :: ss => do return (← group? s) :: (← groups? ss)

/-- The parts before and after the first two colons in a row. -/
def cutColons? : List Char → Option (List Char × List Char)
  | ':' :: ':' :: s => some ([], s)
  | c :: s => (cutColons? s).map fun (a, b) => (c :: a, b)
  | [] => none

/-- The pieces between colons; of no text, none. -/
def pieces (s : List Char) : List (List Char) := if s = [] then [] else Text.splitOn ':' s

/-- Makes an address of eight groups. -/
def ofGroups? (gs : List UInt16) : Option Ipv6 :=
  if h : gs.length = 8 then some ⟨gs, h⟩ else none

/-- Reads eight groups, or fewer with two colons in a row for at least one group of zeros. -/
def parse? (s : List Char) : Option Ipv6 :=
  match cutColons? s with
  | none => (groups? (pieces s)).bind ofGroups?
  | some (front, back) => do
    let front ← (pieces front).mapM group?
    let back ← groups? (pieces back)
    if front.length + back.length < 8 then
      ofGroups? (front ++ List.replicate (8 - (front.length + back.length)) 0 ++ back)
    else none

end Ipv6

/-- Reads an address in standard notation. -/
def IpAddr.parse? (s : List Char) : Option IpAddr :=
  match Ipv4.parse? s with
  | some x => some (.v4 x)
  | none => (Ipv6.parse? s).map .v6

/-! ## Printing -/

/-- Four octets between dots. -/
def Ipv4.print (x : Ipv4) : List Char :=
  Text.join ['.'] ([x.a, x.b, x.c, x.d].map fun o => Nat.toDigits 10 o.toNat)

namespace Ipv6

/-- A group in hexadecimal. -/
def printGroup (g : UInt16) : List Char := Nat.toDigits 16 g.toNat

/-- The number of zero groups from a place on. -/
def zerosAt (gs : List UInt16) (i : Nat) : Nat := ((gs.drop i).takeWhile (· = 0)).length

/-- The first of the places with the most zero groups. -/
def longestZeros (gs : List UInt16) : Nat :=
  (List.range gs.length).foldl (fun best i => if zerosAt gs best < zerosAt gs i then i else best) 0

/-- The groups between colons, the longest run of at least two zero groups left out. -/
def printGroups (gs : List UInt16) : List Char :=
  let i := longestZeros gs
  let n := zerosAt gs i
  let part (gs : List UInt16) := Text.join [':'] (gs.map printGroup)
  if n < 2 then part gs else part (gs.take i) ++ [':', ':'] ++ part (gs.drop (i + n))

/-- An address in groups alone. -/
def printHex (x : Ipv6) : List Char := printGroups x.groups

/-- An address in the recommended notation: one that maps an IPv4 address shows it. -/
def print (x : Ipv6) : List Char :=
  match x.groups with
  | [0, 0, 0, 0, 0, 0xffff, g, h] =>
    "::ffff:".toList ++ Ipv4.print ⟨UInt8.ofNat (g.toNat / 256), UInt8.ofNat (g.toNat % 256),
      UInt8.ofNat (h.toNat / 256), UInt8.ofNat (h.toNat % 256)⟩
  | gs => printGroups gs

end Ipv6

/-- An address in the recommended notation. -/
def IpAddr.print : IpAddr → List Char
  | .v4 x => x.print
  | .v6 x => x.print

/-- An address as a string. -/
def IpAddr.text (x : IpAddr) : String := String.ofList x.print

end LogEgress
