import LogEgress.Ip
import LogEgress.Url.Domain

set_option autoImplicit false

/-! # Hosts

The host of a URL is a name or an address. Under a special scheme it is a domain name, or an IPv4
address in any of its notations; under another scheme the characters stay as they are. An IPv6
address stands in brackets under every scheme.
-/

namespace LogEgress.Url

/-- The host of a URL. -/
inductive Host where
  | domain (name : List Char)
  | ipv4 (address : Ipv4)
  | ipv6 (address : Ipv6)
  deriving DecidableEq

/-- A host as it stands in a URL. -/
def Host.print : Host → List Char
  | .domain n => n
  | .ipv4 x => x.print
  | .ipv6 x => '[' :: x.printHex ++ [']']

/-! ## IPv4 addresses in any notation -/

/-- Reads digits of a base. -/
def readBase (base : Nat) (s : List Char) : Option Nat :=
  s.foldlM (fun n c => do
    let d ← Text.hexDigit? c
    if d < base then some (n * base + d) else none) 0

/-- Reads a number in decimal, in octal after `0`, or in hexadecimal after `0x`. -/
def ipv4Number? : List Char → Option Nat
  | [] => none
  | '0' :: x :: s =>
    if x = 'x' ∨ x = 'X' then readBase 16 s else readBase 8 (x :: s)
  | s => readBase 10 s

/-- The parts of a name, without an empty one after a final dot. -/
def ipv4Parts (s : List Char) : List (List Char) :=
  let parts := Text.splitOn '.' s
  if parts.getLast? = some [] ∧ 1 < parts.length then parts.dropLast else parts

/-- Whether the last part of a name is a number, so that the name has to be an address. -/
def endsInNumber (s : List Char) : Bool :=
  match (ipv4Parts s).getLast? with
  | some last => (last ≠ [] && last.all Char.isDigit) || (ipv4Number? last).isSome
  | none => false

/-- The address of some numbers: each but the last is an octet, the last fills the rest. -/
def ipv4OfNumbers? (ns : List Nat) : Option Ipv4 :=
  match ns.reverse with
  | [] => none
  | last :: front =>
    if front.length ≤ 3 ∧ front.all (· < 256) ∧ last < 1 <<< (8 * (4 - front.length)) then
      let n := front.reverse.foldl (fun n x => n * 256 + x) 0 <<< (8 * (4 - front.length)) + last
      some ⟨UInt8.ofNat (n / 16777216), UInt8.ofNat (n / 65536), UInt8.ofNat (n / 256),
        UInt8.ofNat n⟩
    else none

/-- Reads an address in any notation. -/
def parseIpv4? (s : List Char) : Option Ipv4 :=
  ((ipv4Parts s).mapM ipv4Number?).bind ipv4OfNumbers?

/-! ## Hosts -/

/-- Why a text is no host. -/
inductive HostFault where
  | empty
  | ipv4
  | ipv6
  | character
  | internationalName
  deriving DecidableEq, Repr

/-- Reads an IPv6 address in brackets, the first of which was taken off. -/
def readBracketed (s : List Char) : Except HostFault Host :=
  match s.getLast? with
  | some ']' => match Ipv6.parse? s.dropLast with
    | some x => .ok (.ipv6 x)
    | none => .error .ipv6
  | _ => .error .ipv6

/-- The characters that no host may have. -/
def isForbidden (c : Char) : Bool :=
  c ∈ ['\x00', '\t', '\n', '\r', ' ', '#', '/', ':', '<', '>', '?', '@', '[', '\\', ']', '^', '|']

/-- Reads the host of a URL whose scheme is not special. -/
def readOpaqueHost (s : List Char) : Except HostFault Host :=
  match s with
  | '[' :: s => readBracketed s
  | s =>
    if s.any isForbidden then .error .character
    else .ok (.domain (percentEncode isControl s))

/-- Reads the host of a URL whose scheme is special. -/
def readSpecialHost (s : List Char) : Except HostFault Host :=
  match s with
  | '[' :: s => readBracketed s
  -- A name that ends in a number is an address or nothing.
  | s => match Domain.toAscii? (Utf8.decodeLossy (percentDecode (utf8 s))) with
    | none => .error .internationalName
    | some [] => .error .empty
    | some name =>
      if endsInNumber name then
        match parseIpv4? name with
        | some x => .ok (.ipv4 x)
        | none => .error .ipv4
      else .ok (.domain name)

end LogEgress.Url
