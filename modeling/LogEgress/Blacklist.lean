import LogEgress.Ip
import LogEgress.Text.Blank

set_option autoImplicit false

/-! # Forbidden destinations

A blacklist is a list of closed ranges of addresses, compared by their 128-bit numbers, so a
range may span both families and an IPv4 address is treated like the IPv6 address that maps it.
-/

namespace LogEgress

/-- A closed range of addresses. -/
structure IpRange where
  first : IpAddr
  last : IpAddr
  /-- No range is empty. -/
  ordered : first.value ≤ last.value
  deriving DecidableEq

/-- Why a text is not a range. -/
inductive RangeFault where
  /-- One end is no address. -/
  | invalidAddress (text : String)
  /-- The ends are in the wrong order. -/
  | reversed (first last : String)
  /-- There is no dash. -/
  | malformed (text : String)
  deriving DecidableEq, Repr

/-- The wording of a fault. -/
def RangeFault.message : RangeFault → String
  | .invalidAddress s => "invalid IP address: " ++ s
  | .reversed a b => "range start " ++ a ++ " is after range end " ++ b
  | .malformed s => "malformed range: " ++ s

namespace IpRange

/-- Reads one end of a range. -/
def readEnd (s : List Char) : Except RangeFault IpAddr :=
  match IpAddr.parse? (Text.trim s) with
  | some x => .ok x
  | none => .error (.invalidAddress (String.ofList s))

/-- The range between two ends; blanks around them do not count. -/
def read (first last : List Char) : Except RangeFault IpRange := do
  let x ← readEnd first
  let y ← readEnd last
  if h : x.value ≤ y.value then .ok ⟨x, y, h⟩
  else .error (.reversed (String.ofList first) (String.ofList last))

/-- Whether an address lies in a range. -/
def contains (r : IpRange) (x : IpAddr) : Bool :=
  r.first.value ≤ x.value && x.value ≤ r.last.value

/-- A range in its written form. -/
def print (r : IpRange) : List Char := r.first.print ++ '-' :: r.last.print

end IpRange

/-- The ranges of forbidden destinations. -/
abbrev Blacklist := List IpRange

namespace Blacklist

/-- Reads a range, its ends on either side of the first dash. -/
def readPart (s : List Char) : Except RangeFault IpRange :=
  match Text.cutFirst? '-' s with
  | some (a, b) => IpRange.read a b
  | none => .error (.malformed (String.ofList s))

/-- Reads ranges between commas; blanks and empty parts do not count. -/
def parse (s : List Char) : Except RangeFault Blacklist :=
  (((Text.splitOn ',' s).map Text.trim).filter (· ≠ [])).mapM readPart

/-- Whether an address lies in some range. -/
def forbids (bl : Blacklist) (x : IpAddr) : Bool := bl.any (·.contains x)

end Blacklist

end LogEgress
