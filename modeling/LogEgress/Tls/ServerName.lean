import LogEgress.Ip

set_option autoImplicit false

/-! # Names of TLS servers

A TLS server is known by an internet address or by a DNS name: labels of letters, digits, hyphens
and underscores.
-/

namespace LogEgress.Tls

/-- The greatest length of a label. -/
def maxLabel : Nat := 63

/-- The greatest length of a name. -/
def maxName : Nat := 253

/-- Whether a character may stand in a label. -/
def isLabelChar (c : Char) : Bool := c.isAlphanum || c == '-' || c == '_'

/-- Whether a text is a label: its characters are allowed, and no hyphen stands at an end. -/
def isLabel (s : List Char) : Bool :=
  s ≠ [] && s.length ≤ maxLabel && s.all isLabelChar && s.head? ≠ some '-' &&
    s.getLast? ≠ some '-'

/-- The labels of a name, without the empty one after a final dot. -/
def labels (s : List Char) : List (List Char) :=
  let ls := Text.splitOn '.' s
  if ls.getLast? = some [] ∧ 1 < ls.length then ls.dropLast else ls

/-- Whether a text is a DNS name. Its last label is not a number. -/
def isDnsName (s : List Char) : Bool :=
  s.length ≤ maxName && (labels s).all isLabel &&
    match (labels s).getLast? with
    | some l => !l.all Char.isDigit
    | none => false

/-- Whether a TLS server can be known by a text. -/
def isServerName (s : List Char) : Bool := isDnsName s || (IpAddr.parse? s).isSome

end LogEgress.Tls
