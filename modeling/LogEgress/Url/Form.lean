import LogEgress.Text.Split
import LogEgress.Url.Percent

set_option autoImplicit false

/-! # Forms in a query

The query of a URL may hold name and value pairs: pairs are joined by `&`, a name and its value by
`=`, a space is `+`, and every octet other than letters, digits and `*-._` is percent-encoded.
-/

namespace LogEgress.Url.Form

/-- Whether a character of a name or value stands for itself. -/
def isPlain (c : Char) : Bool := c.isAlphanum || c ∈ ['*', '-', '.', '_']

/-- A name or value in its encoded form. -/
def encode (s : List Char) : List Char :=
  s.flatMap fun c => if c = ' ' then ['+'] else if isPlain c then [c] else encodeChar c

/-- A field of a form: a name and a value, or a name alone. -/
inductive Entry where
  | pair (name value : List Char)
  | name (name : List Char)

/-- An entry in its encoded form. -/
def Entry.print : Entry → List Char
  | .pair n v => encode n ++ '=' :: encode v
  | .name n => encode n

/-- A form in its encoded form. -/
def print (es : List Entry) : List Char := Text.join ['&'] (es.map Entry.print)

/-- The name or value that an encoded form stands for. -/
def decode (s : List Char) : List Char :=
  Utf8.decodeLossy (percentDecode (utf8 (s.map fun c => if c = '+' then ' ' else c)))

/-- The name and the value of an encoded entry; a name alone has an empty value. -/
def readPair (s : List Char) : List Char × List Char :=
  match Text.cutFirst? '=' s with
  | some (n, v) => (decode n, decode v)
  | none => (decode s, [])

/-- The pairs of a query; empty parts do not count. -/
def pairs (query : List Char) : List (List Char × List Char) :=
  ((Text.splitOn '&' query).filter (· ≠ [])).map readPair

end LogEgress.Url.Form
