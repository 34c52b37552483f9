set_option autoImplicit false

/-! # Media types

A content type is a type and a subtype, which may end in a suffix after its last `+`, and
parameters. Letters of either case are the same.
-/

namespace LogEgress.Http

/-- A media type, in lower case but for the values of its parameters. -/
structure MediaType where
  type : List Char
  /-- The subtype up to its last `+`. -/
  subtype : List Char
  /-- What follows the last `+`. -/
  suffix : Option (List Char)
  /-- The parameters by their names, in the order given. -/
  parameters : List (List Char × List Char)
  deriving DecidableEq, Repr

namespace MediaType

/-- Whether a character may stand in a name. -/
def isTokenChar (c : Char) : Bool :=
  c.isAlphanum || c ∈ "!#$%&'*+-.^_|~".toList || c == '\x60'

/-- Whether a character may stand between quotes. -/
def isQuotedChar (c : Char) : Bool := 32 ≤ c.toNat && c.toNat ≤ 126

/-- What follows a quoted value: blanks, then the end or another parameter. None if it is
something else. -/
def afterQuoted? : List Char → Option (List Char)
  | [] => some []
  | ';' :: s => some s
  | ' ' :: s => afterQuoted? s
  | _ :: _ => none

/-- Reads the value of a parameter, and says what follows it. Between quotes a value has at least
one character, which may itself be a quote. -/
def readValue? : List Char → Option (List Char × List Char)
  | '"' :: c :: s =>
    let value := s.takeWhile fun d => isQuotedChar d && d ≠ '"'
    match s.drop value.length with
    | '"' :: r => if isQuotedChar c then (afterQuoted? r).map fun r => (c :: value, r) else none
    | _ => none
  | s =>
    let value := s.takeWhile isTokenChar
    match s.drop value.length with
    | [] => some (value, [])
    | ';' :: r => if value.isEmpty then none else some (value, r)
    | _ => none

/-- Reads a list of parameters. The number bounds how many there are. -/
def readParameters? : Nat → List Char → Option (List (List Char × List Char))
  | 0, s => if s.isEmpty then some [] else none
  | n + 1, s =>
    let s := s.dropWhile (· = ' ')
    if s.isEmpty then some []
    else
      let name := s.takeWhile isTokenChar
      match s.drop name.length with
      | '=' :: r =>
        if name.isEmpty then none
        else (readValue? r).bind fun (value, r) =>
          (readParameters? n r).map ((name.map Char.toLower, value) :: ·)
      | _ => none

/-- A subtype, cut at its last `+`. One at the beginning does not cut. -/
def cutSuffix (s : List Char) : List Char × Option (List Char) :=
  let after := (s.reverse.takeWhile (· ≠ '+')).reverse
  let before := s.take (s.length - after.length - 1)
  if after.length = s.length || before.isEmpty then (s, none) else (before, some after)

/-- Reads a media type. -/
def parse? (text : String) : Option MediaType :=
  let s := text.toList
  let type := s.takeWhile isTokenChar
  match s.dropWhile isTokenChar with
  | '/' :: r =>
    let name := r.takeWhile isTokenChar
    let parameters? := match r.dropWhile isTokenChar with
      | [] => some []
      | ';' :: ps => if name.isEmpty then none else readParameters? ps.length ps
      | _ => none
    if type.isEmpty then none
    else
      let (subtype, suffix) := cutSuffix (name.map Char.toLower)
      parameters?.map (⟨type.map Char.toLower, subtype, suffix, ·⟩)
  | _ => none

/-- The value of the first parameter with a name. -/
def parameter? (m : MediaType) (name : String) : Option (List Char) :=
  m.parameters.lookup name.toList

/-- Whether content of a type is JSON. -/
def isJson (m : MediaType) : Bool :=
  m.type == "application".toList &&
    (m.subtype == "json".toList || m.suffix == some "json".toList)

end MediaType

end LogEgress.Http
