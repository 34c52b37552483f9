import LogEgress.Text.Blank
import LogEgress.Text.Integer
import LogEgress.Url.Form
import LogEgress.Url.Host

set_option autoImplicit false

/-! # URLs

A URL is read by the rules of the URL standard, without a base. Schemes fall into three kinds:
`file`, the other special ones, which have a default port and a domain or address as host, and all
the rest, whose host is kept as it stands.
-/

namespace LogEgress

/-- A URL, by its parts in their normal form. -/
structure Url where
  scheme : List Char
  username : List Char
  password : List Char
  host : Option Url.Host
  /-- The port, unless it is the default one of the scheme. -/
  port : Option Nat
  path : List Char
  query : Option (List Char)
  fragment : Option (List Char)
  deriving DecidableEq

namespace Url

/-- Why a text is no URL. -/
inductive Fault where
  | emptyHost
  | invalidPort
  | invalidIpv4
  | invalidIpv6
  | invalidCharacter
  | invalidName
  | noScheme
  deriving DecidableEq, Repr

/-- The wording of a fault. -/
def Fault.message : Fault → String
  | .emptyHost => "empty host"
  | .invalidPort => "invalid port number"
  | .invalidIpv4 => "invalid IPv4 address"
  | .invalidIpv6 => "invalid IPv6 address"
  | .invalidCharacter => "invalid domain character"
  | .invalidName => "invalid international domain name"
  | .noScheme => "relative URL without a base"

/-- The fault of a URL with a faulty host. -/
def Fault.ofHost : HostFault → Fault
  | .empty => .emptyHost
  | .ipv4 => .invalidIpv4
  | .ipv6 => .invalidIpv6
  | .character => .invalidCharacter
  | .internationalName => .invalidName

/-! ## Schemes -/

/-- How the rest of a URL is read. -/
inductive SchemeKind where
  | file
  | special
  | other
  deriving DecidableEq, Repr

/-- The default port of a scheme. -/
def defaultPort? (scheme : List Char) : Option Nat :=
  match String.ofList scheme with
  | "http" => some 80
  | "ws" => some 80
  | "https" => some 443
  | "wss" => some 443
  | "ftp" => some 21
  | _ => none

/-- The kind of a scheme. -/
def SchemeKind.of (scheme : List Char) : SchemeKind :=
  if scheme = "file".toList then .file
  else if (defaultPort? scheme).isSome then .special
  else .other

/-- Whether a character may stand in a scheme after its first letter. -/
def isSchemeChar (c : Char) : Bool := c.isAlphanum || c == '+' || c == '-' || c == '.'

/-- Reads a scheme up to its colon, in lower case. -/
def readScheme? (s : List Char) : Option (List Char × List Char) :=
  match s with
  | c :: _ =>
    if c.isAlpha then
      match Text.cutFirst? ':' s with
      | some (scheme, rest) =>
        if scheme.all isSchemeChar then some (scheme.map Char.toLower, rest) else none
      | none => none
    else none
  | [] => none

/-! ## Authority -/

/-- Whether a character separates the steps of a path. -/
def isSlash (kind : SchemeKind) (c : Char) : Bool := c == '/' || (kind != .other && c == '\\')

/-- Whether a character ends the authority. -/
def endsAuthority (kind : SchemeKind) (c : Char) : Bool := isSlash kind c || c == '?' || c == '#'

/-- User name and password, encoded; a password that is empty is as good as none. -/
def readUserinfo (s : List Char) : List Char × List Char :=
  match Text.cutFirst? ':' s with
  | some (user, pass) => (percentEncode inUserinfoSet user, percentEncode inUserinfoSet pass)
  | none => (percentEncode inUserinfoSet s, [])

/-- The host of an authority and what follows it: the host ends at the first colon that does not
stand in brackets. -/
def cutHost : Bool → List Char → List Char × List Char
  | _, [] => ([], [])
  | inside, c :: s =>
    if c = ':' ∧ inside = false then ([], c :: s)
    else
      let r := cutHost (if c = '[' then true else if c = ']' then false else inside) s
      (c :: r.1, r.2)

/-- Reads a host. -/
def readHost (kind : SchemeKind) (s : List Char) : Except Fault Host :=
  match kind with
  | .other => (readOpaqueHost s).mapError Fault.ofHost
  | _ => if s = [] then .error .emptyHost else (readSpecialHost s).mapError Fault.ofHost

/-- Reads the digits of a port and says what follows them. Under any scheme a backslash ends
them. -/
def readPort (s : List Char) : Except Fault (Option Nat × List Char) :=
  let ds := s.takeWhile Char.isDigit
  let rest := s.dropWhile Char.isDigit
  let n := ds.foldl (fun n c => 10 * n + (c.toNat - 48)) 0
  if Text.greatest16 < n then .error .invalidPort
  else match rest with
    | [] => .ok (if ds = [] then none else some n, [])
    | c :: r => if c = '\\' then .ok (if ds = [] then none else some n, c :: r)
      else .error .invalidPort

/-- The parts of an authority, and what of its text belongs to the path. -/
structure Authority where
  username : List Char
  password : List Char
  host : Option Host
  port : Option Nat
  rest : List Char

/-- Reads the host and the port of an authority. -/
def readHostAndPort (kind : SchemeKind) (scheme s : List Char) :
    Except Fault (Option Host × Option Nat × List Char) := do
  let (hostText, rest) := cutHost false s
  let host ← readHost kind hostText
  let host := if host = .domain [] then none else some host
  match rest with
  | ':' :: rest =>
    if host.isNone then throw .emptyHost
    let (port, rest) ← readPort rest
    return (host, if port = defaultPort? scheme then none else port, rest)
  | rest => return (host, none, rest)

/-- Reads an authority; the last argument says whether anything follows it. A user name or a
password needs a host, and so does a lone at-sign before more. -/
def readAuthority (kind : SchemeKind) (scheme s : List Char) (isLast : Bool) :
    Except Fault Authority := do
  match Text.cutLast? '@' s with
  | none =>
    let (host, port, rest) ← readHostAndPort kind scheme s
    return ⟨[], [], host, port, rest⟩
  | some (info, s) =>
    -- Nothing but an at-sign is passed over only at the very end.
    if info = [] ∧ s = [] ∧ isLast = false then throw .emptyHost
    let (user, pass) := readUserinfo info
    let (host, port, rest) ← readHostAndPort kind scheme s
    if host.isNone ∧ (user ≠ [] ∨ pass ≠ []) then throw .emptyHost
    return ⟨user, pass, host, port, rest⟩

/-! ## Path, query and fragment -/

/-- Whether a step of a path stands for the step itself. -/
def isSingleDot (s : List Char) : Bool :=
  s = ['.'] || s.map Char.toLower = "%2e".toList

/-- Whether a step of a path leads one step back. -/
def isDoubleDot (s : List Char) : Bool :=
  let s := s.map Char.toLower
  s = "..".toList || s = ".%2e".toList || s = "%2e.".toList || s = "%2e%2e".toList

/-- Whether a text is a letter and a colon or a bar. -/
def isDriveLetter (s : List Char) : Bool :=
  match s with
  | [c, d] => c.isAlpha && (d == ':' || d == '|')
  | _ => false

/-- The steps of a path, cut at its slashes. -/
def cutSteps (kind : SchemeKind) : List Char → List (List Char)
  | [] => [[]]
  | c :: s =>
    if isSlash kind c then [] :: cutSteps kind s
    else match cutSteps kind s with
      | [] => [[c]]
      | p :: ps => (c :: p) :: ps

/-- Walks the steps of a path and keeps those that stand. A drive letter at the beginning of the
path of a file stays. -/
def walk (kind : SchemeKind) : List (List Char) → List (List Char) → List (List Char)
  | kept, [] => kept
  | kept, s :: ss =>
    let isLast := ss.isEmpty
    if isDoubleDot s then
      -- There is no step back from the drive of a file.
      let kept :=
        if kind = .file ∧ kept.length = 1 ∧ kept.any isDriveLetter then kept else kept.dropLast
      walk kind (if isLast then kept ++ [[]] else kept) ss
    else if isSingleDot s then walk kind (if isLast then kept ++ [[]] else kept) ss
    else if kind = .file ∧ kept = [] ∧ isDriveLetter s then
      walk kind (kept ++ [s.take 1 ++ [':']]) ss
    else walk kind (kept ++ [percentEncode inPathSet s]) ss

/-- A path in its normal form, read from the text after its first slash. -/
def readSteps (kind : SchemeKind) (s : List Char) : List Char :=
  (walk kind [] (cutSteps kind s)).flatMap ('/' :: ·)

/-- The path that follows an authority. Under a special scheme there always is one. -/
def readPath (kind : SchemeKind) (s : List Char) : List Char :=
  match s with
  | [] => if kind = .other then [] else ['/']
  | c :: r => if isSlash kind c then readSteps kind r else readSteps kind s

/-- The text before the query and fragment, the query, and the fragment. -/
def cutTail (s : List Char) : List Char × Option (List Char) × Option (List Char) :=
  let (s, fragment) := match Text.cutFirst? '#' s with
    | some (s, f) => (s, some f)
    | none => (s, none)
  match Text.cutFirst? '?' s with
  | some (s, q) => (s, some q, fragment)
  | none => (s, none, fragment)

/-- The query in its normal form. -/
def encodeQuery (kind : SchemeKind) (q : List Char) : List Char :=
  percentEncode (if kind = .other then inQuerySet else inSpecialQuerySet) q

/-! ## Reading -/

/-- Reads what follows the slashes before an authority. -/
def readWithAuthority (kind : SchemeKind) (scheme s : List Char)
    (query fragment : Option (List Char)) : Except Fault Url := do
  let authority := s.takeWhile (!isSlash kind ·)
  let rest := s.dropWhile (!isSlash kind ·)
  let a ← readAuthority kind scheme authority
    (rest.isEmpty && query.isNone && fragment.isNone)
  return {
    scheme := scheme, username := a.username, password := a.password, host := a.host,
    port := a.port, path := readPath kind (a.rest ++ rest), query := query, fragment := fragment }

/-- A URL without authority. -/
def withoutAuthority (scheme path : List Char) (query fragment : Option (List Char)) : Url where
  scheme := scheme
  username := []
  password := []
  host := none
  port := none
  path := path
  query := query
  fragment := fragment

/-- Reads the host of a file; this machine counts as none, and a drive letter is no host. -/
def readFileHost (scheme s : List Char) (query fragment : Option (List Char)) :
    Except Fault Url := do
  let hostText := s.takeWhile (!isSlash .file ·)
  let rest := s.dropWhile (!isSlash .file ·)
  -- A drive letter belongs to the path.
  if isDriveLetter hostText then
    return withoutAuthority scheme (readSteps .file s) query fragment
  let host ← if hostText = [] then pure none
    else match readSpecialHost hostText with
      | .ok h => pure (if h = .domain "localhost".toList then none else some h)
      | .error f => throw (Fault.ofHost f)
  let path := readPath .file rest
  let host := if isDriveLetter ((path.drop 1).takeWhile (· ≠ '/')) then none else host
  return { withoutAuthority scheme path query fragment with host := host }

/-- Reads what follows the scheme of a file. -/
def readFile (scheme s : List Char) (query fragment : Option (List Char)) : Except Fault Url :=
  match s with
  | c :: d :: r =>
    if isSlash .file c ∧ isSlash .file d then readFileHost scheme r query fragment
    else .ok (withoutAuthority scheme (readPath .file s) query fragment)
  | s => .ok (withoutAuthority scheme (readPath .file s) query fragment)

/-- Reads a URL from which blanks that do not count were removed. -/
def read (s : List Char) : Except Fault Url :=
  match readScheme? s with
  | none => .error .noScheme
  | some (scheme, s) =>
    let kind := SchemeKind.of scheme
    let (s, query, fragment) := cutTail s
    let query := query.map (encodeQuery kind)
    let fragment := fragment.map (percentEncode inFragmentSet)
    match kind with
    | .file => readFile scheme s query fragment
    -- Any number of slashes, even none, leads to the authority.
    | .special => readWithAuthority kind scheme (s.dropWhile (isSlash kind)) query fragment
    | .other => match s with
      | '/' :: '/' :: r => readWithAuthority kind scheme r query fragment
      | '/' :: r => .ok (withoutAuthority scheme (readSteps kind r) query fragment)
      | s => .ok (withoutAuthority scheme (percentEncode isControl s) query fragment)

/-- Whether a character is a control or a space. -/
def isTrimmed (c : Char) : Bool := c.toNat ≤ 0x20

/-- Whether a character is passed over inside a URL. -/
def isSkipped (c : Char) : Bool := c == '\t' || c == '\n' || c == '\r'

/-- Reads a URL. Controls and spaces at its ends, and tabs and line ends in it, do not count. -/
def parse (s : List Char) : Except Fault Url :=
  read ((Text.trimWhile isTrimmed s).filter (!isSkipped ·))

/-! ## Views -/

/-- The host as it stands in the URL. -/
def hostText? (u : Url) : Option (List Char) := u.host.map Host.print

/-- The pairs of the query. -/
def pairs (u : Url) : List (List Char × List Char) := Form.pairs (u.query.getD [])

/-- The port that is dialed. -/
def effectivePort? (u : Url) : Option Nat :=
  match u.port with
  | some p => some p
  | none => defaultPort? u.scheme

/-- The path and query, as a request names them. -/
def target (u : Url) : List Char :=
  (if u.path = [] then ['/'] else u.path) ++ match u.query with
    | some q => '?' :: q
    | none => []

/-- Adds entries of a form to the query. -/
def addEntries (u : Url) (es : List Form.Entry) : Url :=
  let q := u.query.getD []
  { u with query := some (if q = [] then Form.print es else q ++ '&' :: Form.print es) }

/-- A URL in its written form. -/
def print (u : Url) : List Char :=
  let user := if u.username = [] ∧ u.password = [] then []
    else u.username ++ (if u.password = [] then [] else ':' :: u.password) ++ ['@']
  let port := match u.port with
    | some p => ':' :: Nat.toDigits 10 p
    | none => []
  let authority := match u.host with
    | some h => ['/', '/'] ++ user ++ h.print ++ port
    | none =>
      if SchemeKind.of u.scheme = .file then ['/', '/']
      else if u.path.take 2 = ['/', '/'] then ['/', '.'] else []
  u.scheme ++ ':' :: authority ++ u.path ++
    (match u.query with | some q => '?' :: q | none => []) ++
    (match u.fragment with | some f => '#' :: f | none => [])

end Url

end LogEgress
