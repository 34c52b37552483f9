import LogEgress.Base64

set_option autoImplicit false

/-! # PEM files

A PEM file holds sections, each between a line that begins it and a line that ends it, with the
content in base64. Sections of an unknown label and lines outside of sections are passed over. The
sections before a fault can be read, so a reader that needs only the first of them does not meet
it.
-/

namespace LogEgress.Tls.Pem

/-- What a section holds. -/
inductive Kind where
  | certificate
  | publicKey
  | rsaKey
  | privateKey
  | ecKey
  | revocations
  | request
  | helloConfig
  deriving DecidableEq, Repr

/-- The label of a section. -/
def Kind.label : Kind → String
  | .certificate => "CERTIFICATE"
  | .publicKey => "PUBLIC KEY"
  | .rsaKey => "RSA PRIVATE KEY"
  | .privateKey => "PRIVATE KEY"
  | .ecKey => "EC PRIVATE KEY"
  | .revocations => "X509 CRL"
  | .request => "CERTIFICATE REQUEST"
  | .helloConfig => "ECHCONFIG"

/-- All kinds. -/
def Kind.all : List Kind :=
  [.certificate, .publicKey, .rsaKey, .privateKey, .ecKey, .revocations, .request, .helloConfig]

/-- The kind with a label. -/
def Kind.ofLabel? (label : Octets) : Option Kind :=
  Kind.all.find? fun k => utf8 k.label.toList = label

/-- A section. -/
structure Section where
  kind : Kind
  content : Octets
  deriving DecidableEq

/-- Why a file cannot be read on. -/
inductive Fault where
  /-- A line that begins a section is not well-formed. -/
  | badBegin
  /-- The file ends inside a section. -/
  | noEnd
  /-- The content of a section is not base64. -/
  | badContent
  deriving DecidableEq, Repr

/-- The octets of an ASCII text. -/
def ascii (s : String) : Octets := utf8 s.toList

/-- The lines of a file; a carriage return ends a line too. -/
def lines : Octets → List Octets
  | [] => [[]]
  | b :: o =>
    if b = 10 ∨ b = 13 then [] :: lines o
    else match lines o with
      | [] => [[b]]
      | l :: ls => (b :: l) :: ls

/-- How a line begins that begins a section. -/
def beginMark : Octets := ascii "-----BEGIN "

/-- The rest of a line after a beginning that it has. -/
def strip? (start line : Octets) : Option Octets :=
  if start.isPrefixOf line then some (line.drop start.length) else none

/-- The label in the rest of a line that begins a section: five hyphens follow it. -/
def readLabel? (rest : Octets) : Option Octets :=
  let trailer := rest.reverse.takeWhile fun b => b = 45 ∨ b = 32
  if trailer.count 45 = 5 then
    let size := (trailer.reverse.dropWhile (· = 32)).length
    some (rest.take (rest.length - size))
  else none

/-- Whether a line ends the section with a label. -/
def isEnd (label line : Octets) : Bool :=
  (ascii "-----END " ++ label ++ ascii "-----").isPrefixOf line

/-- Whether an octet is passed over in base64. -/
def isSpace (b : UInt8) : Bool := b = 32 || (9 ≤ b && b ≤ 13)

/-- The content of a section: base64 with blanks, whose last group need not be filled up. -/
def readContent (text : Octets) : Except Fault Octets :=
  match Base64.decodeLoosely? (text.filter (!isSpace ·)) with
  | some o => .ok o
  | none => .error .badContent

/-- Reads sections line by line: `label?` is the label of the section that a line stands in, and
`text` its content so far. A fault ends the list. -/
def scan : Option Octets → Octets → List Octets → List (Except Fault Section)
  | none, _, [] => []
  | some _, _, [] => [.error .noEnd]
  | label?, text, line :: ls =>
    match strip? beginMark line with
    | some rest => match readLabel? rest with
      | some label => scan (some label) text ls
      | none => [.error .badBegin]
    | none => match label? with
      | none => scan none [] ls
      | some label =>
        if isEnd label line then
          match Kind.ofLabel? label with
          -- A section of an unknown kind is passed over with all that it holds.
          | none => scan none [] ls
          | some kind => match readContent text with
            | .ok o => .ok ⟨kind, o⟩ :: scan none [] ls
            | .error f => [.error f]
        else scan (some label) (text ++ line) ls

/-- The sections of a file. -/
def sections (file : Octets) : List (Except Fault Section) := scan none [] (lines file)

/-- The certificates of a file. -/
def certificates (file : Octets) : Except Fault (List Octets) := do
  let ss ← (sections file).mapM id
  return (ss.filter (·.kind = .certificate)).map (·.content)

/-- Whether a section holds a private key. -/
def Section.isKey (s : Section) : Bool :=
  s.kind = .rsaKey || s.kind = .privateKey || s.kind = .ecKey

/-- The first private key among sections. -/
def firstKey : List (Except Fault Section) → Except Fault (Option Section)
  | [] => .ok none
  | .error f :: _ => .error f
  | .ok s :: ss => if s.isKey then .ok (some s) else firstKey ss

/-- The first private key of a file. -/
def privateKey (file : Octets) : Except Fault (Option Section) := firstKey (sections file)

end LogEgress.Tls.Pem
