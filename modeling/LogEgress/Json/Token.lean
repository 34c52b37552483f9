import LogEgress.Text.Hex
import LogEgress.Text.Utf8

set_option autoImplicit false

/-! # JSON tokens

`Token.ofText` cuts a text into tokens. It never fails: at the first place that begins no token
it puts `Token.bad` and stops, so whoever reads the tokens in order meets the fault exactly when
everything before it was in order.
-/

namespace LogEgress.Json

/-- A token. -/
inductive Token where
  | openBrace
  | closeBrace
  | openBracket
  | closeBracket
  | colon
  | comma
  | null
  | bool (value : Bool)
  /-- A number, as it is written. -/
  | number (literal : List Char)
  /-- A string, or none where something in it stands for no character. -/
  | string (text : Option (List Char))
  /-- A place that begins no token. -/
  | bad
  deriving DecidableEq, Repr

/-! ## Strings -/

/-- A piece of a string: a character, or an escaped sixteen-bit unit. -/
inductive Piece where
  | char (c : Char)
  | unit (n : Nat)
  deriving DecidableEq, Repr

/-- The number written with four hexadecimal digits. -/
def hexUnit? (a b c d : Char) : Option Nat := do
  let w ← Text.hexDigit? a
  let x ← Text.hexDigit? b
  let y ← Text.hexDigit? c
  let z ← Text.hexDigit? d
  return ((w * 16 + x) * 16 + y) * 16 + z

/-- The character of an escape other than `\u`. -/
def simpleEscape? : Char → Option Char
  | '"' => some '"'
  | '\\' => some '\\'
  | '/' => some '/'
  | 'b' => some '\x08'
  | 'f' => some '\x0c'
  | 'n' => some '\n'
  | 'r' => some '\r'
  | 't' => some '\t'
  | _ => none

/-- Reads the rest of a string up to its closing quote. -/
def lexString : List Char → Option (List Piece × List Char)
  | [] => none
  | '"' :: s => some ([], s)
  | '\\' :: 'u' :: a :: b :: c :: d :: s => do
    let n ← hexUnit? a b c d
    let (ps, r) ← lexString s
    return (.unit n :: ps, r)
  | '\\' :: e :: s => do
    let c ← simpleEscape? e
    let (ps, r) ← lexString s
    return (.char c :: ps, r)
  | c :: s =>
    if c.toNat < 0x20 ∨ c = '\\' then none
    else do
      let (ps, r) ← lexString s
      return (.char c :: ps, r)

/-- The characters of a string's pieces: an escaped pair of surrogates is one character, and a
surrogate alone is none. -/
def joinPieces : List Piece → Option (List Char)
  | [] => some []
  | .char c :: ps => (joinPieces ps).map (c :: ·)
  | .unit h :: .unit l :: ps =>
    if 0xd800 ≤ h ∧ h < 0xdc00 then
      if 0xdc00 ≤ l ∧ l < 0xe000 then
        (joinPieces ps).map (Char.ofNat (0x10000 + (h - 0xd800) * 0x400 + (l - 0xdc00)) :: ·)
      else none
    else if 0xdc00 ≤ h ∧ h < 0xe000 then none
    else (joinPieces (.unit l :: ps)).map (Char.ofNat h :: ·)
  | .unit n :: ps =>
    if 0xd800 ≤ n ∧ n < 0xe000 then none
    else (joinPieces ps).map (Char.ofNat n :: ·)

/-! ## Numbers -/

/-- The digits at the beginning of a text, if there is one, and what follows them. -/
def lexDigits? (s : List Char) : Option (List Char × List Char) :=
  match s.takeWhile Char.isDigit with
  | [] => none
  | ds => some (ds, s.dropWhile Char.isDigit)

/-- The whole part of a number: `0`, or digits that begin with another one. -/
def lexWhole? : List Char → Option (List Char × List Char)
  | '0' :: c :: s => if c.isDigit then none else some (['0'], c :: s)
  | s => lexDigits? s

/-- The fraction of a number, empty if there is none. -/
def lexFraction? : List Char → Option (List Char × List Char)
  | '.' :: s => (lexDigits? s).map fun (ds, r) => ('.' :: ds, r)
  | s => some ([], s)

/-- The exponent of a number, empty if there is none. -/
def lexExponent? : List Char → Option (List Char × List Char)
  | c :: s =>
    if c = 'e' ∨ c = 'E' then
      match s with
      | g :: s' =>
        if g = '+' ∨ g = '-' then (lexDigits? s').map fun (ds, r) => (c :: g :: ds, r)
        else (lexDigits? s).map fun (ds, r) => (c :: ds, r)
      | [] => none
    else some ([], c :: s)
  | [] => some ([], [])

/-- A number without its sign. -/
def lexUnsigned? (s : List Char) : Option (List Char × List Char) := do
  let (whole, s) ← lexWhole? s
  let (fraction, s) ← lexFraction? s
  let (exponent, s) ← lexExponent? s
  return (whole ++ fraction ++ exponent, s)

/-- A number. -/
def lexNumber? : List Char → Option (List Char × List Char)
  | '-' :: s => (lexUnsigned? s).map fun (ds, r) => ('-' :: ds, r)
  | s => lexUnsigned? s

/-! ## Tokens -/

/-- The blanks between tokens. -/
def isSpace (c : Char) : Bool := c = ' ' ∨ c = '\n' ∨ c = '\t' ∨ c = '\r'

/-- The first token of a text that begins with a character that is no blank. -/
def lexToken (c : Char) (s : List Char) : Option (Token × List Char) :=
  match c with
  | '\x7b' => some (.openBrace, s)
  | '\x7d' => some (.closeBrace, s)
  | '[' => some (.openBracket, s)
  | ']' => some (.closeBracket, s)
  | ':' => some (.colon, s)
  | ',' => some (.comma, s)
  | '"' => (lexString s).map fun (ps, r) => (.string (joinPieces ps), r)
  | 'n' => match s with
    | 'u' :: 'l' :: 'l' :: r => some (.null, r)
    | _ => none
  | 't' => match s with
    | 'r' :: 'u' :: 'e' :: r => some (.bool true, r)
    | _ => none
  | 'f' => match s with
    | 'a' :: 'l' :: 's' :: 'e' :: r => some (.bool false, r)
    | _ => none
  | c => (lexNumber? (c :: s)).map fun (ds, r) => (.number ds, r)

/-- The tokens of a text, each found in the rest of the one before. The first number bounds how
many steps are taken. -/
def lex : Nat → List Char → List Token
  | 0, _ => []
  | _ + 1, [] => []
  | n + 1, c :: s =>
    if isSpace c then lex n s
    else match lexToken c s with
      | some (t, r) => t :: lex n r
      | none => [.bad]

/-- The tokens of a text. Each takes at least one character, so the length of the text bounds the
steps. -/
def Token.ofText (s : List Char) : List Token := lex s.length s

/-- What a token that was read in two ways is: a string that came out differently is none. -/
def Token.agree (t u : Token) : Token := if t = u then t else .string none

/-- The tokens of octets. Where they are not UTF-8 there begins no token, and a string with such a
part stands for no text. These strings come out differently when two different characters are put
in place of the parts. -/
def Token.ofOctets (o : Octets) : List Token :=
  List.zipWith Token.agree (Token.ofText (Utf8.decodeWith '\ufffd' o))
    (Token.ofText (Utf8.decodeWith '\ufffe' o))

end LogEgress.Json
