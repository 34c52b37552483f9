import LogEgress.Json.Token

set_option autoImplicit false

/-! # JSON values

A value is read from the tokens of a text. Reading never fails either: where the grammar is
violated the value has the part `Value.broken`, and everything before it is as if the fault were
not there. `Value.print` writes a value without blanks.
-/

namespace LogEgress.Json

/-- A JSON value. -/
inductive Value where
  | null
  | bool (value : Bool)
  /-- A number, as it is written. -/
  | number (literal : List Char)
  /-- A string, or none where something in it stands for no character. -/
  | string (text : Option (List Char))
  | array (elements : List Value)
  /-- The members in the order of the text. A key is none where it cannot be read. -/
  | object (members : List (Option (List Char) × Value))
  /-- The place where the grammar is violated. -/
  | broken

/-! ## Reading -/

mutual

/-- Reads a value off the front of some tokens. The number bounds the nesting of calls. -/
def readValue : Nat → List Token → Value × List Token
  | 0, _ => (.broken, [.bad])
  | n + 1, ts =>
    match ts with
    | .null :: r => (.null, r)
    | .bool b :: r => (.bool b, r)
    | .number ds :: r => (.number ds, r)
    | .string s :: r => (.string s, r)
    | .openBracket :: .closeBracket :: r => (.array [], r)
    | .openBracket :: r =>
      let (vs, r) := readElements n r
      (.array vs, r)
    | .openBrace :: .closeBrace :: r => (.object [], r)
    | .openBrace :: r =>
      let (ms, r) := readMembers n r
      (.object ms, r)
    | _ => (.broken, [.bad])

/-- Reads the elements of an array that has at least one more, and its closing bracket. -/
def readElements : Nat → List Token → List Value × List Token
  | 0, _ => ([.broken], [.bad])
  | n + 1, ts =>
    match readValue n ts with
    | (v, .comma :: r) =>
      let (vs, r) := readElements n r
      (v :: vs, r)
    | (v, .closeBracket :: r) => ([v], r)
    | (v, _) => ([v, .broken], [.bad])

/-- Reads the members of an object that has at least one more, and its closing brace. -/
def readMembers : Nat → List Token → List (Option (List Char) × Value) × List Token
  | 0, _ => ([(none, .broken)], [.bad])
  | n + 1, ts =>
    match ts with
    | .string k :: .colon :: r =>
      match readValue n r with
      -- After a comma there has to be another member.
      | (v, .comma :: r) =>
        let (ms, r) := readMembers n r
        ((k, v) :: ms, r)
      | (v, .closeBrace :: r) => ([(k, v)], r)
      | (v, _) => ([(k, v), (none, .broken)], [.bad])
    | .string k :: _ => ([(k, .broken)], [.bad])
    | _ => ([(none, .broken)], [.bad])

end

/-- The value at the beginning of some tokens, and whether they end there. -/
def Value.ofTokens (ts : List Token) : Value × Bool :=
  let (v, r) := readValue (2 * ts.length + 2) ts
  (v, r.isEmpty)

/-- The value at the beginning of a text, and whether the text ends there. -/
def Value.ofText (s : List Char) : Value × Bool := Value.ofTokens (Token.ofText s)

/-- The value at the beginning of some octets, and whether they end there. -/
def Value.ofOctets (o : Octets) : Value × Bool := Value.ofTokens (Token.ofOctets o)

namespace Value

mutual

/-- Whether the grammar is violated nowhere inside. -/
def intact : Value → Bool
  | .broken => false
  | .array vs => intactAll vs
  | .object ms => intactMembers ms
  | _ => true

/-- Whether all elements are intact. -/
def intactAll : List Value → Bool
  | [] => true
  | v :: vs => v.intact && intactAll vs

/-- Whether the values of all members are intact. -/
def intactMembers : List (Option (List Char) × Value) → Bool
  | [] => true
  | (_, v) :: ms => v.intact && intactMembers ms

end

/-! ## Printing -/

/-- A character as it stands in a string. -/
def printChar (c : Char) : List Char :=
  match c with
  | '"' => ['\\', '"']
  | '\\' => ['\\', '\\']
  | '\x08' => ['\\', 'b']
  | '\x0c' => ['\\', 'f']
  | '\n' => ['\\', 'n']
  | '\r' => ['\\', 'r']
  | '\t' => ['\\', 't']
  | c =>
    if c.toNat < 0x20 then
      ['\\', 'u', '0', '0', Text.hexLower (c.toNat / 16), Text.hexLower (c.toNat % 16)]
    else [c]

/-- A text as a string. -/
def printString (s : List Char) : List Char := '"' :: s.flatMap printChar ++ ['"']

mutual

/-- The written form of a value, without blanks. -/
def print : Value → List Char
  | .null => "null".toList
  | .bool true => "true".toList
  | .bool false => "false".toList
  | .number ds => ds
  | .string none => []
  | .string (some s) => printString s
  | .array vs => '[' :: printElements vs ++ [']']
  | .object ms => '\x7b' :: printMembers ms ++ ['\x7d']
  | .broken => []

/-- The written forms of elements, a comma between neighbours. -/
def printElements : List Value → List Char
  | [] => []
  | [v] => v.print
  | v :: w :: vs => v.print ++ ',' :: printElements (w :: vs)

/-- The written form of a member. -/
def printMember : Option (List Char) × Value → List Char
  | (none, v) => ':' :: v.print
  | (some k, v) => printString k ++ ':' :: v.print

/-- The written forms of members, a comma between neighbours. -/
def printMembers : List (Option (List Char) × Value) → List Char
  | [] => []
  | [m] => printMember m
  | m :: n :: ms => printMember m ++ ',' :: printMembers (n :: ms)

end

/-- The value of a text. -/
def ofString (s : String) : Value := .string (some s.toList)

/-- The value of a natural number. -/
def ofNat (n : Nat) : Value := .number (Nat.toDigits 10 n)

/-- An object with the given members. -/
def ofMembers (ms : List (String × Value)) : Value :=
  .object (ms.map fun (k, v) => (some k.toList, v))

/-- The written form of a value as a string. -/
def toText (v : Value) : String := String.ofList v.print

/-- The number that digits alone stand for. -/
def natural? : Value → Option Nat
  | .number ds =>
    if ds.all Char.isDigit then some (ds.foldl (fun n c => 10 * n + (c.toNat - 48)) 0) else none
  | _ => none

end Value

end LogEgress.Json
