import LogEgress.Json.Number
import LogEgress.Json.Value
import LogEgress.Sorted.Map

set_option autoImplicit false

/-! # Reading typed values out of JSON

A reader takes the parts of a value in the order of the text and stops at the first fault. Two
faults are told apart: the text is no JSON (`malformed`), or it is JSON of another shape
(`mismatch`).
-/

namespace LogEgress.Json

/-- Why a text cannot be read as a type. -/
inductive Fault where
  /-- The text is not JSON. -/
  | malformed
  /-- The text is JSON of another shape. -/
  | mismatch
  deriving DecidableEq, Repr

/-- Reads a value as a type. -/
abbrev Reader (α : Type) := Value → Except Fault α

namespace Value

/-- The fault of a value that does not have the shape looked for. A number that is not finite is no
JSON. -/
def refusal : Value → Fault
  | .broken => .malformed
  | .string none => .malformed
  | .number ds => if (Scaled.ofLiteral ds).isFinite then .mismatch else .malformed
  | _ => .mismatch

end Value

namespace Reader

/-- Reads a string. -/
def string : Reader String
  | .string (some s) => .ok (String.ofList s)
  | v => .error v.refusal

/-- Reads a natural number up to a greatest one. -/
def natural (greatest : Nat) : Reader Nat := fun v =>
  match v.natural? with
  | some n => if n ≤ greatest then .ok n else .error v.refusal
  | none => .error v.refusal

/-- Reads `null` as none. -/
def optional {α : Type} (read : Reader α) : Reader (Option α)
  | .null => .ok none
  | v => (read v).map some

/-- Reads the elements of an array. -/
def list {α : Type} (read : Reader α) : Reader (List α)
  | .array vs => vs.mapM read
  | v => .error v.refusal

/-- Passes over a value of any shape. -/
def ignore : Reader Unit := fun v => if v.intact then .ok () else .error .malformed

/-- Reads a member of an object whose keys are free. -/
def entry {α : Type} (read : Reader α) (m : Option (List Char) × Value) :
    Except Fault (String × α) :=
  match m with
  | (some k, v) => (read v).map fun x => (String.ofList k, x)
  | (none, _) => .error .malformed

/-- Reads an object whose keys are free. Of several members with one key the last one counts. -/
def map {α : Type} (read : Reader α) : Reader (SortedMap String α)
  | .object ms => (ms.mapM (entry read)).map SortedMap.ofList
  | v => .error v.refusal

/-- One of several names, written as a string or as the key of an object with the one member
`null`. -/
def choice {α : Type} (name : String → Option α) : Reader α
  | .string (some s) => match name (String.ofList s) with
    | some x => .ok x
    | none => .error .mismatch
  | .object ((some k, v) :: ms) => match name (String.ofList k) with
    | some x => match v with
      | .null => if ms.isEmpty then .ok x else .error .malformed
      | v => .error v.refusal
    | none => .error .mismatch
  | _ => .error .malformed

end Reader

/-! ## Records -/

/-- How a field of a record is read into a state `σ`. -/
structure FieldReader (σ : Type) where
  /-- Its key. -/
  name : String
  /-- Whether the state has it already. -/
  isSet : σ → Bool
  /-- Reads its value into the state. -/
  read : Value → σ → Except Fault σ

namespace FieldReader

variable {σ : Type}

/-- Reads a member into the state: a field's key may come once, an unknown one is passed over. -/
def member (fields : List (FieldReader σ)) (state : σ) (m : Option (List Char) × Value) :
    Except Fault σ :=
  match m with
  | (none, _) => .error .malformed
  | (some k, v) =>
    match fields.find? fun f => f.name.toList = k with
    | some f => if f.isSet state then .error .mismatch else f.read v state
    | none => (Reader.ignore v).map fun _ => state

/-- Reads the elements of an array into the fields, in their order. There may be fewer elements
than fields, but not more. -/
def elements : List (FieldReader σ) → σ → List Value → Except Fault σ
  | _, state, [] => .ok state
  | [], _, _ :: _ => .error .malformed
  | f :: fs, state, v :: vs => do
    let state ← f.read v state
    elements fs state vs

/-- Reads a record, written as an object or as the array of its fields. -/
def record (fields : List (FieldReader σ)) (start : σ) : Reader σ
  | .object ms => ms.foldlM (member fields) start
  | .array vs => elements fields start vs
  | v => .error v.refusal

end FieldReader

/-- The value of a field that has to be there. -/
def required {α : Type} : Option α → Except Fault α
  | some x => .ok x
  | none => .error .mismatch

/-- Reads a value after which there must be nothing. -/
def readLast {α : Type} (read : Reader α) (found : Value × Bool) : Except Fault α := do
  let (v, isEnd) := found
  let x ← read v
  if isEnd then .ok x else .error .malformed

/-- Reads a whole text. -/
def decode {α : Type} (read : Reader α) (text : List Char) : Except Fault α :=
  readLast read (Value.ofText text)

/-- Reads octets as a whole. -/
def decodeOctets {α : Type} (read : Reader α) (o : Octets) : Except Fault α :=
  readLast read (Value.ofOctets o)

end LogEgress.Json
