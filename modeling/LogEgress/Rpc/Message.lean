import LogEgress.Binding
import LogEgress.Json.Decode

set_option autoImplicit false

/-! # Messages between scheduler and adapter

The JSON shapes of what a scheduler asks of an adapter and of what it answers.
-/

namespace LogEgress

open Json (Value FieldReader Reader)

namespace Binding

/-- A binding as JSON. -/
def write (b : Binding) : Value :=
  .ofMembers [("appId", .ofString b.appId), ("hostname", .ofString b.hostname),
    ("drain", .ofString b.drain)]

/-- The parts of a binding read so far. -/
structure Parts where
  appId : Option String := none
  hostname : Option String := none
  drain : Option String := none

/-- The fields of a binding. -/
def fields : List (FieldReader Parts) := [
  ⟨"appId", (·.appId.isSome), fun v s => do return { s with appId := ← Reader.string v }⟩,
  ⟨"hostname", (·.hostname.isSome), fun v s => do return { s with hostname := ← Reader.string v }⟩,
  ⟨"drain", (·.drain.isSome), fun v s => do return { s with drain := ← Reader.string v }⟩]

/-- Reads a binding; all its fields have to be there. -/
def read : Reader Binding := fun v => do
  let s ← FieldReader.record fields {} v
  return ⟨← Json.required s.appId, ← Json.required s.hostname, ← Json.required s.drain⟩

end Binding

namespace Rpc

/-- A message without fields. -/
def writeEmpty : Value := .object []

/-- Reads a message without fields. -/
def readEmpty : Reader Unit := FieldReader.record [] ()

/-- The answer to a request for the list of bindings. -/
def writeBindings (bs : List Binding) : Value :=
  .ofMembers [("bindings", .array (bs.map Binding.write))]

/-- The fields of a list of bindings. -/
def bindingsFields : List (FieldReader (Option (List Binding))) := [
  ⟨"bindings", Option.isSome, fun v _ => do return some (← Reader.list Binding.read v)⟩]

/-- Reads a list of bindings; one without the field is empty. -/
def readBindings : Reader (List Binding) := fun v => do
  return (← FieldReader.record bindingsFields none v).getD []

/-- A request that concerns one binding. -/
def writeRequest (b : Binding) : Value := .ofMembers [("binding", b.write)]

/-- The fields of a request that concerns one binding. -/
def requestFields : List (FieldReader (Option Binding)) := [
  ⟨"binding", Option.isSome, fun v _ => do return some (← Binding.read v)⟩]

/-- Reads a request that concerns one binding. -/
def readRequest : Reader Binding := fun v => do
  Json.required (← FieldReader.record requestFields none v)

/-- The body of a refusal. -/
structure Status where
  code : String
  message : String
  deriving DecidableEq

namespace Status

/-- A refusal as JSON. -/
def write (s : Status) : Value :=
  .ofMembers [("code", .ofString s.code), ("message", .ofString s.message)]

/-- The parts of a refusal read so far. -/
structure Parts where
  code : Option String := none
  message : Option String := none

/-- The fields of a refusal. -/
def fields : List (FieldReader Parts) := [
  ⟨"code", (·.code.isSome), fun v s => do return { s with code := ← Reader.string v }⟩,
  ⟨"message", (·.message.isSome), fun v s => do return { s with message := ← Reader.string v }⟩]

/-- Reads a refusal; both fields have to be there. -/
def read : Reader Status := fun v => do
  let s ← FieldReader.record fields {} v
  return ⟨← Json.required s.code, ← Json.required s.message⟩

end Status

/-- The code of a refusal for want of room. -/
def resourceExhausted : String := "RESOURCE_EXHAUSTED"

/-- The path of a request for the list of bindings. -/
def listPath : String := "/v1/ListBindings"

/-- The path of a request to add a binding. -/
def createPath : String := "/v1/CreateBinding"

/-- The path of a request to remove a binding. -/
def deletePath : String := "/v1/DeleteBinding"

end Rpc

end LogEgress
