import LogEgress.Adapter.Subscriptions
import LogEgress.Http.MediaType
import LogEgress.Http.Message
import LogEgress.Rpc.Message

set_option autoImplicit false

/-! # The calls that an adapter answers

A scheduler lists, adds and deletes the bindings of an adapter by HTTP requests with JSON bodies.
`Rpc.answer` is the adapter's side: it changes what the adapter holds only with status 200.
-/

namespace LogEgress.Rpc

open Json (Value Reader)

/-- The size of the longest body that is read. -/
def bodyLimit : Nat := 2 * 1024 * 1024

/-- A response without a body. -/
def bare (status : Nat) : Http.Response := { status := status }

/-- A response with a JSON body. -/
def reply (status : Nat) (v : Value) : Http.Response where
  status := status
  contentType := some Http.jsonType
  body := utf8 v.print

/-- Whether the body of a request is said to be JSON. -/
def hasJson (r : Http.Request) : Bool :=
  match r.contentType with
  | some t => match Http.MediaType.parse? t with
    | some m => m.isJson
    | none => false
  | none => false

/-- Reads the value at the beginning of a body. What follows it does not count. -/
def readBody {α : Type} (read : Reader α) (body : Octets) : Except Json.Fault α :=
  read (Value.ofOctets body).1

/-- What a request is about, or the status with which it is turned away. -/
def accept {α : Type} (read : Reader α) (r : Http.Request) : Except Nat α :=
  if r.method ≠ "POST" then .error 405
  else if !hasJson r then .error 415
  else if bodyLimit < r.body.length then .error 413
  -- What is no JSON and what is JSON of another shape are told apart.
  else match readBody read r.body with
    | .ok x => .ok x
    | .error .malformed => .error 400
    | .error .mismatch => .error 422

/-- The status of a refusal for want of room. -/
def tooManyRequests : Nat := 429

/-- The answer to the result of adding a binding. -/
def replyAdded : Except Adapter.Refusal Unit → Http.Response
  | .ok () => reply 200 writeEmpty
  | .error e => reply tooManyRequests (Status.write ⟨resourceExhausted, e.message⟩)

/-- What an adapter answers at a time, the messages and notices that come of it, and what it holds
afterwards. -/
structure Answer where
  response : Http.Response
  addition : Option Adapter.Addition := none
  notices : List Notice := []
  adapter : Adapter.Subscriptions

/-- Answers a request. -/
def answer (now : Int64) (r : Http.Request) (s : Adapter.Subscriptions) : Answer :=
  if r.path = listPath.toList then
    match accept readEmpty r with
    | .ok () => { response := reply 200 (writeBindings s.list), adapter := s }
    | .error status => { response := bare status, adapter := s }
  else if r.path = createPath.toList then
    match accept readRequest r with
    | .ok b =>
      let (a, s) := s.add b now
      { response := replyAdded a.result, addition := some a, notices := a.notices, adapter := s }
    | .error status => { response := bare status, adapter := s }
  else if r.path = deletePath.toList then
    match accept readRequest r with
    | .ok b =>
      let (ns, s) := s.delete b
      { response := reply 200 writeEmpty, notices := ns, adapter := s }
    | .error status => { response := bare status, adapter := s }
  else { response := bare 404, adapter := s }

end LogEgress.Rpc
