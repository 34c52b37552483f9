import LogEgress.Http.Message
import LogEgress.Rpc.Error
import LogEgress.Rpc.Message

set_option autoImplicit false

/-! # The calls that a scheduler makes

The scheduler's side of a call: the request, and what the end of the exchange means.
-/

namespace LogEgress.Rpc

open Json (Value Reader)

/-- A request with a JSON body. -/
def post (path : String) (v : Value) : Http.Request where
  method := "POST"
  target := path
  contentType := some Http.jsonType
  body := utf8 v.print

/-- The request for the list of bindings. -/
def listRequest : Http.Request := post listPath writeEmpty

/-- The request to add a binding. -/
def createRequest (b : Binding) : Http.Request := post createPath (writeRequest b)

/-- The request to delete a binding. -/
def deleteRequest (b : Binding) : Http.Request := post deletePath (writeRequest b)

/-- The error that an answer without success stands for. -/
def Error.ofText (status : Nat) (text : List Char) : Error :=
  match Json.decode Status.read text with
  | .ok s => if s.code = Rpc.resourceExhausted then .resourceExhausted else .status status s.message
  | .error _ => .status status (String.ofList text)

/-- What the end of an exchange means for the call. -/
def resultOf {α : Type} (pages : CodePages) (read : Reader α) : Http.Outcome → Except Error α
  | .refused s => .error (.connect s)
  | .timedOut => .error .timeout
  | .broken s => .error (.transport s)
  -- Without success what there is of the content does not count.
  | .cutOff status s =>
    if Http.isSuccess status then .error (.transport s) else .error (.ofText status [])
  | .answered r =>
    if Http.isSuccess r.status then
      match Json.decodeOctets read r.body with
      | .ok x => .ok x
      | .error _ => .error (.transport "error decoding response body")
    else .error (.ofText r.status (r.text pages))

end LogEgress.Rpc
