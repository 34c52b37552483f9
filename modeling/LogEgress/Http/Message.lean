import LogEgress.Http.MediaType
import LogEgress.Text.Encoding

set_option autoImplicit false

/-! # Requests and responses

What the program asks of other servers by HTTP and what it answers itself. How an exchange with
another server can end is listed in `Outcome`.
-/

namespace LogEgress.Http

/-- A request: its method, what it is for, and its content. -/
structure Request where
  method : String
  /-- The path with the query, or a whole address. -/
  target : String
  contentType : Option String := none
  /-- The kind of content that the answer is to have. -/
  accept : Option String := none
  body : Octets := []
  deriving DecidableEq, Repr

/-- What follows the scheme of an address and the two slashes after it. -/
def afterScheme? (s : List Char) : Option (List Char) :=
  let scheme := s.takeWhile fun c => c.isAlphanum || c ∈ ['+', '-', '.']
  match s.drop scheme.length with
  | ':' :: '/' :: '/' :: r => if scheme = [] then none else some r
  | _ => none

/-- The path of a request, without the query. In a whole address it follows the host. -/
def Request.path (r : Request) : List Char :=
  let s := r.target.toList
  let s := match afterScheme? s with
    | some r => r.dropWhile fun c => c ∉ ['/', '?', '#']
    | none => s
  s.takeWhile fun c => c ∉ ['?', '#']

/-- A response. -/
structure Response where
  status : Nat
  contentType : Option String := none
  body : Octets := []
  deriving DecidableEq, Repr

/-- The label by which the content type of a response names an encoding. -/
def Response.charset? (r : Response) : Option (List Char) :=
  (r.contentType.bind MediaType.parse?).bind (·.parameter? "charset")

/-- The encoding that the content type of a response names by a label that is known, or UTF-8. -/
def Response.encoding (pages : CodePages) (r : Response) : Encoding :=
  (r.charset?.bind (Encoding.ofLabel? pages)).getD .utf8

/-- The content of a response as a text. -/
def Response.text (pages : CodePages) (r : Response) : List Char := (r.encoding pages).read r.body

/-- Whether a status means success. -/
def isSuccess (status : Nat) : Bool := 200 ≤ status && status < 300

/-- How an exchange ends for the side that made the request. -/
inductive Outcome where
  /-- No connection was made. -/
  | refused (detail : String)
  /-- No answer came in time. -/
  | timedOut
  /-- The connection broke. -/
  | broken (detail : String)
  /-- There was an answer, but its content broke off or did not come in time. -/
  | cutOff (status : Nat) (detail : String)
  | answered (response : Response)
  deriving DecidableEq, Repr

/-- What a failed exchange is reported as. -/
def Outcome.detail : Outcome → String
  | .refused s => s
  | .timedOut => "operation timed out"
  | .broken s => s
  | .cutOff _ s => s
  | .answered _ => ""

/-- The status of the answer, if there was one. -/
def Outcome.status? : Outcome → Option Nat
  | .cutOff status _ => some status
  | .answered r => some r.status
  | _ => none

/-- An exchange as it ends over a network on which the other server can be reached, or cannot. -/
def Outcome.over (reachable : Bool) (o : Outcome) : Outcome :=
  if reachable then o else .refused "connection refused"

/-- The content type of JSON. -/
def jsonType : String := "application/json"

end LogEgress.Http
