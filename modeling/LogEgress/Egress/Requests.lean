import LogEgress.Binding
import LogEgress.Egress.Writer
import LogEgress.Http.Message
import LogEgress.Syslog.Message
import LogEgress.Url

set_option autoImplicit false

/-! # Writing by requests

The writer for drains that take HTTP requests: one request for each line, with the message as its
body. How each exchange ends is fixed in advance.
-/

namespace LogEgress.Egress.Requests

/-- How each exchange ends, counted from 0. -/
abbrev Network := Nat → Http.Outcome

/-- The state of a writer: the requests made so far, and the number of lines written. -/
structure State where
  requests : List Http.Request := []
  written : Nat := 0
  deriving DecidableEq, Repr

/-- The request that carries a message. -/
def request (u : Url) (message : Octets) : Http.Request where
  method := "POST"
  target := String.ofList u.target
  contentType := some "text/plain"
  body := message

/-- What the end of an exchange means for the write. The content of the answer does not count. -/
def resultOf (o : Http.Outcome) : Result :=
  match o.status? with
  | some status => if Http.isSuccess status then .ok () else .error (.httpStatus status)
  | none => .error (if o = .timedOut then .ioTimeout else .http o.detail)

/-- Writes an envelope. One without a log line is passed over. -/
def write (net : Network) (b : Binding) (u : Url) (e : Envelope) (s : State) : Result × State :=
  match Syslog.message? b e with
  | none => (.ok (), s)
  | some message =>
    let result := resultOf (net s.requests.length)
    let s := { s with requests := s.requests ++ [request u message] }
    (result, match result with
      | .ok () => { s with written := s.written + 1 }
      | .error _ => s)

/-- There is nothing to close. -/
def close (s : State) : Result × State := (.ok (), s)

/-- The writer for the drain of a binding. -/
def writer (net : Network) (b : Binding) (u : Url) : Writer State := ⟨write net b u, close⟩

end LogEgress.Egress.Requests
