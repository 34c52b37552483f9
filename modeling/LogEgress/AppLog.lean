import LogEgress.Envelope.Json
import LogEgress.Http.Message
import LogEgress.Http.Status
import LogEgress.Notice

set_option autoImplicit false

/-! # Messages into the logs of applications

The program itself sometimes has something to say to an application. The message is an envelope
that goes to the log ingress of the platform, or, where none is configured, into the operator's
log.
-/

namespace LogEgress.AppLog

/-- Why a message could not be sent. -/
structure Error where
  detail : String
  deriving DecidableEq, Repr

/-- The wording of an error. -/
def Error.message (e : Error) : String := "failed to emit log: " ++ e.detail

/-- Sends a message. -/
abbrev Client := Envelope → Except Error Unit

/-- The request that brings a message to the log ingress. -/
def request (target : String) (e : Envelope) : Http.Request where
  method := "POST"
  target := target
  contentType := some Http.jsonType
  body := utf8 (Envelope.writeBatch [e.toForm]).print

/-- What the end of an exchange with the log ingress means. -/
def resultOf (o : Http.Outcome) : Except Error Unit :=
  match o.status? with
  | some status =>
    if Http.isSuccess status then .ok ()
    else .error ⟨"log ingress returned " ++ Http.statusLine status⟩
  | none => .error ⟨o.detail⟩

/-- The notice that stands for a message where there is no log ingress. -/
def localNotice (e : Envelope) : Notice :=
  let payload := match e.log with
    | some l => Utf8.decodeLossy l.payload
    | none => []
  ⟨.warn, "app " ++ e.sourceId ++ ": " ++ String.ofList payload⟩

end LogEgress.AppLog
