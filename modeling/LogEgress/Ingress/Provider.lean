import LogEgress.Drain
import LogEgress.Http.Message
import LogEgress.Http.Status
import LogEgress.Ingress.EventStream
import LogEgress.Text.Integer
import LogEgress.Url

set_option autoImplicit false

/-! # The log provider

Where the log provider is, and how a stream of one application's logs is asked of it.
-/

namespace LogEgress.Ingress

/-- The address of the log provider. -/
structure Provider where
  host : String
  port : Nat
  /-- Whether it is spoken to over TLS. -/
  secure : Bool := false
  deriving DecidableEq, Repr

namespace Provider

/-- Reads the address of a provider: a host, in brackets or not, and a port after the last
colon. -/
def read (addr : String) (secure : Bool) : Except Error Provider :=
  match Text.cutLast? ':' addr.toList with
  | none => .error (.dial ("missing port in " ++ addr))
  | some (host, port) => match Text.readNat Text.greatest16 port with
    | .error f => .error (.dial ("invalid port in " ++ addr ++ ": " ++ f.message))
    | .ok n => .ok ⟨String.ofList (Drain.stripBrackets host), n, secure⟩

/-- An address with a port. -/
def printEndpoint (x : IpAddr) (port : Nat) : String :=
  (match x with
    | .v4 _ => x.text
    | .v6 _ => "[" ++ x.text ++ "]") ++ ":" ++ toString port

/-- Chooses the address that is dialed: the first one that the host has. -/
def choose (p : Provider) : Except String (List IpAddr) → Except Error IpAddr
  | .error detail => .error (.dial ("resolve " ++ p.host ++ ": " ++ detail))
  | .ok [] => .error (.dial ("no addresses for " ++ p.host))
  | .ok (x :: _) => .ok x

/-- Dials the provider at the address that its host has. -/
def dial (p : Provider) (resolved : Except String (List IpAddr))
    (connect : IpAddr → Nat → Except String Unit) : Except Error Unit := do
  let x ← p.choose resolved
  match connect x p.port with
  | .ok () => return ()
  | .error detail => throw (.dial ("dial " ++ printEndpoint x p.port ++ ": " ++ detail))

/-- The host and port as a URL has them. -/
def authority (p : Provider) : String :=
  (if p.host.toList.contains ':' then "[" ++ p.host ++ "]" else p.host) ++ ":" ++ toString p.port

/-- The beginning of the provider's URLs. -/
def base (p : Provider) : String := (if p.secure then "https" else "http") ++ "://" ++ p.authority

end Provider

/-! ## Streams -/

/-- The path of streams. -/
def readPath : String := "/v2/read"

/-- The URL of the stream of a source's logs, shared among the readers with the same shard. -/
def readUrl (base shardId sourceId : String) : Except Error Url :=
  match Url.parse (base ++ readPath).toList with
  | .error f => .error (.dial f.message)
  | .ok u => .ok (u.addEntries [.pair "shard_id".toList shardId.toList,
      .pair "source_id".toList sourceId.toList, .name "log".toList])

/-- The request for a stream. -/
def readRequest (u : Url) : Http.Request where
  method := "GET"
  target := String.ofList u.target
  accept := some "text/event-stream"

/-- The stream that the end of an exchange gives. Its content is still to come. -/
def openStream (o : Http.Outcome) : Except Error EventStream :=
  match o.status? with
  | some status =>
    if Http.isSuccess status then .ok {}
    else .error (.stream ("provider returned " ++ Http.statusLine status))
  | none => .error (.stream o.detail)

end LogEgress.Ingress
