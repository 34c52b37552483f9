import LogEgress.Egress.Error
import LogEgress.Text.Blank
import LogEgress.Tls.ServerName
import LogEgress.Url

set_option autoImplicit false

/-! # Drains

The URL of a drain says how and where log lines are delivered: over plain TCP, over TLS, or by
HTTP requests. The rest of the program learns a drain's address from `Drain.address` and the
address to be checked from `Drain.target`.
-/

namespace LogEgress.Drain

/-- How a drain takes log lines. -/
inductive Scheme where
  /-- A TCP stream of frames. -/
  | syslog
  /-- A TLS stream of frames. -/
  | syslogTls
  /-- One HTTP request per line. -/
  | https
  deriving DecidableEq, Repr

/-- The name of a scheme. -/
def Scheme.name : Scheme → String
  | .syslog => "syslog"
  | .syslogTls => "syslog-tls"
  | .https => "https"

/-- The scheme with a name. -/
def Scheme.ofName? : String → Option Scheme
  | "syslog" => some .syslog
  | "syslog-tls" => some .syslogTls
  | "https" => some .https
  | _ => none

/-- Removes the brackets around an address. -/
def stripBrackets (s : List Char) : List Char :=
  Text.dropEndWhile (· = ']') (s.dropWhile (· = '['))

/-- The address that a host names by itself, in brackets or not. -/
def literal? (host : List Char) : Option IpAddr := IpAddr.parse? (stripBrackets host)

/-- Reads the URL of a drain. -/
def readUrl (drain : String) : Except Egress.Error Url :=
  match Url.parse drain.toList with
  | .ok u => .ok u
  | .error f => .error (.invalidUrl (drain ++ ": " ++ f.message))

/-- The scheme of a drain. -/
def scheme (u : Url) : Except Egress.Error Scheme :=
  let name := String.ofList u.scheme
  match Scheme.ofName? name with
  | some s => .ok s
  | none => .error (.unsupportedScheme name)

/-- Host and port of a drain that takes a stream. -/
def address (drain : String) (defaultPort : Nat) : Except Egress.Error (String × Nat) := do
  let u ← readUrl drain
  let s ← scheme u
  if s = .https then throw (.unsupportedScheme s.name)
  match u.hostText? with
  | none | some [] => throw (.invalidUrl (drain ++ ": missing host"))
  | some h => return (String.ofList (stripBrackets h), u.port.getD defaultPort)

/-- The port of a drain that takes a plain stream. -/
def syslogPort : Nat := 514

/-- The port of a drain that takes a TLS stream. -/
def syslogTlsPort : Nat := 6514

/-- Host and port of a drain that takes a TLS stream, which has to be the name of a server. -/
def tlsAddress (drain : String) : Except Egress.Error (String × Nat) := do
  let (host, port) ← address drain syslogTlsPort
  if Tls.isServerName host.toList then return (host, port)
  else throw (.invalidUrl (drain ++ ": invalid dns name"))

/-- The URL of a drain that takes HTTP requests. -/
def httpsUrl (drain : String) : Except Egress.Error Url := do
  let u ← readUrl drain
  if u.scheme = "https".toList then return u
  else throw (.unsupportedScheme (String.ofList u.scheme))

end LogEgress.Drain
