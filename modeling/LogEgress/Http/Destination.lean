import LogEgress.Http.Message
import LogEgress.Url

set_option autoImplicit false

/-! # Where requests can go

A request goes to a URL with a host, by one of the schemes of HTTP. For any other URL it fails at
once, and nothing is sent.
-/

namespace LogEgress.Http

/-- Why no request can be made. -/
inductive Unsendable where
  /-- There is no such URL. -/
  | unreadable (fault : Url.Fault)
  /-- The URL has no host, or a scheme that is none of HTTP. -/
  | barred (url : Url)
  deriving DecidableEq

/-- The wording of the reason. -/
def Unsendable.message : Unsendable → String
  | .unreadable f => "builder error: " ++ f.message
  | .barred u =>
    "builder error for url (" ++ String.ofList u.print ++ "): URL scheme is not allowed"

/-- Reads the URL of a request. It has to have a host. -/
def readUrl (s : List Char) : Except Unsendable Url :=
  match Url.parse s with
  | .error f => .error (.unreadable f)
  | .ok u => if u.host = none then .error (.barred u) else .ok u

/-- Whether requests go by a scheme. -/
def isScheme (scheme : List Char) : Bool := scheme = "http".toList || scheme = "https".toList

/-- The request for what is at a URL. -/
def get (u : Url) : Except Unsendable Request :=
  if isScheme u.scheme then .ok { method := "GET", target := String.ofList u.target }
  else .error (.barred u)

end LogEgress.Http
