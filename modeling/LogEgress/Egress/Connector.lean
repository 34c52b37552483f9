import LogEgress.Binding
import LogEgress.Drain
import LogEgress.Metrics

set_option autoImplicit false

/-! # Connecting to drains

Connecting builds the writers for the drain of a binding: which one depends on the scheme. Nothing
is sent yet, so the only failures are those of the drain's URL, and all of them are permanent.
-/

namespace LogEgress.Egress

/-- Where and how the lines of a binding are written. -/
inductive Destination where
  /-- Frames on a TCP stream. -/
  | stream (host : String) (port : Nat)
  /-- Frames on a TLS stream. -/
  | tlsStream (host : String) (port : Nat)
  /-- HTTP requests. -/
  | requests (url : Url)
  deriving DecidableEq

/-- The destination of a drain that takes a plain stream. -/
def streamDestination (drain : String) : Except Error Destination := do
  let (host, port) ← Drain.address drain Drain.syslogPort
  return .stream host port

/-- The destination of a drain that takes a TLS stream. -/
def tlsDestination (drain : String) : Except Error Destination := do
  let (host, port) ← Drain.tlsAddress drain
  return .tlsStream host port

/-- The destination of a drain that takes HTTP requests. -/
def httpsDestination (drain : String) : Except Error Destination := do
  return .requests (← Drain.httpsUrl drain)

/-- The destination of a drain of a scheme. -/
def destinationOf (scheme : Drain.Scheme) (drain : String) : Except Error Destination :=
  match scheme with
  | .syslog => streamDestination drain
  | .syslogTls => tlsDestination drain
  | .https => httpsDestination drain

/-- The scheme of a drain. -/
def schemeOf (drain : String) : Except Error Drain.Scheme := do
  Drain.scheme (← Drain.readUrl drain)

/-- The destination of a drain. -/
def destination (drain : String) : Except Error Destination := do
  destinationOf (← schemeOf drain) drain

/-- What a connected chain of writers needs: its destination, and the counters of lines written
and of lines dropped. -/
structure Connection where
  binding : Binding
  destination : Destination
  written : Metrics.Handle
  dropped : Metrics.Handle

/-- Requests the counter of lines written under a scheme. -/
def requestWritten (r : Metrics.Registry) (s : Drain.Scheme) : Metrics.Registry × Metrics.Handle :=
  let (r, h, _) := r.request .counter "egress" "Envelopes written to drains"
    [("drain_scheme", s.name)]
  (r, h)

/-- Requests the counter of lines dropped. -/
def requestDropped (r : Metrics.Registry) : Metrics.Registry × Metrics.Handle :=
  let (r, h, _) := r.request .counter "dropped" "Envelopes dropped by full diodes" []
  (r, h)

/-- Connects to the drain of a binding. The counter of lines written is there as soon as the
scheme is known, the counter of lines dropped only on success. -/
def connect (r : Metrics.Registry) (b : Binding) : Except Error Connection × Metrics.Registry :=
  match schemeOf b.drain with
  | .error e => (.error e, r)
  | .ok s =>
    let (r, written) := requestWritten r s
    match destinationOf s b.drain with
    | .error e => (.error e, r)
    | .ok d =>
      let (r, dropped) := requestDropped r
      (.ok ⟨b, d, written, dropped⟩, r)

end LogEgress.Egress
