import LogEgress.Rpc.Client
import LogEgress.Rpc.Server
import LogEgress.Scheduler.Fleet

set_option autoImplicit false

/-! # Adapters reached by requests

A real adapter is reached by HTTP requests: the scheduler's side of a call, the network, and the
adapter's side, put together.
-/

namespace LogEgress.Scheduler

/-- An adapter at the other end of a network. -/
structure Remote where
  /-- Whether connections are accepted. -/
  reachable : Bool
  adapter : Adapter.Subscriptions

namespace Remote

/-- Exchanges a request for a response. The adapter's clock does not matter to the scheduler. -/
def exchange (r : Http.Request) (s : Remote) : Http.Outcome × Remote :=
  if s.reachable then
    let a := Rpc.answer 0 r s.adapter
    (.answered a.response, { s with adapter := a.adapter })
  else (.refused "connection refused", s)

/-- Makes a call. -/
def call {α : Type} (pages : CodePages) (read : Json.Reader α) (r : Http.Request) (s : Remote) :
    Reply α × Remote :=
  let (o, s) := s.exchange r
  (.answered 0 (Rpc.resultOf pages read o), s)

/-- Such adapters as the scheduler reaches them. -/
def server (pages : CodePages) : Server Remote where
  list _ s := s.call pages Rpc.readBindings Rpc.listRequest
  change c b _ s := match c with
    | .create => s.call pages Rpc.readEmpty (Rpc.createRequest b)
    | .delete => s.call pages Rpc.readEmpty (Rpc.deleteRequest b)

end Remote

end LogEgress.Scheduler
