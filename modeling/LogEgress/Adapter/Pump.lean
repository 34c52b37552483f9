import LogEgress.Binding
import LogEgress.Egress.Error
import LogEgress.Envelope
import LogEgress.Ingress.Error
import LogEgress.Notice

set_option autoImplicit false

/-! # The pump of a subscription

A subscription takes envelopes from the log provider and writes the log lines among them to the
drain of its binding, until it is told to end. The pump says what it does next when it learns
something: `Pump.step` is a transition between phases that gives a list of actions. Whoever runs a
pump carries out the actions and tells it what came of them.

A stream that fails makes its client invalid and starts a new round; a stream that cannot be
opened starts one after a pause. Each round has a writer of its own, closed at its end. If there
is no writer the subscription ends, since its drain can never work.
-/

namespace LogEgress.Adapter.Pump

/-- What is asked of the log provider: the logs of one application, shared among those who ask
with the same key. -/
structure Request where
  shardId : String
  sourceId : String
  deriving DecidableEq, Repr

/-- The request of a binding. -/
def requestOf (b : Binding) : Request := ⟨b.shardId, b.appId⟩

/-- What a pump waits for. -/
inductive Phase where
  /-- To go on with the next round. -/
  | idle
  /-- For a writer. -/
  | connecting
  /-- For a client. -/
  | choosing
  /-- For a stream of a client. -/
  | opening (client : Nat)
  /-- For the end of a pause. -/
  | pausing
  /-- For an envelope from a client's stream. -/
  | receiving (client : Nat)
  /-- For nothing any more. -/
  | ended
  deriving DecidableEq, Repr

/-- What a pump learns. -/
inductive Event where
  /-- It was told to end. -/
  | cancelled
  /-- It was not told to end before a new round. -/
  | proceed
  | connected (result : Except Egress.Error Unit)
  | chosen (client : Nat)
  | opened (result : Except Ingress.Error Unit)
  | rested
  | received (result : Except Ingress.Error Envelope)

/-- What a pump does. -/
inductive Action where
  /-- Asks for a writer. -/
  | connect
  /-- Asks the pool for a client. -/
  | choose
  /-- Opens a stream. -/
  | openStream (client : Nat) (request : Request)
  /-- Rests before the next round. -/
  | rest
  /-- Counts a log line that came in. -/
  | count
  /-- Writes an envelope to the writer of this round. -/
  | write (envelope : Envelope)
  /-- Marks a client as of no use. -/
  | invalidate (client : Nat)
  /-- Closes the writer of this round. -/
  | close
  /-- Gives up: there is no writer for the drain. -/
  | abort (error : Egress.Error)

/-- What a pump does next, and the phase that it enters. An event that does not fit the phase
changes nothing. -/
def step (b : Binding) : Phase → Event → Phase × List Action
  -- Between two rounds there is no writer to close.
  | .idle, .cancelled => (.ended, [])
  | .idle, .proceed => (.connecting, [.connect])
  | .connecting, .connected (.ok ()) => (.choosing, [.choose])
  | .connecting, .connected (.error e) => (.ended, [.abort e])
  -- From here on the round has a writer, and every way out of it closes that writer.
  | .choosing, .cancelled => (.idle, [.close])
  | .choosing, .chosen c => (.opening c, [.openStream c (requestOf b)])
  | .opening _, .cancelled => (.idle, [.close])
  | .opening c, .opened (.ok ()) => (.receiving c, [])
  | .opening _, .opened (.error _) => (.pausing, [.rest])
  | .pausing, .cancelled => (.idle, [.close])
  | .pausing, .rested => (.idle, [.close])
  -- Only a failure while receiving speaks against the client.
  | .receiving _, .cancelled => (.idle, [.close])
  | .receiving c, .received (.ok e) => (.receiving c, if e.isLog then [.count, .write e] else [])
  | .receiving c, .received (.error _) => (.idle, [.invalidate c, .close])
  | phase, _ => (phase, [])

/-- Runs a pump through some events. -/
def run (b : Binding) : Phase → List Event → Phase × List Action
  | phase, [] => (phase, [])
  | phase, e :: es =>
    let (phase, actions) := step b phase e
    let (last, more) := run b phase es
    (last, actions ++ more)

/-- The notice about a subscription that is given up. -/
def abortNotice (b : Binding) (e : Egress.Error) : Notice :=
  ⟨.error, "aborting subscription for " ++ b.display ++ ": " ++ e.message⟩

end LogEgress.Adapter.Pump
