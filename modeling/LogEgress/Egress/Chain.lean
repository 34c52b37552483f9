import LogEgress.Egress.Buffered
import LogEgress.Notice
import LogEgress.Shutdown

set_option autoImplicit false

/-! # The chain of writers of a subscription

A buffered writer in its surroundings. It has a token below the one of its subscription, so that
closing the writer does not end the subscription, while ending the subscription closes the writer.
Its consumer holds a guard until it has flushed, so that the end of the program can wait for it.
-/

namespace LogEgress.Egress

/-- A buffered writer with its token and its guard. -/
structure Chain (σ : Type) where
  tokens : Shutdown.Controller
  writer : Buffered σ
  /-- Whether its owner has given it up. -/
  released : Bool := false

namespace Chain

variable {σ : Type}

/-- The token of the subscription. -/
def subscriptionToken : Nat := 0

/-- The token of the writer. -/
def writerToken : Nat := 1

/-- A chain over the writer below it, with a guard or without one. -/
def start (size : Nat) (hasGuard : Bool) (inner : σ) : Chain σ :=
  let tokens := (({} : Shutdown.Controller).child none).child (some subscriptionToken)
  { tokens := if hasGuard then tokens.takeGuard else tokens, writer := .ofSize size inner }

/-- Whether the subscription was told to end. -/
def isSubscriptionCancelled (c : Chain σ) : Bool := c.tokens.isCancelled (some subscriptionToken)

/-- Whether the writer was told to end. -/
def isCancelled (c : Chain σ) : Bool := c.tokens.isCancelled (some writerToken)

/-- Cancels a token. -/
def cancelToken (n : Nat) (c : Chain σ) : Chain σ :=
  let tokens := c.tokens.cancel n
  { c with
    tokens := tokens
    writer := { c.writer with cancelled := tokens.isCancelled (some writerToken) } }

/-- Tells the subscription to end, and with it the writer. -/
def cancelSubscription (c : Chain σ) : Chain σ := c.cancelToken subscriptionToken

/-- Takes over what the consumer did. When it has ended it lets go of its guard. -/
def settle (w : Buffered σ) (c : Chain σ) : Chain σ :=
  { c with writer := w, tokens := if w.isFlushing then c.tokens else c.tokens.release 0 }

/-- Writes an envelope, unless the owner has given the writer up. -/
def write (e : Envelope) (c : Chain σ) : Option Result × Chain σ :=
  if c.released then (none, c)
  else
    let (r, w) := c.writer.write e
    (some r, { c with writer := w })

/-- Closes the writer, unless the owner has given it up. -/
def close (c : Chain σ) : Option Result × Chain σ :=
  if c.released then (none, c) else (some c.writer.close.1, c.cancelToken writerToken)

/-- Gives the writer up, which closes it. -/
def release (c : Chain σ) : Chain σ := { c.cancelToken writerToken with released := true }

/-- Lets the consumer run until it has nothing to do. -/
def consume (w : Writer σ) (c : Chain σ) : Chain σ := c.settle (c.writer.consume w)

/-- Waits for the consumer's end. -/
def awaitEnd (w : Writer σ) (c : Chain σ) : Chain σ :=
  if c.released then c else c.settle (c.writer.awaitEnd w)

/-- Writes envelopes while the consumer does not run, closes the writer, and waits until the
consumer has flushed. -/
def deliver (w : Writer σ) (es : List Envelope) (c : Chain σ) : Chain σ :=
  ((es.foldl (fun c e => (c.write e).2) c).close.2).awaitEnd w

end Chain

/-- The notice about envelopes that were dropped because a diode was full. -/
def dropNotice (drain : String) (n : Nat) : Notice :=
  ⟨.warn, "dropped " ++ toString n ++ " envelopes for " ++ drain⟩

end LogEgress.Egress
