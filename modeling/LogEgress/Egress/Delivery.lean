import LogEgress.Egress.Backoff
import LogEgress.Egress.Chain
import LogEgress.Egress.Retry
import LogEgress.Egress.Stream

set_option autoImplicit false

/-! # Delivery

The whole way of envelopes to a drain that takes a stream: through the diode, the layer that
repeats failed writes, and the writer of frames.
-/

namespace LogEgress.Egress

/-- The layers above a stream, each with its state. -/
abbrev Delivery := Chain (Retry.State Stream.State)

namespace Delivery

/-- A delivery before anything was written. -/
def start (size : Nat) : Delivery := Chain.start size true ⟨{}, [], {}⟩

/-- How writes are repeated once the writer has been closed: an attempt that fails is the last
one. -/
def closingPolicy (attempts : Nat) (drain : String) : Retry.Policy :=
  ⟨attempts, Backoff.base, { duringCall := some 0 }, drain⟩

/-- Writes envelopes, closes the writer, and waits until all is flushed. -/
def run (net : Stream.Network) (attempts : Nat) (b : Binding) (es : List Envelope)
    (d : Delivery) : Delivery :=
  d.deliver (Retry.writer (closingPolicy attempts b.drain) (Stream.writer net b)) es

/-- The stream's end of the delivery. -/
def stream (d : Delivery) : Stream.State := d.writer.inner.inner

/-- All octets that the drain received. -/
def received (d : Delivery) : Octets := d.stream.connections.flatten

/-- The number of envelopes that the diode dropped. -/
def dropped (d : Delivery) : Nat := d.writer.missed.foldl (· + ·) 0

/-- What was reported on the way. -/
def notices (drain : String) (d : Delivery) : List Notice :=
  d.writer.missed.map (dropNotice drain) ++ d.writer.inner.notices

end Delivery

end LogEgress.Egress
