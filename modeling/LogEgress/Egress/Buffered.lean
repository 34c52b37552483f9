import LogEgress.Diode
import LogEgress.Egress.Writer

set_option autoImplicit false

/-! # Writing through a diode

Envelopes are put into a diode, which never fails, and a consumer passes them on to the writer
below. Once the writer is cancelled the consumer empties the diode, closes the writer below, and
ends; until then it counts as flushing.
-/

namespace LogEgress.Egress

/-- A writer with its diode and its consumer. -/
structure Buffered (σ : Type) where
  diode : Diode Envelope
  inner : σ
  /-- The numbers of missed envelopes that were reported. -/
  missed : List Nat := []
  cancelled : Bool := false
  /-- Whether the consumer has ended. -/
  finished : Bool := false

namespace Buffered

variable {σ : Type}

/-- A writer with an empty diode. -/
def ofSize (size : Nat) (inner : σ) : Buffered σ := { diode := .ofSize size, inner := inner }

/-- Puts an envelope into the diode. -/
def write (e : Envelope) (b : Buffered σ) : Result × Buffered σ :=
  (.ok (), { b with diode := b.diode.set e })

/-- Cancels the writer. -/
def cancel (b : Buffered σ) : Buffered σ := { b with cancelled := true }

/-- Closes the writer, which only cancels it: the consumer does the rest. -/
def close (b : Buffered σ) : Result × Buffered σ := (.ok (), b.cancel)

/-- Passes an envelope on. What becomes of it was reported by the writer below. -/
def pass (w : Writer σ) (s : σ) (e : Envelope) : σ := (w.write e s).2

/-- Lets the consumer run until it has nothing to do: it empties the diode, and ends if the writer
is cancelled. -/
def consume (w : Writer σ) (b : Buffered σ) : Buffered σ :=
  if b.finished then b
  else
    let (es, ms, d) := b.diode.drain
    let b := { b with diode := d, inner := es.foldl (pass w) b.inner, missed := b.missed ++ ms }
    if b.cancelled then { b with inner := (w.close b.inner).2, finished := true } else b

/-- Whether the consumer still has to flush. -/
def isFlushing (b : Buffered σ) : Bool := !b.finished

/-- Waits for the consumer's end; it does not end before the writer is cancelled. -/
def awaitEnd (w : Writer σ) (b : Buffered σ) : Buffered σ := if b.cancelled then b.consume w else b

end Buffered

end LogEgress.Egress
