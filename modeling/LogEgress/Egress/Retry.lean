import LogEgress.Egress.Writer
import LogEgress.Notice

set_option autoImplicit false

/-! # Writing again after a failure

A failed write is repeated after a wait, up to a number of attempts, unless its error is permanent
or the writer is cancelled. Time is a number that only the waits advance. A cancellation at a time
is noticed by whoever waits at that time.
-/

namespace LogEgress.Egress.Retry

/-- What cancels a writer; the first that comes counts. -/
structure Cancellation where
  /-- A call of the writer below, counted from 1; with 0, the writer is cancelled from the start. -/
  duringCall : Option Nat := none
  /-- A time. -/
  atTime : Option Nat := none
  deriving DecidableEq, Repr

/-- How often, with which waits, and until when a write is repeated. -/
structure Policy where
  /-- The greatest number of attempts; there is always one. -/
  maxAttempts : Nat
  /-- The wait after an attempt, counted from 0. -/
  delay : Nat → Nat
  cancellation : Cancellation
  /-- The drain, as notices name it. -/
  drain : String

/-- How far a run has come: the time, the calls of the writer below, and whether a wait was cut
short. -/
structure Progress where
  now : Nat := 0
  calls : Nat := 0
  wasCut : Bool := false
  deriving DecidableEq, Repr

/-- Whether a cancellation has happened. -/
def Cancellation.isDue (c : Cancellation) (p : Progress) : Bool :=
  p.wasCut || c.duringCall.any (· ≤ p.calls) || c.atTime.any (· < p.now)

/-- The time at which a wait that would last until a time is cut short. -/
def Cancellation.cutsWait? (c : Cancellation) (untilTime : Nat) : Option Nat :=
  c.atTime.filter (· < untilTime)

/-- How a write went: its result, the waits that were asked for, and what was reported. -/
structure Outcome where
  result : Result
  asked : List Nat
  notices : List Notice

/-- The notice about an envelope that is given up. -/
def giveUpNotice (drain : String) (attempts : Nat) (e : Error) : Notice :=
  ⟨.warn, "giving up on envelope for " ++ drain ++ " after " ++ toString attempts ++
    " attempts: " ++ e.message⟩

variable {σ : Type}

/-- Makes an attempt, and up to `more` further ones. -/
def attempt (policy : Policy) (inner : Writer σ) (e : Envelope) :
    Nat → Nat → Progress → σ → Outcome × Progress × σ
  | more, k, p, s =>
    let (result, s) := inner.write e s
    let p := { p with calls := p.calls + 1 }
    match result with
    | .ok () => (⟨.ok (), [], []⟩, p, s)
    | .error err =>
      -- There is no use in another attempt, or no time for one.
      if err.isPermanent || policy.cancellation.isDue p then (⟨.error err, [], []⟩, p, s)
      else match more with
        | 0 => (⟨.error err, [], [giveUpNotice policy.drain (k + 1) err]⟩, p, s)
        | more + 1 =>
          let wakeUp := p.now + policy.delay k
          match policy.cancellation.cutsWait? wakeUp with
          -- The wait was asked for, but ends early.
          | some t => (⟨.error .cancelled, [k], []⟩, { p with now := t, wasCut := true }, s)
          | none =>
            let (o, p, s) := attempt policy inner e more (k + 1) { p with now := wakeUp } s
            ({ o with asked := k :: o.asked }, p, s)

/-- Writes an envelope. -/
def write (policy : Policy) (inner : Writer σ) (e : Envelope) (p : Progress) (s : σ) :
    Outcome × Progress × σ :=
  attempt policy inner e (max 1 policy.maxAttempts - 1) 0 p s

/-- The state of the layer: how far it has come, what it reported, and the writer below. -/
structure State (σ : Type) where
  progress : Progress
  notices : List Notice
  inner : σ

/-- The layer as a writer. -/
def writer (policy : Policy) (inner : Writer σ) : Writer (State σ) where
  write e s :=
    let (o, p, i) := write policy inner e s.progress s.inner
    (o.result, ⟨p, s.notices ++ o.notices, i⟩)
  close s :=
    let (r, i) := inner.close s.inner
    (r, { s with inner := i })

end LogEgress.Egress.Retry
