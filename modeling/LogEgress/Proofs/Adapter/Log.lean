import LogEgress.Proofs.Adapter.Turn

set_option autoImplicit false

/-! # Logs of subscriptions

A log is the list of what a pump has learned and done, each line with the number of its round. What
a log says is read off its lines: the entries of a kind (`Log.entries`), how many lines there are
of a kind (`Log.times`), and what holds of each line and those before it (`Log.Throughout`).
-/

namespace LogEgress.Adapter

open Pump (Phase Event Action)

/-- A line of a log: what a pump learned in a phase, or what it did. -/
inductive Line where
  | learned (phase : Phase) (event : Event)
  | did (action : Action)

/-- Lines with the numbers of their rounds. -/
abbrev Log := List (Nat × Line)

namespace Line

/-- The log line of an envelope that was received. -/
def logLine? : Line → Option Envelope
  | .learned _ (.received (.ok e)) => if e.isLog then some e else none
  | _ => none

/-- The envelope that was written. -/
def written? : Line → Option Envelope
  | .did (.write e) => some e
  | _ => none

/-- The client whose stream failed. -/
def broken? : Line → Option Nat
  | .learned (.receiving c) (.received (.error _)) => some c
  | _ => none

/-- Why there is no writer. -/
def refused? : Line → Option Egress.Error
  | .learned _ (.connected (.error e)) => some e
  | _ => none

/-- The client that was marked as of no use. -/
def invalidated? : Line → Option Nat
  | .did (.invalidate c) => some c
  | _ => none

/-- The stream that was asked for. -/
def request? : Line → Option (Nat × Pump.Request)
  | .did (.openStream c r) => some (c, r)
  | _ => none

/-- Why the subscription was given up. -/
def aborted? : Line → Option Egress.Error
  | .did (.abort e) => some e
  | _ => none

/-- Whether a writer was asked for. -/
def isConnect : Line → Bool
  | .did .connect => true
  | _ => false

/-- Whether a writer was obtained. -/
def isObtained : Line → Bool
  | .learned _ (.connected (.ok _)) => true
  | _ => false

/-- Whether a log line was counted. -/
def isCount : Line → Bool
  | .did .count => true
  | _ => false

/-- Whether a writer was closed. -/
def isClose : Line → Bool
  | .did .close => true
  | _ => false

/-- Whether the pump did something. -/
def isDeed : Line → Bool
  | .did _ => true
  | _ => false

end Line

namespace Log

variable {β : Type}

/-- What some lines say, with the numbers of their rounds. -/
def entries (f : Line → Option β) (log : Log) : List (Nat × β) :=
  log.filterMap fun x => (f x.2).map (x.1, ·)

/-- How many lines are of a kind. -/
def times (p : Line → Bool) (log : Log) : Nat := log.countP fun x => p x.2

/-- How many lines of a round are of a kind. -/
def timesIn (k : Nat) (p : Line → Bool) (log : Log) : Nat :=
  log.countP fun x => x.1 == k && p x.2

/-- The lines of one turn. -/
def turn (k : Nat) (phase : Phase) (event : Event) (actions : List Action) : Log :=
  (k, .learned phase event) :: actions.map fun a => (k, .did a)

theorem entries_append (f : Line → Option β) (log more : Log) :
    entries f (log ++ more) = entries f log ++ entries f more :=
  List.filterMap_append

theorem times_append (p : Line → Bool) (log more : Log) :
    times p (log ++ more) = times p log + times p more :=
  List.countP_append

theorem timesIn_append (k : Nat) (p : Line → Bool) (log more : Log) :
    timesIn k p (log ++ more) = timesIn k p log + timesIn k p more :=
  List.countP_append

/-- Lines of other kinds leave the count of a round as it is. -/
theorem timesIn_append_of_none {p : Line → Bool} {more : Log} (h : times p more = 0) (k : Nat)
    (log : Log) : timesIn k p (log ++ more) = timesIn k p log := by
  have hNone : timesIn k p more ≤ times p more := List.countP_mono_left fun x _ hx => by simp_all
  rw [timesIn_append]
  omega

/-- What holds of each line and those before it. -/
def Throughout (P : Log → Nat × Line → Prop) : Log → Log → Prop
  | _, [] => True
  | past, x :: log => P past x ∧ Throughout P (past ++ [x]) log

theorem throughout_append {P : Log → Nat × Line → Prop} (past log more : Log) :
    Throughout P past (log ++ more) ↔ Throughout P past log ∧ Throughout P (past ++ log) more := by
  induction log generalizing past with
  | nil => simp [Throughout]
  | cons x log ih => simp [Throughout, ih, and_assoc]

theorem Throughout.at {P : Log → Nat × Line → Prop} {log front back : Log} {x : Nat × Line}
    (h : Throughout P [] log) (hSplit : log = front ++ x :: back) : P front x := by
  rw [hSplit, throughout_append] at h
  exact h.2.1

end Log

end LogEgress.Adapter
