set_option autoImplicit false

/-! # Tickers

A ticker gives the times at which something is done again and again: at once, and then every
period. It has no ticks if the period is zero. The two ways to go on after a tick differ in what
becomes of the following ticks when one is taken late.
-/

namespace LogEgress

/-- A ticker: its period, and when its next tick is due, in milliseconds. -/
structure Ticker where
  period : Nat
  due : Nat
  deriving DecidableEq, Repr

namespace Ticker

/-- A ticker whose first tick is due at once. There is none with period zero. -/
def start? (period now : Nat) : Option Ticker := if period = 0 then none else some ⟨period, now⟩

/-- When a tick is taken by someone who is ready at a time. -/
def takenAt (t : Ticker) (ready : Nat) : Nat := max t.due ready

/-- The ticker after a tick, with the following ticks a period apart from when this one was due. -/
def next (t : Ticker) : Ticker := { t with due := t.due + t.period }

/-- A tick that is taken this much after it was due still counts as taken in time. -/
def tolerance : Nat := 5

/-- The ticker after a tick that was taken at a time. If that was late, the following ticks are
counted from there. -/
def nextAfter (t : Ticker) (taken : Nat) : Ticker :=
  if t.due + tolerance < taken then { t with due := taken + t.period } else t.next

/-- How many ticks are due before a time. -/
def ticksBefore (t : Ticker) (time : Nat) : Nat := (time - t.due + t.period - 1) / t.period

end Ticker

end LogEgress
