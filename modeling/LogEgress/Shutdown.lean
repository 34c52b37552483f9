import LogEgress.Notice

set_option autoImplicit false

/-! # Shutting down

A controller has a tree of tokens, in which cancelling one cancels all below it, and counts the
writers that still flush. Whoever ends the program waits until none does, or for a limited time.
Times are in milliseconds.
-/

namespace LogEgress.Shutdown

/-- A token below the root or below another one. -/
structure Token where
  /-- The token above; none is the root. -/
  parent : Option Nat
  cancelled : Bool
  deriving DecidableEq, Repr

/-- The state of a controller. -/
structure Controller where
  /-- Whether the root token is cancelled. -/
  stopped : Bool := false
  /-- The tokens in the order in which they were made. -/
  tokens : List Token := []
  /-- For each guard that was taken, whether it is held. -/
  guards : List Bool := []
  deriving DecidableEq, Repr

namespace Controller

/-- Whether a token is cancelled; none is the root. -/
def isCancelled (c : Controller) : Option Nat → Bool
  | none => c.stopped
  | some n => match c.tokens[n]? with
    | some t => t.cancelled
    | none => false

/-- Makes a token below another one; below a cancelled token it is cancelled. -/
def child (c : Controller) (parent : Option Nat) : Controller :=
  { c with tokens := c.tokens ++ [⟨parent, c.isCancelled parent⟩] }

/-- Cancels the tokens below cancelled ones. A token comes after the one above it, so one pass is
enough; the first list holds the tokens that were passed. -/
def spread (stopped : Bool) : List Token → List Token → List Token
  | done, [] => done
  | done, t :: ts =>
    let above := match t.parent with
      | none => stopped
      | some n => match done[n]? with
        | some p => p.cancelled
        | none => false
    spread stopped (done ++ [{ t with cancelled := t.cancelled || above }]) ts

/-- Cancels a token and all below it. -/
def cancel (c : Controller) (n : Nat) : Controller :=
  { c with tokens := spread c.stopped [] (c.tokens.modify n fun t => { t with cancelled := true }) }

/-- Cancels the root token. -/
def shutdown (c : Controller) : Controller :=
  { c with stopped := true, tokens := spread true [] c.tokens }

/-- The number of writers that have not finished flushing. -/
def flushing (c : Controller) : Nat := c.guards.count true

/-- Takes a guard, which counts as a writer that flushes. -/
def takeGuard (c : Controller) : Controller := { c with guards := c.guards ++ [true] }

/-- Releases a guard; one that was released stays so. -/
def release (c : Controller) (n : Nat) : Controller := { c with guards := c.guards.set n false }

end Controller

/-! ## Waiting for the flush -/

/-- A time in milliseconds with the largest unit that it fills, and no zeros at the end. -/
def printDuration (ms : Nat) : String :=
  if ms = 0 then "0ns"
  else if ms < 1000 then toString ms ++ "ms"
  else
    let fraction := ms % 1000
    if fraction = 0 then toString (ms / 1000) ++ "s"
    else
      let digits := [fraction / 100, fraction / 10 % 10, fraction % 10]
      let digits := (digits.reverse.dropWhile (· = 0)).reverse
      toString (ms / 1000) ++ "." ++ String.join (digits.map toString) ++ "s"

/-- How a wait ended. -/
structure Waited where
  /-- Whether no writer was flushing any more. -/
  flushed : Bool
  /-- How long the wait took. -/
  elapsed : Nat
  /-- How many writers were flushing when it ended. -/
  flushing : Nat
  notices : List Notice
  deriving DecidableEq, Repr

/-- A guard, and when it is released after the wait began. -/
abbrev Release := Nat × Nat

/-- The first time at which a guard is released. -/
def releaseTime? (releases : List Release) (guard : Nat) : Option Nat :=
  ((releases.filter (·.1 = guard)).map (·.2)).min?

/-- The controller after the releases before a time. -/
def releaseBefore (time : Nat) (c : Controller) (releases : List Release) : Controller :=
  releases.foldl (fun c r => if r.2 < time then c.release r.1 else c) c

/-- The guards that are held. -/
def heldGuards (c : Controller) : List Nat :=
  (c.guards.zipIdx.filter (·.1)).map (·.2)

/-- When the last guard is released, if all of them are. -/
def flushTime? (c : Controller) (releases : List Release) : Option Nat :=
  ((heldGuards c).mapM (releaseTime? releases)).map (·.foldl max 0)

/-- Waits for the flush while guards are released; a release at the deadline comes too late. -/
def wait (c : Controller) (timeout : Nat) (releases : List Release) : Waited :=
  if c.flushing = 0 then ⟨true, 0, 0, []⟩
  else
    let late : Waited :=
      let left := (releaseBefore timeout c releases).flushing
      ⟨false, timeout, left, [⟨.warn, "gave up after " ++ printDuration timeout ++ " with " ++
        toString left ++ " writers still flushing"⟩]⟩
    -- Some guard is held; the wait ends when the last one is released.
    match flushTime? c releases with
    | some t => if t < timeout then ⟨true, t, 0, []⟩ else late
    | none => late

/-- The controller after all releases. -/
def releaseAll (c : Controller) (releases : List Release) : Controller :=
  releases.foldl (fun c r => c.release r.1) c

end LogEgress.Shutdown
