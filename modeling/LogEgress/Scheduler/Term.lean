import LogEgress.Scheduler.Fetch
import LogEgress.Scheduler.Fleet
import LogEgress.Ticker

set_option autoImplicit false

/-! # Terms

In each term a scheduler fetches the desired bindings, asks its adapters what they hold, makes a
plan, and carries it out: all deletions first, so that full adapters have room for what is created
after them. If the fetch fails the term ends there. Terms follow one another at an interval; none
begins before the one before it has ended.
-/

namespace LogEgress.Scheduler

/-- What a scheduler reports about its work. -/
structure Gauges where
  /-- The number of bindings that the last fetch gave before any was left out. -/
  drainCount : Nat := 0
  /-- The number of bindings that the last fetch left out. -/
  invalidCount : Nat := 0
  /-- The number of adapters that answered in the last term. -/
  adapters : Nat := 0
  /-- The number of connections to adapters that failed. -/
  failedConnections : Nat := 0
  deriving DecidableEq, Repr

/-- The adapters of a scheduler, and what it reports. -/
structure State (σ : Type) where
  fleet : Fleet σ
  gauges : Gauges := {}

/-- How a term went. -/
structure Report where
  /-- The number of bindings fetched. -/
  desired : Nat
  /-- The number of adapters that answered. -/
  adapters : Nat
  created : Nat
  deleted : Nat
  deriving DecidableEq, Repr

/-- What comes of a term. There is no report if the fetch failed. -/
structure TermOutcome (σ : Type) where
  report : Option Report
  toll : Toll
  state : State σ

/-- What a fetch gives. -/
abbrev FetchResult := Except FetchError Fetched

variable {σ : Type}

/-- The notice about a term without a fetch. -/
def skipNotice (e : FetchError) : Notice :=
  ⟨.warn, "skipping term, failed to fetch bindings: " ++ e.message⟩

/-- Carries out what was fetched. -/
def carryOut (srv : Server σ) (deadlines : Deadlines) (f : Fetched) (s : State σ) :
    TermOutcome σ :=
  let (listing, fleet) := listEach srv deadlines s.fleet
  let actual := listing.holdings
  let plan := Placement.plan f.bindings actual (fleet.map (·.1))
  -- No creation begins before the last deletion has ended.
  let (deleted, fleet) := changeAll srv deadlines .delete plan.deletes fleet
  let (created, fleet) := changeAll srv deadlines .create plan.creates fleet
  let toll := (listing.toll.andThen deleted.toll).andThen created.toll
  { report := some ⟨f.bindings.length, actual.size, created.succeeded, deleted.succeeded⟩
    toll := toll
    state := ⟨fleet, { s.gauges with
      drainCount := f.drainCount
      invalidCount := f.invalid
      adapters := actual.size
      failedConnections := s.gauges.failedConnections + toll.failedConnections }⟩ }

/-- One term. -/
def term (srv : Server σ) (deadlines : Deadlines) (fetch : FetchResult) (s : State σ) :
    TermOutcome σ :=
  match fetch with
  | .error e => ⟨none, { notices := [skipNotice e] }, s⟩
  | .ok f => carryOut srv deadlines f s

/-! ## The loop -/

/-- What comes of a series of terms: their number, what was reported, and the state. -/
structure Series (σ : Type) where
  terms : Nat
  notices : List Notice
  state : State σ

/-- Terms at the ticks of a ticker until a time; a term that was begun is ended. Someone ready at
`now` takes the next tick. The first number bounds the number of terms. -/
def termsUntil (srv : Server σ) (deadlines : Deadlines) (fetch : FetchResult) (stop : Nat) :
    Nat → Ticker → Nat → State σ → Series σ
  | 0, _, _, s => ⟨0, [], s⟩
  | n + 1, ticker, now, s =>
    let taken := ticker.takenAt now
    -- A tick that is taken at the end of the run begins no term.
    if stop ≤ taken then ⟨0, [], s⟩
    else
      let o := term srv deadlines fetch s
      let rest := termsUntil srv deadlines fetch stop n (ticker.nextAfter taken)
        (taken + o.toll.elapsed) o.state
      ⟨rest.terms + 1, o.toll.notices ++ rest.notices, rest.state⟩

/-- Terms at an interval, from now on until a time. With no interval there is no ticker and no
term. Neighbouring ticks are at least a millisecond apart, so there are no more terms than
milliseconds. -/
def runTerms (srv : Server σ) (deadlines : Deadlines) (fetch : FetchResult) (interval stop : Nat)
    (s : State σ) : Series σ :=
  match Ticker.start? interval 0 with
  | some t => termsUntil srv deadlines fetch stop (stop + 1) t 0 s
  | none => ⟨0, [], s⟩

end LogEgress.Scheduler
