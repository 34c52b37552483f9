import LogEgress.Adapter.Pump
import LogEgress.Egress.Writer
import LogEgress.Ingress.Pool

set_option autoImplicit false

/-! # The life of a subscription

A pump in surroundings that are fixed in advance: which dials succeed, what the streams yield,
which writers there are, and when it is told to end. Time passes only in waits: for a client that
is of use, after a stream that could not be opened, and on a stream that stays open. The monitor
of the pool runs beside the pump. Times are in milliseconds.
-/

namespace LogEgress.Adapter

open Pump (Phase Event Action)

/-- A stream: it cannot be opened, or it yields envelopes and then fails, or stays open. -/
structure Stream where
  openError : Option Ingress.Error := none
  envelopes : List Envelope := []
  finish : Option Ingress.Error := none

/-- The surroundings of a subscription. -/
structure Surroundings where
  binding : Binding
  dial : Ingress.Dialer
  /-- What becomes of asking for a writer, counted from 0. -/
  connect : Nat → Except Egress.Error Unit
  rules : Ingress.Pool.Rules := {}
  /-- The pause after a stream that could not be opened. -/
  reopenWait : Nat := 100
  /-- When the subscription is told to end. -/
  stop : Nat

/-- How far the life of a subscription has come. -/
structure Timeline where
  now : Nat := 0
  phase : Phase := .idle
  pool : Ingress.Pool
  /-- The ticks of the pool's monitor. -/
  monitor : Option Ticker
  /-- What is left of the stream that is read. -/
  stream : Stream := {}
  /-- The streams still to be opened. Those after the last one are empty and stay open. -/
  streams : List Stream
  requests : List (Nat × Pump.Request) := []
  connects : Nat := 0
  writer : Egress.Script
  /-- When writers were closed. -/
  closeTimes : List Nat := []
  /-- How many log lines came in. -/
  counted : Nat := 0
  /-- How often the subscription was given up. -/
  aborted : Nat := 0
  notices : List Notice := []

namespace Timeline

/-- The beginning of a life, with a pool of one slot that no one has dialed for. -/
def start (s : Surroundings) (streams : List Stream) (writer : Egress.Script) : Timeline where
  pool := .ofSize 1
  monitor := Ticker.start? s.rules.checkInterval 0
  streams := streams
  writer := writer

/-- Lets time pass until a moment. Checks of the pool that are due then are made. -/
def passTo (s : Surroundings) (time : Nat) (l : Timeline) : Timeline :=
  match l.monitor with
  | none => { l with now := time }
  | some t =>
    let n := t.ticksBefore (time + 1)
    let (ns, p) := l.pool.checks s.dial s.rules.lifetime n t
    { l with
      now := time, pool := p, notices := l.notices ++ ns
      monitor := some { t with due := t.due + n * t.period } }

/-- Waits, but not longer than until the subscription is told to end. -/
def wait (s : Surroundings) (time : Nat) (l : Timeline) : Timeline :=
  l.passTo s (min s.stop (l.now + time))

/-- What the pump learns next, and the life until then. It learns nothing if a look at the pool
was in vain. -/
def learn (s : Surroundings) (l : Timeline) : Option Event × Timeline :=
  match l.phase with
  | .idle => (some (if s.stop ≤ l.now then .cancelled else .proceed), l)
  | .connecting => (some (.connected (s.connect (l.connects - 1))), l)
  | .choosing =>
    if s.stop ≤ l.now then (some .cancelled, l)
    else match l.pool.look with
      | (some c, p) => (some (.chosen c), { l with pool := p })
      -- The pump goes on waiting for a client: it learns nothing, and time passes.
      | (none, p) => (none, { l with pool := p }.wait s s.rules.retryWait)
  | .opening _ => match l.stream.openError with
    | some e => (some (.opened (.error e)), l)
    | none => (some (.opened (.ok ())), l)
  | .pausing =>
    let l := l.wait s s.reopenWait
    (some (if s.stop ≤ l.now then .cancelled else .rested), l)
  | .receiving _ => match l.stream.envelopes with
    | e :: es => (some (.received (.ok e)), { l with stream := { l.stream with envelopes := es } })
    | [] => match l.stream.finish with
      | some e => (some (.received (.error e)), l)
      -- The stream stays open, so that only the end of the subscription ends the wait.
      | none => (some .cancelled, l.passTo s s.stop)
  | .ended => (none, l)

/-- Carries out an action. -/
def perform (s : Surroundings) (l : Timeline) : Action → Timeline
  | .connect => { l with connects := l.connects + 1 }
  | .choose => l
  | .openStream c r =>
    { l with
      requests := l.requests ++ [(c, r)]
      stream := l.streams.headD {}
      streams := l.streams.tail }
  | .rest => l
  | .count => { l with counted := l.counted + 1 }
  | .write e => { l with writer := (l.writer.write e).2 }
  | .invalidate c => { l with pool := l.pool.invalidate c }
  | .close => { l with writer := l.writer.close.2, closeTimes := l.closeTimes ++ [l.now] }
  | .abort e =>
    { l with aborted := l.aborted + 1, notices := l.notices ++ [Pump.abortNotice s.binding e] }

/-- One step of the pump. -/
def advance (s : Surroundings) (l : Timeline) : Timeline :=
  match l.learn s with
  | (none, l) => l
  | (some e, l) =>
    let (phase, actions) := Pump.step s.binding l.phase e
    actions.foldl (perform s) { l with phase := phase }

/-- A number of steps. -/
def advanceFor (s : Surroundings) : Nat → Timeline → Timeline
  | 0, l => l
  | n + 1, l => if l.phase = .ended then l else advanceFor s n (l.advance s)

/-- How many steps are enough: in each round there are at most six besides the waits and the
envelopes, each wait takes a millisecond or more, and each round but the last takes a stream. -/
def enough (s : Surroundings) (l : Timeline) : Nat :=
  6 * (l.streams.length + 2) + l.streams.foldl (fun n x => n + x.envelopes.length) 0 + s.stop + 2

/-- The whole life of a subscription, and of the pool until a time, when it is closed. -/
def finish (s : Surroundings) (horizon : Nat) (l : Timeline) : Timeline :=
  -- The first check of the pool comes before the first step of the pump.
  let l := l.passTo s 0
  let l := (l.advanceFor s (l.enough s)).passTo s horizon
  { l with pool := l.pool.closeAll }

end Timeline

end LogEgress.Adapter
