import LogEgress.Egress.Backoff
import LogEgress.Egress.Chain
import LogEgress.Egress.Connector
import LogEgress.Egress.Requests
import LogEgress.Egress.Retry
import LogEgress.Egress.Stream

set_option autoImplicit false

/-! # The chains of a program

A program that connects to the drain of a binding sets up a chain: the writer for the destination,
the layer that repeats failed writes, and a diode with a consumer, which begins at once. The
consumer has a token below that of its subscription, and holds a guard if the end of the program is
to wait for it. What the network does is fixed in advance.
-/

namespace LogEgress.Egress

/-! ## Writers for destinations -/

/-- How a dial ends. -/
inductive DialEnd where
  /-- No connection was made. -/
  | refused (detail : String)
  /-- A connection was made. The handshake that TLS begins with may fail. -/
  | reached (handshake : Except String Unit)
  /-- The time was up, before or during the handshake. -/
  | timedOut

/-- How the sending of a frame ends. -/
inductive SendEnd where
  | whole
  /-- The connection broke after some octets had been passed on. -/
  | broken (passed : Nat) (detail : String)
  /-- The time was up after some octets had been passed on. -/
  | timedOut (passed : Nat)

/-- What becomes of each dial, each frame and each request, counted from 0. -/
structure Wire where
  dial : Nat → DialEnd
  send : Nat → SendEnd
  exchange : Requests.Network

/-- What a dial comes to, with TLS or without it. -/
def DialEnd.answer (tls : Bool) : DialEnd → Except Error Unit
  | .refused detail => .error (.dial detail)
  | .reached (.ok ()) => .ok ()
  | .reached (.error detail) => if tls then .error (.tls detail) else .ok ()
  | .timedOut => .error .dialTimeout

/-- What becomes of a frame. -/
def SendEnd.passage : SendEnd → Stream.Passage
  | .whole => .whole
  | .broken passed detail => .cut passed (.io detail)
  | .timedOut passed => .cut passed .ioTimeout

/-- The network of a stream, with TLS or without it. -/
def Wire.stream (tls : Bool) (w : Wire) : Stream.Network where
  dial n := (w.dial n).answer tls
  send n := (w.send n).passage

namespace Destination

/-- The state of the writer for a destination. -/
def State : Destination → Type
  | .stream _ _ => Stream.State
  | .tlsStream _ _ => Stream.State
  | .requests _ => Requests.State

/-- The state before anything was written. -/
def start : (d : Destination) → d.State
  | .stream _ _ => ({} : Stream.State)
  | .tlsStream _ _ => ({} : Stream.State)
  | .requests _ => ({} : Requests.State)

/-- The writer for a destination. -/
def writer (w : Wire) (b : Binding) : (d : Destination) → Writer d.State
  | .stream _ _ => Stream.writer (w.stream false) b
  | .tlsStream _ _ => Stream.writer (w.stream true) b
  | .requests u => Requests.writer w.exchange b u

end Destination

/-! ## Consumers -/

/-- How a program writes to drains. -/
structure Settings where
  /-- The greatest number of attempts for an envelope. -/
  maxAttempts : Nat := Backoff.maxExponent
  /-- The wait after an attempt, counted from 0. -/
  delay : Nat → Nat := Backoff.base
  diodeSize : Nat := Diode.defaultSize
  /-- Whether the end of the program waits until all is flushed. -/
  awaitsFlush : Bool := false

/-- A consumer that was started. -/
structure Consumer where
  connection : Connection
  settings : Settings
  /-- Its token. -/
  token : Nat
  /-- The guard that it holds. -/
  guard : Option Nat
  writer : Buffered (Retry.State connection.destination.State)

/-- How a consumer repeats writes that fail, until a cancellation. -/
def Consumer.policy (c : Consumer) (cancellation : Retry.Cancellation) : Retry.Policy :=
  ⟨c.settings.maxAttempts, c.settings.delay, cancellation, c.connection.binding.drain⟩

/-- The writer at the end of a consumer's chain. -/
def Consumer.last (c : Consumer) (w : Wire) : Writer c.connection.destination.State :=
  c.connection.destination.writer w c.connection.binding

/-- What a consumer passes envelopes on to. -/
def Consumer.below (c : Consumer) (cancellation : Retry.Cancellation) (w : Wire) :
    Writer (Retry.State c.connection.destination.State) :=
  Retry.writer (c.policy cancellation) (c.last w)

/-! ## Connecting -/

/-- The parts of a program that connecting has to do with. -/
structure Program where
  metrics : Metrics.Registry := ∅
  /-- The tokens of the program, and the guards of its consumers. -/
  tokens : Shutdown.Controller := {}
  /-- All consumers that were started. -/
  consumers : List Consumer := []

/-- Connects to the drain of a binding for a subscription with a token. The answer is the number of
the consumer that was started. -/
def Program.connect (cfg : Settings) (subscription : Option Nat) (b : Binding) (p : Program) :
    Except Error Nat × Program :=
  match Egress.connect p.metrics b with
  | (.error e, metrics) => (.error e, { p with metrics := metrics })
  | (.ok c, metrics) =>
    let tokens := p.tokens.child subscription
    let consumer : Consumer := {
      connection := c
      settings := cfg
      token := p.tokens.tokens.length
      guard := if cfg.awaitsFlush then some p.tokens.guards.length else none
      writer := .ofSize cfg.diodeSize ⟨{}, [], c.destination.start⟩ }
    (.ok p.consumers.length,
      { metrics := metrics
        tokens := if cfg.awaitsFlush then tokens.takeGuard else tokens
        consumers := p.consumers ++ [consumer] })

end LogEgress.Egress
