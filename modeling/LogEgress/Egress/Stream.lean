import LogEgress.Binding
import LogEgress.Egress.Writer
import LogEgress.Syslog.Message

set_option autoImplicit false

/-! # Writing frames to a stream

The writer for drains that take a stream. It dials when the first line is to be written, and again
after a failure. Each line is one frame. What becomes of dials and of frames is fixed in advance by
a `Network`.
-/

namespace LogEgress.Egress.Stream

/-- What becomes of a frame. -/
inductive Passage where
  | whole
  /-- An error came after some octets had been passed on. -/
  | cut (passed : Nat) (error : Error)
  deriving DecidableEq, Repr

/-- What becomes of each dial and of each frame, counted from 0. -/
structure Network where
  dial : Nat → Except Error Unit
  send : Nat → Passage

/-- The state of a writer. -/
structure State where
  /-- The octets that were passed on, for each connection made so far. -/
  connections : List Octets := []
  /-- Whether the last connection is in use. -/
  connected : Bool := false
  /-- The number of dials. -/
  dials : Nat := 0
  /-- The number of frames that were begun. -/
  frames : Nat := 0
  /-- The number of lines written. -/
  written : Nat := 0
  deriving DecidableEq, Repr

/-- Makes a connection, if there is none. -/
def connect (net : Network) (s : State) : Result × State :=
  if s.connected then (.ok (), s)
  else
    let answer := net.dial s.dials
    let s := { s with dials := s.dials + 1 }
    match answer with
    | .ok () => (.ok (), { s with connections := s.connections ++ [[]], connected := true })
    | .error e => (.error e, s)

/-- Passes octets on to the last connection. -/
def pass (o : Octets) (s : State) : State :=
  { s with connections := s.connections.modify (s.connections.length - 1) (· ++ o) }

/-- Sends a frame. After a failure the connection is not used any more. -/
def send (net : Network) (frame : Octets) (s : State) : Result × State :=
  let passage := net.send s.frames
  let s := { s with frames := s.frames + 1 }
  match passage with
  | .whole => (.ok (), { pass frame s with written := s.written + 1 })
  | .cut n e => (.error e, { pass (frame.take n) s with connected := false })

/-- Writes an envelope. One without a log line is passed over. -/
def write (net : Network) (b : Binding) (e : Envelope) (s : State) : Result × State :=
  match Syslog.frame? b e with
  | none => (.ok (), s)
  | some frame => match connect net s with
    | (.ok (), s) => send net frame s
    | (.error err, s) => (.error err, s)

/-- Closes the connection. -/
def close (s : State) : Result × State := (.ok (), { s with connected := false })

/-- The writer for the drain of a binding. -/
def writer (net : Network) (b : Binding) : Writer State := ⟨write net b, close⟩

end LogEgress.Egress.Stream
