import LogEgress.Envelope.Json
import LogEgress.Ingress.Error
import LogEgress.Text.Blank

set_option autoImplicit false

/-! # Event streams

The log provider sends envelopes as a stream of lines. A line that begins with `data:` holds a
batch of envelopes as JSON; other lines do not count. The octets of the stream arrive in pieces
that need not end with lines. Whoever reads the stream gets the envelopes one by one, and an error
at the end.
-/

namespace LogEgress.Ingress

/-- What arrives next. -/
inductive Piece where
  | octets (o : Octets)
  /-- The stream ended. -/
  | ended
  /-- The connection broke. -/
  | broken (detail : String)
  /-- The reader's own client was closed. -/
  | closed

/-- Octets that arrive at once; none are the end of the stream. -/
def Piece.ofOctets : Octets → Piece
  | [] => .ended
  | o => .octets o

/-- A stream that is read: the beginning of a line whose end has not arrived, and the envelopes
that were decoded and not given out yet. -/
structure EventStream where
  buffer : Octets := []
  pending : List Envelope := []

/-! ## Lines -/

/-- The octet that ends a line. -/
def lineEnd : UInt8 := 10

/-- What a line that holds data begins with. -/
def dataMark : List Char := "data:".toList

/-- The data of a line, without blanks around them. -/
def dataOf? (line : List Char) : Option (List Char) :=
  let line := Text.dropEndWhile (fun c => c = '\r' || c = '\n') line
  if line.take dataMark.length = dataMark then
    match Text.trim (line.drop dataMark.length) with
    | [] => none
    | data => some data
  else none

/-- What is said of a batch that is not the JSON it should be. -/
def undecodable : String := "invalid batch"

/-- The envelopes of a batch. -/
def readBatch (data : List Char) : Except Error (List Envelope) :=
  match Json.decode Envelope.readBatch data with
  | .error _ => .error (.decode undecodable)
  | .ok forms => forms.mapM fun f => match f.toEnvelope with
    | .ok e => .ok e
    | .error f => .error (.decode f.message)

/-- The envelopes of a line, with its end. -/
def readLine (line : Octets) : Except Error (List Envelope) :=
  match Utf8.decode line with
  | .error f => .error (.decode f.message)
  | .ok s => match dataOf? s with
    | some data => readBatch data
    | none => .ok []

/-- Cuts octets after the first line end. -/
def cutLine? : Octets → Option (Octets × Octets)
  | [] => none
  | b :: bs =>
    if b = lineEnd then some ([b], bs)
    else (cutLine? bs).map fun (line, rest) => (b :: line, rest)

theorem length_of_cutLine? {o line rest : Octets} (h : cutLine? o = some (line, rest)) :
    rest.length < o.length := by
  induction o generalizing line with
  | nil => simp [cutLine?] at h
  | cons b bs ih =>
    simp only [cutLine?] at h
    split at h
    · cases h; simp
    · simp only [Option.map_eq_some_iff, Prod.mk.injEq, Prod.exists] at h
      obtain ⟨l, r, hr, _, rfl⟩ := h
      have := ih hr
      simp only [List.length_cons]
      omega

/-! ## Reading -/

namespace EventStream

/-- Decodes the whole lines in the buffer. A line that cannot be decoded stops this; those before
it stay decoded. -/
def decodeLines (s : EventStream) : Option Error × EventStream :=
  match _h : cutLine? s.buffer with
  | none => (none, s)
  | some (line, rest) =>
    match readLine line with
    | .error e => (some e, { s with buffer := rest })
    | .ok es => decodeLines ⟨rest, s.pending ++ es⟩
termination_by s.buffer.length
decreasing_by exact length_of_cutLine? _h

/-- Takes what arrives. -/
def feed (p : Piece) (s : EventStream) : Option Error × EventStream :=
  match p with
  | .octets o => decodeLines { s with buffer := s.buffer ++ o }
  | .ended => (some .closed, s)
  | .broken detail => (some (.stream detail), s)
  | .closed => (some .closed, s)

/-- The next envelope, or the error at the end, and the pieces that are left. The stream takes as
many pieces as it needs; with too few it waits for ever. -/
def receive : EventStream → List Piece → Option (Except Error Envelope) × EventStream × List Piece
  | ⟨buffer, e :: es⟩, ps => (some (.ok e), ⟨buffer, es⟩, ps)
  | s, [] => (none, s, [])
  | s, p :: ps => match s.feed p with
    | (some e, s) => (some (.error e), s, ps)
    | (none, s) => receive s ps

/-- The envelopes up to the first error, and that error. What is pending is given out before the
next piece is taken, so an error in a piece comes before all envelopes of the same piece. The
client is closed when a number of envelopes was given out. -/
def receiveAll (closeAfter : Option Nat) : Nat → EventStream → List Piece →
    List Envelope × Option Error
  | given, s, ps =>
    let given := given + s.pending.length
    if closeAfter.any (· ≤ given) then (s.pending, some .closed)
    else match ps with
      | [] => (s.pending, none)
      -- With nothing pending, whatever the next piece decodes to comes from that piece alone.
      | p :: ps => match feed p { s with pending := [] } with
        | (some e, _) => (s.pending, some e)
        | (none, next) =>
          let (es, e) := receiveAll closeAfter given next ps
          (s.pending ++ es, e)

end EventStream

end LogEgress.Ingress
