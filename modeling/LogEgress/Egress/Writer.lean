import LogEgress.Egress.Error
import LogEgress.Envelope

set_option autoImplicit false

/-! # Writers

A writer takes envelopes one by one and may fail. Writers are stacked: each layer is a writer over
the state of the one below.
-/

namespace LogEgress.Egress

/-- How a write or a close ended. -/
abbrev Result := Except Error Unit

instance : DecidableEq Result := fun a b =>
  match a, b with
  | .ok (), .ok () => isTrue rfl
  | .error e, .error f =>
    if h : e = f then isTrue (h ▸ rfl) else isFalse fun k => h (Except.error.inj k)
  | .ok _, .error _ => isFalse nofun
  | .error _, .ok _ => isFalse nofun

/-- A writer with a state. -/
structure Writer (σ : Type) where
  write : Envelope → σ → Result × σ
  close : σ → Result × σ

/-- Writes envelopes one after the other, whether or not the writes succeed. -/
def Writer.writeAll {σ : Type} (w : Writer σ) : List Envelope → σ → List Result × σ
  | [], s => ([], s)
  | e :: es, s =>
    let (r, s) := w.write e s
    let (rs, s) := w.writeAll es s
    (r :: rs, s)

/-! ## Writers by script -/

/-- A drain whose answers are listed in advance: after the last one every write succeeds. It keeps
what it took and how often it was called. -/
structure Script where
  answers : List Result
  closeAnswer : Result
  taken : List Envelope
  calls : Nat
  closes : Nat

namespace Script

/-- A drain that was not called yet. -/
def ofAnswers (answers : List Result) (closeAnswer : Result) : Script :=
  ⟨answers, closeAnswer, [], 0, 0⟩

/-- Takes an envelope if the next answer is success. -/
def write (e : Envelope) (s : Script) : Result × Script :=
  let answer := s.answers.headD (.ok ())
  let s := { s with answers := s.answers.tail, calls := s.calls + 1 }
  (answer, match answer with
    | .ok () => { s with taken := s.taken ++ [e] }
    | .error _ => s)

/-- Counts a close. -/
def close (s : Script) : Result × Script := (s.closeAnswer, { s with closes := s.closes + 1 })

/-- The writer to such a drain. -/
def writer : Writer Script := ⟨write, close⟩

end Script

end LogEgress.Egress
