import LogEgress.Adapter.Pump

set_option autoImplicit false

/-! # The turns of a pump

What a pump may learn is not fixed in advance: any answers of the connector, the pool and the
streams, and the word to end at any moment (`Pump.fits`). `turn_of_fits` says once what the pump
makes of it.
-/

namespace LogEgress.Adapter

open Pump (Phase Event Action)

namespace Pump

/-- Whether a pump can learn something in a phase. That it is cancelled it learns only after it was
told to end, and it goes on with a next round only if it was not. -/
def fits (told : Bool) : Phase → Event → Bool
  | .idle, .cancelled => told
  | .idle, .proceed => !told
  | .connecting, .connected _ => true
  | .choosing, .cancelled => told
  | .choosing, .chosen _ => true
  | .opening _, .cancelled => told
  | .opening _, .opened _ => true
  | .pausing, .cancelled => told
  | .pausing, .rested => true
  | .receiving _, .cancelled => told
  | .receiving _, .received _ => true
  | _, _ => false

/-- Whether a pump has a writer in a phase. -/
def Phase.hasWriter : Phase → Bool
  | .choosing => true
  | .opening _ => true
  | .pausing => true
  | .receiving _ => true
  | _ => false

/-- The turns of a pump: what it learns in a phase, the phase that follows, and what it does. -/
inductive Turn (b : Binding) (told : Bool) : Phase → Event → Phase → List Action → Prop
  | finished : told = true → Turn b told .idle .cancelled .ended []
  | begun : told = false → Turn b told .idle .proceed .connecting [.connect]
  | obtained : Turn b told .connecting (.connected (.ok ())) .choosing [.choose]
  | refused (e : Egress.Error) : Turn b told .connecting (.connected (.error e)) .ended [.abort e]
  | chosen (c : Nat) :
      Turn b told .choosing (.chosen c) (.opening c) [.openStream c (requestOf b)]
  | opened (c : Nat) : Turn b told (.opening c) (.opened (.ok ())) (.receiving c) []
  | unopened (c : Nat) (e : Ingress.Error) :
      Turn b told (.opening c) (.opened (.error e)) .pausing [.rest]
  | rested : Turn b told .pausing .rested .idle [.close]
  | logLine (c : Nat) (e : Envelope) : e.isLog = true →
      Turn b told (.receiving c) (.received (.ok e)) (.receiving c) [.count, .write e]
  | other (c : Nat) (e : Envelope) : e.isLog = false →
      Turn b told (.receiving c) (.received (.ok e)) (.receiving c) []
  | broken (c : Nat) (e : Ingress.Error) :
      Turn b told (.receiving c) (.received (.error e)) .idle [.invalidate c, .close]
  | cut {phase : Phase} : told = true → phase.hasWriter = true →
      Turn b told phase .cancelled .idle [.close]

/-- **What a pump can learn is one of its turns.** -/
theorem turn_of_fits (b : Binding) {told : Bool} {phase : Phase} {event : Event}
    (h : fits told phase event = true) :
    Turn b told phase event (step b phase event).1 (step b phase event).2 := by
  cases phase with
  | idle =>
    cases event with
    | cancelled => exact .finished h
    | proceed => exact .begun (by simpa [fits] using h)
    | _ => cases h
  | connecting =>
    cases event with
    | connected result =>
      cases result with
      | ok u => exact .obtained
      | error e => exact .refused e
    | _ => cases h
  | choosing =>
    cases event with
    | cancelled => exact .cut h rfl
    | chosen c => exact .chosen c
    | _ => cases h
  | opening c =>
    cases event with
    | cancelled => exact .cut h rfl
    | opened result =>
      cases result with
      | ok u => exact .opened c
      | error e => exact .unopened c e
    | _ => cases h
  | pausing =>
    cases event with
    | cancelled => exact .cut h rfl
    | rested => exact .rested
    | _ => cases h
  | receiving c =>
    cases event with
    | cancelled => exact .cut h rfl
    | received result =>
      cases result with
      | ok e =>
        by_cases hLog : e.isLog = true
        · simp only [step, hLog, if_true]
          exact .logLine c e hLog
        · simp only [step, hLog, Bool.false_eq_true, if_false]
          exact .other c e (by simpa using hLog)
      | error e => exact .broken c e
    | _ => cases h
  | ended => cases event <;> cases h

end Pump

end LogEgress.Adapter
