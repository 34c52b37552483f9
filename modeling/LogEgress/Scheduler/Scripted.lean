import LogEgress.Scheduler.Fleet

set_option autoImplicit false

/-! # Adapters by script

Adapters whose behaviour is fixed in advance: how long each kind of call takes, and how it ends.
They hold bindings up to a limit and keep a record of the changes asked of them.
-/

namespace LogEgress.Scheduler

/-- How calls of one kind go: after a delay, the task breaks down, or an error is answered, or the
call succeeds. -/
structure Behaviour where
  delay : Nat := 0
  error : Option Rpc.Error := none
  crashes : Bool := false

/-- An adapter with fixed behaviours. -/
structure Scripted where
  held : SortedSet Binding := ∅
  limit : Option Nat := none
  list : Behaviour := {}
  create : Behaviour := {}
  delete : Behaviour := {}
  /-- The changes asked for so far. -/
  asked : List (Change × Binding) := []

namespace Scripted

/-- The adapter after it lost what it held. -/
def forget (s : Scripted) : Scripted := { s with held := ∅ }

/-- The adapter with an empty record. -/
def clear (s : Scripted) : Scripted := { s with asked := [] }

/-- How a call with a behaviour goes, if it would succeed with some result. Only a call that is
answered has an effect on the state. -/
def play {α σ : Type} (b : Behaviour) (deadline : Nat) (result : Except Rpc.Error α)
    (after before : σ) : Reply α × σ :=
  if deadline < b.delay then (.late, before)
  else if b.crashes then (.crashed b.delay, before)
  else match b.error with
    | some e => (.answered b.delay (.error e), before)
    | none => match result with
      | .ok x => (.answered b.delay (.ok x), after)
      | .error e => (.answered b.delay (.error e), before)

/-- Whether there is room for a binding: it is held, or the limit is not reached. -/
def hasRoom (s : Scripted) (b : Binding) : Bool :=
  match s.limit with
  | some max => b ∈ s.held || s.held.size < max
  | none => true

/-- Answers a change. -/
def change (c : Change) (b : Binding) (deadline : Nat) (s : Scripted) : Reply Unit × Scripted :=
  let s := { s with asked := s.asked ++ [(c, b)] }
  match c with
  | .create =>
    let result := if s.hasRoom b then .ok () else .error .resourceExhausted
    play s.create deadline result { s with held := s.held.insert b } s
  | .delete => play s.delete deadline (.ok ()) { s with held := s.held.erase b } s

/-- Adapters with fixed behaviours as the scheduler reaches them. -/
def server : Server Scripted where
  list deadline s := play s.list deadline (.ok s.held.toList) s s
  change := change

end Scripted

end LogEgress.Scheduler
