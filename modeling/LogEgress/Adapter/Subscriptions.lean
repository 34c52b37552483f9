import LogEgress.AppLog
import LogEgress.Binding

set_option autoImplicit false

/-! # The subscriptions of an adapter

An adapter runs one subscription for each binding that it holds, and holds no more bindings than
its limit. Adding a binding that is held, and deleting one that is not, changes nothing. When the
adapter is full a new binding is refused and its application is told so.
-/

namespace LogEgress.Adapter

/-- A subscription that was started. -/
structure Subscription where
  binding : Binding
  /-- Whether it was told to end. -/
  cancelled : Bool := false
  deriving DecidableEq, Repr

/-- The bindings that an adapter holds, and the subscriptions that it started for them. -/
structure Subscriptions where
  /-- How many bindings may be held; none is any number. -/
  limit : Option Nat
  /-- The number of the adapter, as messages name it. -/
  index : String
  /-- For each binding held, the place of its subscription among those started. -/
  held : SortedMap Binding Nat := ∅
  /-- All subscriptions, in the order in which they were started. -/
  started : List Subscription := []
  /-- The number of bindings held, as it is reported. -/
  reportedCount : Nat := 0
  /-- How many bindings were refused. -/
  refusedCount : Nat := 0

/-- Why a binding is not added. -/
inductive Refusal where
  /-- As many bindings as may be are held. -/
  | full
  deriving DecidableEq, Repr

/-- The wording of a refusal. -/
def Refusal.message : Refusal → String
  | .full => "max bindings exceeded"

/-- What comes of adding a binding: the result, the message to the application, if there is one,
and what is reported. -/
structure Addition where
  result : Except Refusal Unit
  rejection : Option Envelope
  notices : List Notice

namespace Subscriptions

/-- The bindings held, in ascending order. -/
def list (s : Subscriptions) : List Binding := s.held.keys

/-- Whether no further binding can be held. -/
def isFull (s : Subscriptions) : Bool :=
  match s.limit with
  | some max => max ≤ s.held.size
  | none => false

/-- Starts a subscription for a binding. -/
def start (b : Binding) (s : Subscriptions) : Subscriptions :=
  let held := s.held.insert b s.started.length
  { s with held := held, started := s.started ++ [⟨b, false⟩], reportedCount := held.size }

/-- What is said to an application whose binding was refused. -/
def rejectionText : String := "Syslog adapter has failed to schedule your drain stream"

/-- The message to the application of a binding that was refused. -/
def rejectionMessage (s : Subscriptions) (b : Binding) (now : Int64) : Envelope where
  sourceId := b.appId
  instanceId := s.index
  timestamp := now
  tags := SortedMap.ofList [("source_type", "LGR")]
  log := some ⟨utf8 rejectionText.toList, .err⟩

/-- Adds a binding. -/
def add (b : Binding) (now : Int64) (s : Subscriptions) : Addition × Subscriptions :=
  if s.held.contains b then (⟨.ok (), none, []⟩, s)
  else if s.isFull then
    (⟨.error .full, some (s.rejectionMessage b now), [⟨.warn, "max bindings (" ++
      toString (s.limit.getD 0) ++ ") reached, rejecting " ++ b.display⟩]⟩,
    { s with refusedCount := s.refusedCount + 1 })
  else (⟨.ok (), none, [⟨.info, "starting subscription for " ++ b.display⟩]⟩, s.start b)

/-- Tells a subscription to end. -/
def cancel (s : List Subscription) (n : Nat) : List Subscription :=
  s.modify n fun t => { t with cancelled := true }

/-- Deletes a binding. -/
def delete (b : Binding) (s : Subscriptions) : List Notice × Subscriptions :=
  match s.held.get? b with
  | none => ([], s)
  | some n =>
    let held := s.held.erase b
    ([⟨.info, "stopped subscription for " ++ b.display⟩],
    { s with held := held, started := cancel s.started n, reportedCount := held.size })

/-- Tells all subscriptions to end. -/
def stopAll (s : Subscriptions) : Subscriptions :=
  { s with
    held := ∅
    started := s.held.values.foldl cancel s.started
    reportedCount := 0 }

end Subscriptions

/-- Sends the message to the application of a refused binding. A failure is only reported. -/
def Addition.notify (client : AppLog.Client) (a : Addition) : List Notice :=
  match a.rejection with
  | none => []
  | some e => match client e with
    | .ok () => []
    | .error f =>
      [⟨.error, "failed to notify app " ++ e.sourceId ++ " of rejection: " ++ f.message⟩]

end LogEgress.Adapter
