import LogEgress.Binding

set_option autoImplicit false

/-! # Desired bindings

What the provider of bindings answers when the scheduler asks for them.
-/

namespace LogEgress.Scheduler

/-- Why the desired bindings are not known. -/
inductive FetchError where
  | status (status : Nat)
  | http (detail : String)
  | decode (detail : String)
  deriving DecidableEq, Repr

/-- The wording of an error. -/
def FetchError.message : FetchError → String
  | .status n => "unexpected status code from provider: " ++ toString n
  | .http s => "request to provider failed: " ++ s
  | .decode s => "failed to decode provider response: " ++ s

/-- The desired bindings. -/
structure Fetched where
  bindings : List Binding
  /-- How many bindings were left out. -/
  invalid : Nat
  /-- How many bindings there were before any was left out. -/
  drainCount : Nat
  deriving DecidableEq, Repr

end LogEgress.Scheduler
