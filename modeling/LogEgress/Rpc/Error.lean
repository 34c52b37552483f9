set_option autoImplicit false

/-! # Failures of a call to an adapter -/

namespace LogEgress.Rpc

/-- Why a call to an adapter failed. -/
inductive Error where
  | connect (detail : String)
  | timeout
  | resourceExhausted
  | status (status : Nat) (message : String)
  | transport (detail : String)
  deriving DecidableEq, Repr

/-- The wording of an error. -/
def Error.message : Error → String
  | .connect s => "failed to connect to adapter: " ++ s
  | .timeout => "adapter call timed out"
  | .resourceExhausted => "adapter has reached its binding limit"
  | .status n s => "adapter returned status " ++ toString n ++ ": " ++ s
  | .transport s => "adapter transport error: " ++ s

end LogEgress.Rpc
