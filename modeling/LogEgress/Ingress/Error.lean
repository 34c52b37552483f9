set_option autoImplicit false

/-! # Failures on the way from the log provider -/

namespace LogEgress.Ingress

/-- Why a stream could not be opened or ended. -/
inductive Error where
  | dial (detail : String)
  | stream (detail : String)
  | closed
  | decode (detail : String)
  deriving DecidableEq, Repr

/-- The wording of an error. -/
def Error.message : Error → String
  | .dial s => "failed to dial log provider: " ++ s
  | .stream s => "stream error: " ++ s
  | .closed => "stream closed"
  | .decode s => "failed to decode envelope: " ++ s

end LogEgress.Ingress
