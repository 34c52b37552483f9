set_option autoImplicit false

/-! # Failures on the way to a drain -/

namespace LogEgress.Egress

/-- Why a writer could not be built or an envelope could not be written. -/
inductive Error where
  | unsupportedScheme (scheme : String)
  | invalidUrl (detail : String)
  | dial (detail : String)
  | dialTimeout
  | io (detail : String)
  | ioTimeout
  | httpStatus (status : Nat)
  | http (detail : String)
  | tls (detail : String)
  | cancelled
  deriving DecidableEq, Repr

namespace Error

/-- The wording of an error. -/
def message : Error → String
  | unsupportedScheme s => "unsupported scheme: " ++ s
  | invalidUrl s => "invalid drain url: " ++ s
  | dial s => "dial failed: " ++ s
  | dialTimeout => "dial timed out"
  | io s => "io error: " ++ s
  | ioTimeout => "io timed out"
  | httpStatus n => "drain returned status " ++ toString n
  | http s => "http error: " ++ s
  | tls s => "tls error: " ++ s
  | cancelled => "writer cancelled"

/-- Whether another attempt with the same drain must fail again. -/
def isPermanent : Error → Bool
  | unsupportedScheme _ => true
  | invalidUrl _ => true
  | _ => false

end Error

end LogEgress.Egress
