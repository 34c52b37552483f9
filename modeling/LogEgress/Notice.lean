set_option autoImplicit false

/-! # Notices

What a component reports in the operator's log.
-/

namespace LogEgress

/-- The weight of a notice. -/
inductive Level where
  | info
  | warn
  | error
  deriving DecidableEq, Repr

/-- The name of a level. -/
def Level.name : Level → String
  | .info => "INFO"
  | .warn => "WARN"
  | .error => "ERROR"

/-- A line in the operator's log. -/
structure Notice where
  level : Level
  message : String
  deriving DecidableEq, Repr

/-- A notice as it is shown. -/
def Notice.text (n : Notice) : String := n.level.name ++ " " ++ n.message

end LogEgress
