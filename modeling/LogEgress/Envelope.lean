import LogEgress.Sorted.Map
import LogEgress.Text.Utf8

set_option autoImplicit false

/-! # Envelopes

An envelope is a record that the log provider delivers: a log line, or something else that no
drain receives.
-/

namespace LogEgress

/-- The stream a log line was written to. -/
inductive LogType where
  | out
  | err
  deriving DecidableEq, Repr, Inhabited

namespace LogType

/-- The syslog priority: facility user, severity informational or error. -/
def priority : LogType → Nat
  | .out => 14
  | .err => 11

/-- The name of a stream. -/
def name : LogType → String
  | .out => "OUT"
  | .err => "ERR"

/-- The stream with a name. -/
def ofName? : String → Option LogType
  | "OUT" => some .out
  | "ERR" => some .err
  | _ => none

end LogType

/-- A log line. -/
structure LogLine where
  payload : Octets
  type : LogType
  deriving DecidableEq

/-- A record delivered by the log provider. -/
structure Envelope where
  sourceId : String
  instanceId : String
  /-- Nanoseconds since the beginning of 1970. -/
  timestamp : Int64
  tags : SortedMap String String
  /-- The log line, or none for a record of another kind. -/
  log : Option LogLine
  deriving DecidableEq

namespace Envelope

/-- Whether the envelope holds a log line. -/
def isLog (e : Envelope) : Bool := e.log.isSome

/-- The tag that names the kind of the source. -/
def sourceType? (e : Envelope) : Option String := e.tags.get? "source_type"

end Envelope

end LogEgress
