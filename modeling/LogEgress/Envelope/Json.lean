import LogEgress.Base64
import LogEgress.Envelope
import LogEgress.Json.Decode
import LogEgress.Text.Integer
import LogEgress.Text.Quoted

set_option autoImplicit false

/-! # Envelopes as JSON

An envelope travels as a `Form`: a record of texts, with the timestamp in decimal and the payload
in base64. `Form.ofEnvelope` and `Form.toEnvelope` convert, and `Form.read` and `Form.write` are
its JSON shape.
-/

namespace LogEgress.Envelope

open Json (Value FieldReader Reader)

/-- A log line in texts. -/
structure LogForm where
  /-- The payload in base64. -/
  payload : String
  type : LogType
  deriving DecidableEq

/-- An envelope in texts. -/
structure Form where
  /-- The timestamp in decimal; empty stands for zero. -/
  timestamp : String
  sourceId : String
  instanceId : String
  tags : SortedMap String String
  log : Option LogForm
  deriving DecidableEq

/-- Why a form stands for no envelope. -/
inductive FormFault where
  | timestamp (text : String) (fault : Text.IntegerFault)
  | payload (fault : Base64.Fault)
  deriving DecidableEq

/-- The wording of a fault. -/
def FormFault.message : FormFault → String
  | .timestamp t f => "invalid timestamp " ++ Text.quoted t ++ ": " ++ f.message
  | .payload f => "invalid log payload: " ++ f.message

/-- The form of an envelope. -/
def toForm (e : Envelope) : Form where
  timestamp := toString e.timestamp.toInt
  sourceId := e.sourceId
  instanceId := e.instanceId
  tags := e.tags
  log := e.log.map fun l => ⟨String.ofList (Base64.encode l.payload), l.type⟩

namespace Form

/-- Reads a timestamp. -/
def readTimestamp (text : String) : Except FormFault Int64 :=
  if text.isEmpty then .ok 0
  else match Text.readInt64 text.toList with
    | .ok n => .ok (Int64.ofInt n)
    | .error f => .error (.timestamp text f)

/-- Reads a log line. -/
def readLog (l : LogForm) : Except FormFault LogLine :=
  match Base64.decode (utf8 l.payload.toList) with
  | .ok o => .ok ⟨o, l.type⟩
  | .error f => .error (.payload f)

/-- The envelope that a form stands for. -/
def toEnvelope (f : Form) : Except FormFault Envelope := do
  let timestamp ← readTimestamp f.timestamp
  let log ← f.log.mapM readLog
  return ⟨f.sourceId, f.instanceId, timestamp, f.tags, log⟩

/-! ## Writing -/

/-- A log line as JSON. -/
def writeLog (l : LogForm) : Value :=
  .ofMembers [("payload", .ofString l.payload), ("type", .ofString l.type.name)]

/-- A form as JSON. A log line that is not there is left out. -/
def write (f : Form) : Value :=
  .ofMembers ([
      ("timestamp", .ofString f.timestamp),
      ("source_id", .ofString f.sourceId),
      ("instance_id", .ofString f.instanceId),
      ("tags", .ofMembers (f.tags.entries.map fun (k, v) => (k, .ofString v)))] ++
    f.log.toList.map fun l => ("log", writeLog l))

/-! ## Reading -/

/-- The parts of a log line read so far. -/
structure LogParts where
  payload : Option String := none
  type : Option LogType := none

/-- The fields of a log line. -/
def logFields : List (FieldReader LogParts) := [
  ⟨"payload", (·.payload.isSome), fun v s => do return { s with payload := ← Reader.string v }⟩,
  ⟨"type", (·.type.isSome),
    fun v s => do return { s with type := ← Reader.choice LogType.ofName? v }⟩]

/-- Reads a log line; each field has a default. -/
def readLogForm : Reader LogForm := fun v => do
  let s ← FieldReader.record logFields {} v
  return ⟨s.payload.getD "", s.type.getD .out⟩

/-- The parts of a form read so far. -/
structure Parts where
  timestamp : Option String := none
  sourceId : Option String := none
  instanceId : Option String := none
  tags : Option (SortedMap String String) := none
  log : Option (Option LogForm) := none

/-- The fields of a form. -/
def fields : List (FieldReader Parts) := [
  ⟨"timestamp", (·.timestamp.isSome),
    fun v s => do return { s with timestamp := ← Reader.string v }⟩,
  ⟨"source_id", (·.sourceId.isSome),
    fun v s => do return { s with sourceId := ← Reader.string v }⟩,
  ⟨"instance_id", (·.instanceId.isSome),
    fun v s => do return { s with instanceId := ← Reader.string v }⟩,
  ⟨"tags", (·.tags.isSome), fun v s => do return { s with tags := ← Reader.map Reader.string v }⟩,
  ⟨"log", (·.log.isSome),
    fun v s => do return { s with log := some (← Reader.optional readLogForm v) }⟩]

/-- Reads a form. The timestamp and the source have to be there. -/
def read : Reader Form := fun v => do
  let s ← FieldReader.record fields {} v
  return ⟨← Json.required s.timestamp, ← Json.required s.sourceId, s.instanceId.getD "",
    s.tags.getD {}, s.log.getD none⟩

end Form

/-! ## Batches -/

/-- A batch as JSON. -/
def writeBatch (batch : List Form) : Value := .ofMembers [("batch", .array (batch.map Form.write))]

/-- The fields of a batch. -/
def batchFields : List (FieldReader (Option (List Form))) := [
  ⟨"batch", Option.isSome, fun v _ => do return some (← Reader.list Form.read v)⟩]

/-- Reads a batch; one without members is empty. -/
def readBatch : Reader (List Form) := fun v => do
  return (← FieldReader.record batchFields none v).getD []

end LogEgress.Envelope
