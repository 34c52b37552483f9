import LogEgress.Binding
import LogEgress.Envelope
import LogEgress.Syslog.Timestamp
import LogEgress.Text.UpperCase

set_option autoImplicit false

/-! # Syslog messages

A log envelope becomes one message in the format of RFC 5424: a header of seven fields between
spaces, then the payload. On a stream each message stands in a frame that begins with its length.
-/

namespace LogEgress.Syslog

/-- The field that stands for no value. -/
def nilValue : List Char := ['-']

/-- The greatest length of a host name. -/
def maxHostname : Nat := 255

/-- The greatest length of an application name. -/
def maxAppName : Nat := 48

/-- The greatest length of a process identifier. -/
def maxProcId : Nat := 128

/-- The characters that a header field may have: those of ASCII that show. -/
def isGraphic (c : Char) : Bool := 33 ≤ c.toNat && c.toNat ≤ 126

/-- A header field: the allowed characters of a value up to a length. -/
def headerField (value : List Char) (max : Nat) : List Char :=
  match (value.filter isGraphic).take max with
  | [] => nilValue
  | cs => cs

/-- The process identifier: the kind of the source in upper case, with its instance if there is
one. -/
def procId (e : Envelope) : List Char :=
  match e.sourceType? with
  | none | some "" => nilValue
  | some kind =>
    -- A space would end the field.
    let kind := (Text.upper kind.toList).map fun c => if c = ' ' then '-' else c
    match e.tags.get? "source_instance" with
    | none | some "" => '[' :: kind ++ [']']
    | some inst => '[' :: kind ++ '/' :: inst.toList ++ [']']

/-- The header of a message, up to the payload. -/
def header (b : Binding) (e : Envelope) (type : LogType) : List Char :=
  '<' :: Nat.toDigits 10 type.priority ++ ['>', '1', ' '] ++
    (CivilTime.ofNanoseconds e.timestamp.toInt).print ++ [' '] ++
    headerField b.hostname.toList maxHostname ++ [' '] ++
    headerField b.appId.toList maxAppName ++ [' '] ++
    headerField (procId e) maxProcId ++ [' ', '-', ' ', '-', ' ']

/-- The message of a log envelope: header, payload without zero octets, and a line feed. -/
def message? (b : Binding) (e : Envelope) : Option Octets :=
  e.log.map fun l => utf8 (header b e l.type) ++ l.payload.filter (· ≠ 0) ++ [10]

/-- A message in its frame: its length, a space, and the message. -/
def frame (message : Octets) : Octets := utf8 (Nat.toDigits 10 message.length ++ [' ']) ++ message

/-- The frame of a log envelope. -/
def frame? (b : Binding) (e : Envelope) : Option Octets := (message? b e).map frame

/-! ## Taking frames apart -/

/-- Whether an octet is a digit. -/
def isDigit (b : UInt8) : Bool := 48 ≤ b.toNat && b.toNat ≤ 57

/-- Reads the rest of a length, after digits that make a number, up to its space. -/
def readLength (n : Nat) : Octets → Option (Nat × Octets)
  | [] => none
  | b :: r =>
    if b = 32 then some (n, r)
    else if isDigit b then readLength (10 * n + (b.toNat - 48)) r
    else none

/-- Takes the first frame off: its message, and what follows. -/
def cutFrame? : Octets → Option (Octets × Octets)
  | [] => none
  | b :: r =>
    if isDigit b then
      match readLength (b.toNat - 48) r with
      | some (k, rest) => if k ≤ rest.length then some (rest.take k, rest.drop k) else none
      | none => none
    else none

theorem length_of_readLength {n k : Nat} {o rest : Octets} (h : readLength n o = some (k, rest)) :
    rest.length < o.length := by
  induction o generalizing n with
  | nil => cases h
  | cons b r ih =>
    rw [readLength] at h
    split at h
    · cases h
      exact Nat.lt_succ_self _
    · split at h
      · exact Nat.lt_succ_of_lt (ih h)
      · cases h

theorem length_of_cutFrame? {o message rest : Octets} (h : cutFrame? o = some (message, rest)) :
    rest.length < o.length := by
  cases o with
  | nil => cases h
  | cons b r =>
    rw [cutFrame?] at h
    split at h
    · split at h
      · next k left hk =>
        split at h
        · cases h
          have := length_of_readLength hk
          simp only [List.length_drop, List.length_cons]
          omega
        · cases h
      · cases h
    · cases h

/-- The messages of a stream of frames, and what is left after the last whole frame. -/
def deframe (o : Octets) : List Octets × Octets :=
  match _h : cutFrame? o with
  | some (message, rest) =>
    let (messages, left) := deframe rest
    (message :: messages, left)
  | none => ([], o)
termination_by o.length
decreasing_by exact length_of_cutFrame? _h

end LogEgress.Syslog
