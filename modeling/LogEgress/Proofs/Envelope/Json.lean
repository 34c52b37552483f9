import LogEgress.Envelope.Json
import LogEgress.Proofs.Base64
import LogEgress.Proofs.Json.Value
import LogEgress.Proofs.Sorted
import LogEgress.Proofs.Text.Integer

set_option autoImplicit false

/-! # Envelopes come through JSON as they were

An envelope is written as a form, the form as JSON and the JSON as a text. Reading takes all three
back (`round_trips`), in whatever order the text has the tags. And a form that stands for an
envelope is the form of that envelope, up to the spelling of the timestamp. Batches of envelopes
are read as they were written, too (`readBatch_writeSpelled`).
-/

namespace LogEgress.Envelope

open Json (Value FieldReader Reader)

namespace Form

/-! ## Forms as JSON -/

/-- A form as JSON with the tags in some order. -/
def writeInOrder (f : Form) (tags : List (String × String)) : Value :=
  .ofMembers ([
      ("timestamp", .ofString f.timestamp),
      ("source_id", .ofString f.sourceId),
      ("instance_id", .ofString f.instanceId),
      ("tags", .ofMembers (tags.map fun (k, v) => (k, .ofString v)))] ++
    f.log.toList.map fun l => ("log", writeLog l))

theorem write_eq (f : Form) : f.write = f.writeInOrder f.tags.entries := rfl

theorem plain_writeLog (l : LogForm) : (writeLog l).Plain := by
  refine Value.plain_ofMembers fun m hm => ?_
  simp only [List.mem_cons, List.not_mem_nil, or_false] at hm
  rcases hm with rfl | rfl <;> exact .string _

theorem plain_writeInOrder (f : Form) (tags : List (String × String)) :
    (f.writeInOrder tags).Plain := by
  refine Value.plain_ofMembers fun m hm => ?_
  rcases List.mem_append.1 hm with hm | hm
  · simp only [List.mem_cons, List.not_mem_nil, or_false] at hm
    rcases hm with rfl | rfl | rfl | rfl
    · exact .string _
    · exact .string _
    · exact .string _
    · refine Value.plain_ofMembers fun m hm => ?_
      obtain ⟨⟨k, v⟩, -, rfl⟩ := List.mem_map.1 hm
      exact .string _
  · obtain ⟨l, -, rfl⟩ := List.mem_map.1 hm
    exact plain_writeLog l

theorem readType_name (t : LogType) :
    Reader.choice LogType.ofName? (.ofString t.name) = .ok t := by
  rw [Value.ofString, Reader.choice, String.ofList_toList]
  cases t <;> rfl

theorem readLogForm_writeLog (l : LogForm) : readLogForm (writeLog l) = .ok l := by
  obtain ⟨payload, type⟩ := l
  have hFields : FieldReader.record logFields {} (writeLog ⟨payload, type⟩) =
      .ok ⟨some payload, some type⟩ := by
    show (Reader.choice LogType.ofName? (.ofString type.name) >>= fun t =>
      .ok (⟨some (String.ofList payload.toList), some t⟩ : LogParts)) >>= _ = _
    rw [readType_name, String.ofList_toList]
    rfl
  unfold readLogForm
  rw [hFields]
  rfl

theorem readTags (tags : List (String × String)) :
    Reader.map Reader.string (.ofMembers (tags.map fun (k, v) => (k, .ofString v))) =
      .ok (SortedMap.ofList tags) := by
  have hEntries : (tags.map fun t => (some t.1.toList, Value.ofString t.2)).mapM
      (Reader.entry Reader.string) = .ok tags := by
    induction tags with
    | nil => rfl
    | cons t tags ih =>
      obtain ⟨k, v⟩ := t
      have hEntry : Reader.entry Reader.string (some k.toList, .ofString v) = .ok (k, v) := by
        show Except.ok (String.ofList k.toList, String.ofList v.toList) = _
        rw [String.ofList_toList, String.ofList_toList]
      rw [List.map_cons, List.mapM_cons, hEntry, ih]
      rfl
  rw [Value.ofMembers, List.map_map, Reader.map]
  show ((tags.map fun t => (some t.1.toList, Value.ofString t.2)).mapM
    (Reader.entry Reader.string)).map SortedMap.ofList = _
  rw [hEntries]
  rfl

/-- **A form is read from its JSON**, whatever the order of its tags. -/
theorem read_writeInOrder (f : Form) {tags : List (String × String)}
    (h : tags.Perm f.tags.entries) : read (f.writeInOrder tags) = .ok f := by
  obtain ⟨timestamp, sourceId, instanceId, m, log⟩ := f
  have hTags : Reader.map Reader.string (.ofMembers (tags.map fun (k, v) => (k, .ofString v))) =
      .ok m := by rw [readTags, SortedMap.ofList_eq h]
  have hFields : FieldReader.record fields {}
      (writeInOrder ⟨timestamp, sourceId, instanceId, m, log⟩ tags) =
      .ok ⟨some timestamp, some sourceId, some instanceId, some m, log.map some⟩ := by
    show (Reader.map Reader.string _ >>= fun m =>
      .ok (⟨some (String.ofList timestamp.toList), some (String.ofList sourceId.toList),
        some (String.ofList instanceId.toList), some m, none⟩ : Parts)) >>= _ = _
    rw [hTags, String.ofList_toList, String.ofList_toList, String.ofList_toList]
    cases log with
    | none => rfl
    | some l =>
      have hLog : Reader.optional readLogForm (writeLog l) = .ok (some l) := by
        show (readLogForm (writeLog l)).map some = _
        rw [readLogForm_writeLog]
        rfl
      show ((Reader.optional readLogForm (writeLog l) >>= fun l =>
        .ok (⟨some timestamp, some sourceId, some instanceId, some m, some l⟩ : Parts)) >>= _) = _
      rw [hLog]
      rfl
  unfold read
  rw [hFields]
  cases log <;> rfl

/-! ## Envelopes as forms -/

theorem readTimestamp_toString (n : Int64) : readTimestamp (toString n.toInt) = .ok n := by
  have hRead := Text.readInt64_toString n.le_toInt n.toInt_lt
  have hSome : (toString n.toInt).isEmpty = false := by
    rw [String.isEmpty_eq_false_iff]
    intro hEmpty
    rw [hEmpty] at hRead
    cases hRead
  rw [readTimestamp, hSome, hRead]
  simp [Int64.ofInt_toInt]

theorem toString_of_readTimestamp {text : String} {n : Int64} (h : readTimestamp text = .ok n) :
    toString n.toInt = String.ofList (Text.canonical text.toList) := by
  rw [readTimestamp] at h
  split at h
  · next hEmpty =>
    cases h
    rw [String.isEmpty_iff] at hEmpty
    subst hEmpty
    rfl
  · split at h
    · next i hRead =>
      cases h
      obtain ⟨hText, hl, hu⟩ := Text.toList_toString_of_readInt64 hRead
      rw [Int64.toInt_ofInt_of_le hl hu, ← hText, String.ofList_toList]
    · cases h

/-- The form of a log line. -/
def ofLogLine (l : LogLine) : LogForm := ⟨String.ofList (Base64.encode l.payload), l.type⟩

theorem readLog_eq_ok_iff {f : LogForm} {l : LogLine} : readLog f = .ok l ↔ f = ofLogLine l := by
  obtain ⟨payload, type⟩ := f
  obtain ⟨o, type'⟩ := l
  rw [readLog]
  constructor
  · intro h
    split at h
    · next o' hDecode =>
      cases h
      have hText := Utf8.utf8_injective (Base64.decode_eq_ok_iff.mp hDecode)
      rw [ofLogLine, ← hText, String.ofList_toList]
    · cases h
  · intro h
    cases h
    rw [Base64.decode_eq_ok_iff.mpr (by rw [String.toList_ofList])]

theorem mapM_readLog_eq_ok_iff {f : Option LogForm} {l : Option LogLine} :
    f.mapM readLog = .ok l ↔ f = l.map ofLogLine := by
  cases f with
  | none =>
    show Except.ok none = Except.ok l ↔ _
    cases l <;> simp
  | some f =>
    show (readLog f >>= fun l => .ok (some l)) = .ok l ↔ _
    constructor
    · intro h
      obtain ⟨l', hRead, h⟩ := exists_of_bind_eq_ok h
      cases h
      rw [readLog_eq_ok_iff.mp hRead]
      rfl
    · intro h
      cases l with
      | none => cases h
      | some l =>
        cases h
        rw [readLog_eq_ok_iff.mpr rfl]
        rfl

theorem toEnvelope_toForm (e : Envelope) : e.toForm.toEnvelope = .ok e := by
  unfold toEnvelope
  rw [show e.toForm.timestamp = toString e.timestamp.toInt from rfl, readTimestamp_toString,
    mapM_readLog_eq_ok_iff.mpr (show e.toForm.log = e.log.map ofLogLine from rfl)]
  rfl

theorem toForm_of_toEnvelope {f : Form} {e : Envelope} (h : f.toEnvelope = .ok e) :
    e.toForm = { f with timestamp := String.ofList (Text.canonical f.timestamp.toList) } := by
  obtain ⟨n, hTimestamp, h'⟩ := exists_of_bind_eq_ok h
  obtain ⟨log, hLog, h''⟩ := exists_of_bind_eq_ok h'
  cases h''
  rw [toForm, toString_of_readTimestamp hTimestamp]
  rw [mapM_readLog_eq_ok_iff.mp hLog]
  rfl

end Form

/-- **Envelopes come through JSON as they were.** Every envelope is read from the text of its JSON,
whatever the order of the tags in it. And whatever form stands for an envelope is the form of that
envelope, except that the timestamp is spelled in one way. -/
theorem round_trips :
    (∀ (e : Envelope) (tags : List (String × String)), tags.Perm e.tags.entries →
      Json.decode Form.read (e.toForm.writeInOrder tags).print = .ok e.toForm) ∧
    (∀ e : Envelope, Json.decode Form.read e.toForm.write.print = .ok e.toForm ∧
      e.toForm.toEnvelope = .ok e) ∧
    (∀ (f : Form) (e : Envelope), f.toEnvelope = .ok e →
      e.toForm = { f with timestamp := String.ofList (Text.canonical f.timestamp.toList) }) := by
  refine ⟨fun e tags h => ?_, fun e => ⟨?_, Form.toEnvelope_toForm e⟩, fun f e h => ?_⟩
  · rw [Json.decode_print _ (Form.plain_writeInOrder _ _)]
    exact Form.read_writeInOrder _ h
  · rw [Form.write_eq, Json.decode_print _ (Form.plain_writeInOrder _ _)]
    exact Form.read_writeInOrder _ (.refl _)
  · exact Form.toForm_of_toEnvelope h

/-- A log line whose form has a plus sign and leading zeros in its timestamp, and two tags that are
written last one first. -/
theorem round_trips_with_plus_sign :
    let tags : SortedMap String String := .ofList [("job", "web"), ("zone", "z\"1\"")]
    let f : Form := ⟨"+007", "app", "0", tags, some ⟨"aGk=", .err⟩⟩
    let e : Envelope := ⟨"app", "0", 7, tags, some ⟨[104, 105], .err⟩⟩
    f.toEnvelope = .ok e ∧ e.toForm = { f with timestamp := "7" } ∧
      Json.decode Form.read (e.toForm.writeInOrder tags.entries.reverse).print = .ok e.toForm := by
  intro tags f e
  have hForm : f.toEnvelope = .ok e := by decide +kernel
  have hSpelling : String.ofList (Text.canonical f.timestamp.toList) = "7" := by decide +kernel
  refine ⟨hForm, ?_, round_trips.1 e tags.entries.reverse (List.reverse_perm _)⟩
  rw [round_trips.2.2 f e hForm, hSpelling]

/-! ## Batches -/

/-- An envelope and an order of its tags, which is what one spelling of it is made of. -/
structure Spelling where
  envelope : Envelope
  tags : List (String × String)
  perm : tags.Perm envelope.tags.entries

namespace Spelling

/-- The spelling with the tags in the order of their keys. -/
def sorted (e : Envelope) : Spelling := ⟨e, e.tags.entries, .refl _⟩

/-- The JSON of a spelling. -/
def write (s : Spelling) : Value := s.envelope.toForm.writeInOrder s.tags

theorem plain_write (s : Spelling) : s.write.Plain := Form.plain_writeInOrder _ _

theorem read_write (s : Spelling) : Form.read s.write = .ok s.envelope.toForm :=
  Form.read_writeInOrder _ s.perm

end Spelling

/-- A batch as JSON, each envelope in one of its spellings. -/
def writeSpelled (batch : List Spelling) : Value :=
  .ofMembers [("batch", .array (batch.map Spelling.write))]

theorem writeBatch_eq (es : List Envelope) :
    writeBatch (es.map toForm) = writeSpelled (es.map Spelling.sorted) := by
  rw [writeBatch, writeSpelled, List.map_map, List.map_map]
  rfl

theorem plain_writeSpelled (batch : List Spelling) : (writeSpelled batch).Plain := by
  refine Value.plain_ofMembers fun m hm => ?_
  rw [List.mem_singleton.1 hm]
  exact Value.plain_array_map Spelling.plain_write batch

/-- **A batch is read from its JSON**, however its envelopes are spelled. -/
theorem readBatch_writeSpelled (batch : List Spelling) :
    readBatch (writeSpelled batch) = .ok (batch.map fun s => s.envelope.toForm) := by
  have hFields : FieldReader.record batchFields none (writeSpelled batch) =
      .ok (some (batch.map fun s => s.envelope.toForm)) := by
    show (Reader.list Form.read _ >>= fun fs => .ok (some fs)) >>= _ = _
    rw [Json.Reader.list_map Spelling.read_write]
    rfl
  unfold readBatch
  rw [hFields]
  rfl

end LogEgress.Envelope
