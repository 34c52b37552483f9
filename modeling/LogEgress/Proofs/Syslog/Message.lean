import LogEgress.Proofs.Text.Utf8
import LogEgress.Syslog.Message

set_option autoImplicit false

/-! # The header of a message is read back

The host name, the application and the tags of an envelope are chosen by users. Whatever they hold,
a reader who cuts a message at its first seven spaces finds the seven fields of the header, and
after them the payload (`message_cut_at_spaces`). `IsField` says what may become of a text in the
header.
-/

namespace LogEgress.Syslog

/-! ## Cutting at spaces -/

/-- The octet between the fields of a header. -/
def space : UInt8 := 32

/-- The octets before and after the first space. -/
def cutSpace? : Octets → Option (Octets × Octets)
  | [] => none
  | b :: o =>
    if b = space then some ([], o)
    else (cutSpace? o).map fun (piece, rest) => (b :: piece, rest)

/-- The pieces before the first spaces, as many as are asked for, and what follows the last of those
spaces. -/
def cutSpaces? : Nat → Octets → Option (List Octets × Octets)
  | 0, o => some ([], o)
  | n + 1, o => do
    let (piece, o) ← cutSpace? o
    let (pieces, o) ← cutSpaces? n o
    return (piece :: pieces, o)

/-- Pieces with a space after each. -/
def spaced (pieces : List Octets) : Octets := pieces.flatMap (· ++ [space])

theorem cutSpace?_append {piece : Octets} (h : space ∉ piece) (rest : Octets) :
    cutSpace? (piece ++ space :: rest) = some (piece, rest) := by
  induction piece with
  | nil => exact if_pos rfl
  | cons b piece ih =>
    obtain ⟨hb, hpiece⟩ := not_or.mp (mt List.mem_cons.mpr h)
    rw [List.cons_append, cutSpace?, if_neg (Ne.symm hb), ih hpiece]
    rfl

/-- **Pieces without spaces are found again.** -/
theorem cutSpaces?_spaced {pieces : List Octets} (h : ∀ piece ∈ pieces, space ∉ piece)
    (rest : Octets) : cutSpaces? pieces.length (spaced pieces ++ rest) = some (pieces, rest) := by
  induction pieces with
  | nil => rfl
  | cons piece pieces ih =>
    have hcut : cutSpace? (spaced (piece :: pieces) ++ rest) =
        some (piece, spaced pieces ++ rest) := by
      rw [spaced, List.flatMap_cons, List.append_assoc, List.append_assoc, List.singleton_append]
      exact cutSpace?_append (h piece List.mem_cons_self) _
    have hrest := ih fun q hq => h q (List.mem_cons_of_mem piece hq)
    rw [List.length_cons, cutSpaces?, hcut]
    show (do let (pieces, o) ← cutSpaces? pieces.length (spaced pieces ++ rest)
             return (piece :: pieces, o)) = _
    rw [hrest]
    rfl

/-! ## Fields -/

/-- Whether an octet is a character of ASCII that shows. -/
def Shows (b : UInt8) : Prop := 33 ≤ b.toNat ∧ b.toNat ≤ 126

instance (b : UInt8) : Decidable (Shows b) := inferInstanceAs (Decidable (_ ∧ _))

/-- The octets of a text that show. -/
def shown (s : List Char) : Octets := (utf8 s).filter (Shows ·)

/-- What a text becomes in the header. -/
structure IsField (value : List Char) (max : Nat) (field : Octets) : Prop where
  ne_nil : field ≠ []
  shows : ∀ b ∈ field, Shows b
  length_le : field.length ≤ max
  /-- A text of which nothing shows gives a hyphen. -/
  eq_hyphen : shown value = [] → field = [45]
  /-- Of any other text the field is the longest beginning of what shows that is allowed. -/
  longest : shown value ≠ [] → field <+: shown value ∧
    ∀ other, other <+: shown value → other.length ≤ max → other <+: field

theorem filter_shows_utf8EncodeChar (c : Char) :
    (String.utf8EncodeChar c).filter (Shows ·) =
      if isGraphic c then [UInt8.ofNat c.toNat] else [] := by
  by_cases hc : c.toNat < 128
  · have hself : (UInt8.ofNat c.toNat).toNat = c.toNat := Utf8.toNat_octet (by omega)
    have hsame : decide (Shows (UInt8.ofNat c.toNat)) = isGraphic c := by
      rw [isGraphic, ← Bool.decide_and]
      simp only [Shows, hself]
    rw [Utf8.utf8EncodeChar_of_lt hc, List.filter_cons, hsame, List.filter_nil]
  · have hnot : isGraphic c = false := by
      rw [isGraphic, Bool.and_eq_false_iff, decide_eq_false_iff_not, decide_eq_false_iff_not]
      omega
    rw [hnot, if_neg Bool.false_ne_true, List.filter_eq_nil_iff]
    intro b hb
    have := Utf8.le_of_mem_utf8EncodeChar (Nat.le_of_not_lt hc) hb
    rw [decide_eq_true_eq, Shows]
    omega

/-- What shows of a text is the text without the characters that do not show. -/
theorem shown_eq (s : List Char) : shown s = (s.filter isGraphic).map (UInt8.ofNat ·.toNat) := by
  induction s with
  | nil => rfl
  | cons c s ih =>
    rw [shown, Utf8.utf8_cons, List.filter_append, filter_shows_utf8EncodeChar, ← shown, ih,
      List.filter_cons]
    split <;> rfl

theorem utf8_of_graphic {s : List Char} (h : ∀ c ∈ s, isGraphic c = true) :
    utf8 s = s.map (UInt8.ofNat ·.toNat) := by
  induction s with
  | nil => rfl
  | cons c s ih =>
    have hc := h c List.mem_cons_self
    rw [isGraphic, Bool.and_eq_true, decide_eq_true_eq, decide_eq_true_eq] at hc
    rw [Utf8.utf8_cons, Utf8.utf8EncodeChar_of_lt (by omega),
      ih fun d hd => h d (List.mem_cons_of_mem c hd)]
    rfl

theorem utf8_headerField (value : List Char) (max : Nat) :
    utf8 (headerField value max) =
      if (shown value).take max = [] then [45] else (shown value).take max := by
  have hgraphic : ∀ c ∈ (value.filter isGraphic).take max, isGraphic c = true := fun c hc =>
    (List.mem_filter.mp (List.mem_of_mem_take hc)).2
  rw [shown_eq, ← List.map_take, headerField]
  split
  · next hnil =>
    rw [hnil, List.map_nil, if_pos rfl]
    decide
  · next hne =>
    rw [if_neg (by simpa using hne), utf8_of_graphic hgraphic]

/-- **Every text becomes a field.** -/
theorem isField_headerField (value : List Char) {max : Nat} (hmax : 0 < max) :
    IsField value max (utf8 (headerField value max)) := by
  have hshows : ∀ b ∈ (shown value).take max, Shows b := fun b hb =>
    of_decide_eq_true (List.mem_filter.mp (List.mem_of_mem_take hb)).2
  rw [utf8_headerField]
  by_cases hnil : (shown value).take max = []
  · have hnone : shown value = [] := (List.take_eq_nil_iff.mp hnil).resolve_left (by omega)
    rw [if_pos hnil]
    exact {
      ne_nil := List.cons_ne_nil _ _
      shows := fun b hb => by
        rw [List.mem_singleton.mp hb]
        decide
      length_le := hmax
      eq_hyphen := fun _ => rfl
      longest := fun hne => absurd hnone hne }
  · rw [if_neg hnil]
    exact {
      ne_nil := hnil
      shows := hshows
      length_le := by rw [List.length_take]; exact Nat.min_le_left _ _
      eq_hyphen := fun hnone => absurd (by rw [hnone, List.take_nil]) hnil
      longest := fun _ => ⟨List.take_prefix _ _, fun other hother hle =>
        List.prefix_take_iff.mpr ⟨hother, hle⟩⟩ }

/-- A text of which something shows, and not too much, is shown in full. -/
theorem IsField.eq_shown {value : List Char} {max : Nat} {field : Octets}
    (h : IsField value max field) (hne : shown value ≠ []) (hle : (shown value).length ≤ max) :
    field = shown value := by
  obtain ⟨hbeginning, hlongest⟩ := h.longest hne
  have hall : shown value <+: field := hlongest _ (List.prefix_refl _) hle
  exact hbeginning.eq_of_length_le hall.length_le

/-! ## The header -/

/-- The beginning of a message: its priority and the version of the format. -/
def opening : LogType → List Char
  | .out => "<14>1".toList
  | .err => "<11>1".toList

/-- The date and time of an envelope as they stand in its message. -/
def stamp (e : Envelope) : List Char := (CivilTime.ofNanoseconds e.timestamp.toInt).print

/-- The fields of a header. -/
def headerFields (b : Binding) (e : Envelope) (type : LogType) : List Octets :=
  [utf8 (opening type), utf8 (stamp e), utf8 (headerField b.hostname.toList maxHostname),
    utf8 (headerField b.appId.toList maxAppName), utf8 (headerField (procId e) maxProcId),
    utf8 nilValue, utf8 nilValue]

theorem utf8_header (b : Binding) (e : Envelope) (type : LogType) :
    utf8 (header b e type) = spaced (headerFields b e type) := by
  have hopening : '<' :: Nat.toDigits 10 type.priority ++ ['>', '1', ' '] =
      opening type ++ [' '] := by cases type <;> rfl
  have hspace : utf8 [' '] = [space] := by decide
  have hend : utf8 [' ', '-', ' ', '-', ' '] =
      [space] ++ (utf8 nilValue ++ [space] ++ (utf8 nilValue ++ [space])) := by decide
  rw [header, hopening, ← stamp]
  simp only [Utf8.utf8_append, hspace, hend, headerFields, spaced, List.flatMap_cons,
    List.flatMap_nil, List.append_nil, List.append_assoc]

theorem space_notMem_utf8_iff {s : List Char} : space ∉ utf8 s ↔ ' ' ∉ s :=
  not_congr (Utf8.mem_utf8_iff (by decide))

theorem isDigit_of_mem_padded {width n : Nat} {c : Char} (h : c ∈ CivilTime.padded width n) :
    c.isDigit = true := by
  rcases List.mem_append.mp h with hzero | hdigit
  · rw [List.eq_of_mem_replicate hzero]
    rfl
  · exact Nat.isDigit_of_mem_toDigits (by omega) (by omega) hdigit

/-- A date and time is written without spaces. -/
theorem space_notMem_print (t : CivilTime) : ' ' ∉ t.print := by
  have hpadded : ∀ width n, ' ' ∉ CivilTime.padded width n := fun width n hmem =>
    absurd (isDigit_of_mem_padded hmem) (by decide)
  simp only [CivilTime.print, List.mem_append, List.mem_cons, not_or, hpadded, not_false_eq_true,
    true_and, and_true]
  decide

theorem space_notMem_headerFields (b : Binding) (e : Envelope) (type : LogType) :
    ∀ field ∈ headerFields b e type, space ∉ field := by
  have hfield : ∀ (value : List Char) (max : Nat), 0 < max →
      space ∉ utf8 (headerField value max) := fun value max hmax hmem =>
    absurd ((isField_headerField value hmax).shows space hmem) (by decide)
  have hopening : space ∉ utf8 (opening type) :=
    space_notMem_utf8_iff.mpr (by cases type <;> decide)
  have hnil : space ∉ utf8 nilValue := by decide
  intro field hmem
  simp only [headerFields, List.mem_cons, List.not_mem_nil, or_false] at hmem
  rcases hmem with rfl | rfl | rfl | rfl | rfl | rfl | rfl
  · exact hopening
  · exact space_notMem_utf8_iff.mpr (space_notMem_print _)
  · exact hfield _ _ (by decide)
  · exact hfield _ _ (by decide)
  · exact hfield _ _ (by decide)
  · exact hnil
  · exact hnil

/-- **The header of a message holds seven fields, whatever users put into it.** Cutting the message
of a log line at its first seven spaces gives the opening with the priority, the date and time, the
host name, the application, the process and two hyphens, and what follows is the payload without
zero octets and a line feed. -/
theorem message_cut_at_spaces (b : Binding) (e : Envelope) (l : LogLine) (h : e.log = some l) :
    ∃ message host app process, message? b e = some message ∧
      cutSpaces? 7 message =
        some ([utf8 (opening l.type), utf8 (stamp e), host, app, process, [45], [45]],
          l.payload.filter (· ≠ 0) ++ [10]) ∧
      IsField b.hostname.toList 255 host ∧ IsField b.appId.toList 48 app ∧
      IsField (procId e) 128 process := by
  refine ⟨_, _, _, _, by rw [message?, h]; rfl, ?_, isField_headerField _ (by decide),
    isField_headerField _ (by decide), isField_headerField _ (by decide)⟩
  show cutSpaces? 7 (utf8 (header b e l.type) ++ _ ++ [10]) = _
  rw [utf8_header, List.append_assoc]
  exact cutSpaces?_spaced (space_notMem_headerFields b e l.type) _

/-- A host name that looks like the beginning of another message, an application of which nothing
shows, and a kind of source that grows when it is put in upper case. -/
theorem message_of_hostile_names :
    let b : Binding := ⟨"\u00e9\t", "my host\n<14>1 x", "syslog://drain"⟩
    let e : Envelope := ⟨"app", "0", 0, .ofList [("source_type", "stra\u00dfe 1")],
      some ⟨[0, 104, 0, 105], .err⟩⟩
    e.log = some ⟨[0, 104, 0, 105], .err⟩ ∧
      ∃ message, message? b e = some message ∧ cutSpaces? 7 message =
        some (["<11>1", "1970-01-01T00:00:00.000000000Z", "myhost<14>1x", "-", "[STRASSE-1]", "-",
          "-"].map (utf8 ·.toList), [104, 105, 10]) := by
  intro b e
  have hlog : e.log = some ⟨[0, 104, 0, 105], .err⟩ := rfl
  obtain ⟨message, host, app, process, hmessage, hcut, hhost, happ, hprocess⟩ :=
    message_cut_at_spaces b e _ hlog
  have hhostShown : shown b.hostname.toList = utf8 "myhost<14>1x".toList := by decide +kernel
  have happShown : shown b.appId.toList = [] := by decide +kernel
  have hprocessShown : shown (procId e) = utf8 "[STRASSE-1]".toList := by decide +kernel
  have hstamp : utf8 (stamp e) = utf8 "1970-01-01T00:00:00.000000000Z".toList := by decide +kernel
  refine ⟨hlog, message, hmessage, ?_⟩
  rw [hcut, hhost.eq_shown (by rw [hhostShown]; decide) (by rw [hhostShown]; decide), hhostShown,
    happ.eq_hyphen happShown,
    hprocess.eq_shown (by rw [hprocessShown]; decide) (by rw [hprocessShown]; decide),
    hprocessShown, hstamp]
  decide

end LogEgress.Syslog
