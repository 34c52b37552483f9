import LogEgress.Proofs.Envelope.Json
import LogEgress.Proofs.Ingress.EventStream
import LogEgress.Proofs.Text.Blank

set_option autoImplicit false

/-! # Batches come through an event stream

Batches of envelopes are sent as lines of an event stream, among lines that hold no data. However
the octets of the lines are cut into pieces, the reader gets the envelopes of the batches in their
order and then learns that the stream ended, and a line that was not finished makes no difference
(`batches_come_through`).
-/

namespace LogEgress.Ingress

open Envelope (Spelling writeSpelled)

/-! ## What is sent -/

/-- A line that is sent, without its end. -/
inductive Line where
  /-- A batch, with blanks before it. -/
  | batch (blanks : List Char) (areBlank : ∀ c ∈ blanks, Text.isBlank c = true ∧ c ≠ '\n')
      (spellings : List Spelling)
  /-- A line that holds no data: it does not begin as a line with data does, or only blanks
  follow. -/
  | noise (text : List Char) (oneLine : '\n' ∉ text)
      (dataless : ∀ rest, text = dataMark ++ rest → ∀ c ∈ rest, Text.isBlank c = true)

namespace Line

def text : Line → List Char
  | .batch blanks _ spellings => dataMark ++ (blanks ++ (writeSpelled spellings).print)
  | .noise text _ _ => text

/-- The envelopes that a line brings. -/
def envelopes : Line → List Envelope
  | .batch _ _ spellings => spellings.map (·.envelope)
  | .noise _ _ _ => []

end Line

/-- A line with its end: a line feed, with a carriage return before it or without. -/
structure SentLine where
  line : Line
  hasReturn : Bool

namespace SentLine

/-- What stands before the line feed. -/
def text (l : SentLine) : List Char := l.line.text ++ (if l.hasReturn then ['\r'] else [])

def octets (l : SentLine) : Octets := utf8 (l.text ++ ['\n'])

end SentLine

/-- The octets of lines that are sent. -/
def octetsOf (lines : List SentLine) : Octets := lines.flatMap SentLine.octets

/-- The envelopes that lines bring. -/
def envelopesOf (lines : List SentLine) : List Envelope := lines.flatMap (·.line.envelopes)

/-! ## Cutting out the lines -/

theorem cutLines_of_not_mem {o : Octets} (h : lineEnd ∉ o) : cutLines o = ([], o) := by
  induction o with
  | nil => rfl
  | cons b bs ih =>
    obtain ⟨hb, hbs⟩ := not_or.mp (List.mem_cons.not.mp h)
    rw [cutLines_cons (Ne.symm hb), ih hbs]

theorem cutLines_line {line : Octets} (h : lineEnd ∉ line) (rest : Octets) :
    cutLines (line ++ lineEnd :: rest) =
      ((line ++ [lineEnd]) :: (cutLines rest).1, (cutLines rest).2) := by
  induction line with
  | nil => exact cutLines_lineEnd rest
  | cons b bs ih =>
    obtain ⟨hb, hbs⟩ := not_or.mp (List.mem_cons.not.mp h)
    rw [List.cons_append, cutLines_cons (Ne.symm hb), ih hbs]
    rfl

theorem lineEnd_mem_utf8_iff {s : List Char} : lineEnd ∈ utf8 s ↔ '\n' ∈ s :=
  Utf8.mem_utf8_iff (b := lineEnd) (by decide)

theorem newline_not_mem_dataMark : '\n' ∉ dataMark := by decide

/-- A batch in print is on one line, as control characters are escaped in it. -/
theorem newline_not_mem_writeSpelled (batch : List Spelling) :
    '\n' ∉ (writeSpelled batch).print := by
  intro h
  have := (Envelope.plain_writeSpelled batch).le_of_mem_print _ h
  exact absurd this (by decide)

namespace SentLine

theorem newline_not_mem_text (l : SentLine) : '\n' ∉ l.text := by
  have hLine : '\n' ∉ l.line.text := by
    rcases l.line with ⟨blanks, areBlank, batch⟩ | ⟨text, oneLine, -⟩
    · have hBlanks : '\n' ∉ blanks := fun h => (areBlank _ h).2 rfl
      simp [Line.text, newline_not_mem_dataMark, hBlanks, newline_not_mem_writeSpelled]
    · exact oneLine
  rw [text, List.mem_append, not_or]
  exact ⟨hLine, by split <;> decide⟩

theorem octets_eq (l : SentLine) : l.octets = utf8 l.text ++ [lineEnd] := by
  rw [octets, Utf8.utf8_append]
  rfl

end SentLine

/-- **The lines that were sent are cut out again**, and the beginning of a line is left. -/
theorem cutLines_octetsOf (lines : List SentLine) {tail : Octets} (hTail : lineEnd ∉ tail) :
    cutLines (octetsOf lines ++ tail) = (lines.map SentLine.octets, tail) := by
  induction lines with
  | nil => exact cutLines_of_not_mem hTail
  | cons l lines ih =>
    have hText : lineEnd ∉ utf8 l.text := fun h =>
      l.newline_not_mem_text (lineEnd_mem_utf8_iff.mp h)
    calc cutLines (octetsOf (l :: lines) ++ tail)
        = cutLines (utf8 l.text ++ lineEnd :: (octetsOf lines ++ tail)) := by
          rw [octetsOf, List.flatMap_cons, l.octets_eq, ← octetsOf, List.append_assoc,
            List.append_assoc, List.singleton_append]
      _ = ((utf8 l.text ++ [lineEnd]) :: (cutLines (octetsOf lines ++ tail)).1,
            (cutLines (octetsOf lines ++ tail)).2) := cutLines_line hText _
      _ = ((l :: lines).map SentLine.octets, tail) := by
          rw [ih, List.map_cons, l.octets_eq]

/-! ## Reading the lines -/

/-- What a line says without the carriage returns and line feeds at its end. -/
def bare (line : List Char) : List Char :=
  Text.dropEndWhile (fun c => c = '\r' || c = '\n') line

theorem dataOf?_eq_none {line : List Char}
    (h : ∀ rest, bare line = dataMark ++ rest → ∀ c ∈ rest, Text.isBlank c = true) :
    dataOf? line = none := by
  by_cases hMark : (bare line).take dataMark.length = dataMark
  · have hCut : bare line = dataMark ++ (bare line).drop dataMark.length := by
      conv_lhs => rw [← List.take_append_drop dataMark.length (bare line), hMark]
    have hNothing := Text.trim_eq_nil (h _ hCut)
    unfold bare at hMark hNothing
    simp only [dataOf?, if_pos hMark, hNothing]
  · unfold bare at hMark
    simp only [dataOf?, if_neg hMark]

theorem dataOf?_eq_some {line rest data : List Char} (hBare : bare line = dataMark ++ rest)
    (hTrim : Text.trim rest = data) (hSome : data ≠ []) : dataOf? line = some data := by
  unfold bare at hBare
  simp only [dataOf?, hBare, List.take_left, List.drop_left, if_true, hTrim]

theorem bare_sent (l : SentLine) : bare (l.text ++ ['\n']) = bare l.line.text := by
  rw [SentLine.text, List.append_assoc]
  refine Text.dropEndWhile_append_of_all ?_
  cases l.hasReturn <;> simp

/-- The JSON of a batch stands in braces. -/
theorem exists_print_writeSpelled (spellings : List Spelling) :
    ∃ s, (writeSpelled spellings).print = '{' :: s ++ ['}'] := ⟨_, rfl⟩

theorem dataOf?_batch {blanks : List Char}
    (areBlank : ∀ c ∈ blanks, Text.isBlank c = true ∧ c ≠ '\n') (spellings : List Spelling)
    {line : List Char}
    (h : bare line = bare (Line.batch blanks areBlank spellings).text) :
    dataOf? line = some (writeSpelled spellings).print := by
  obtain ⟨s, hs⟩ := exists_print_writeSpelled spellings
  have hBare : bare line = dataMark ++ (blanks ++ (writeSpelled spellings).print) := by
    rw [h, Line.text, hs, ← List.append_assoc, ← List.append_assoc, bare,
      Text.dropEndWhile_concat_of_neg (by decide)]
  refine dataOf?_eq_some hBare ?_ (by simp [hs])
  rw [hs, Text.trim_blanks_append (fun c hc => (areBlank c hc).1) (by decide) (by decide)]

theorem dataOf?_noise {text : List Char}
    (dataless : ∀ rest, text = dataMark ++ rest → ∀ c ∈ rest, Text.isBlank c = true)
    {line : List Char} (h : bare line = bare text) : dataOf? line = none := by
  refine dataOf?_eq_none fun rest hRest c hc => ?_
  -- The text has the same beginning, with more at the end perhaps.
  obtain ⟨more, hText, -⟩ := Text.exists_eq_dropEndWhile_append (fun c => c = '\r' || c = '\n') text
  rw [← bare, ← h, hRest, List.append_assoc] at hText
  exact dataless _ hText c (List.mem_append_left more hc)

/-- The envelopes of a batch are read from its text. -/
theorem readBatch_print (spellings : List Spelling) :
    readBatch (writeSpelled spellings).print = .ok (spellings.map (·.envelope)) := by
  rw [readBatch, Json.decode_print _ (Envelope.plain_writeSpelled spellings),
    Envelope.readBatch_writeSpelled]
  show List.mapM _ _ = _
  induction spellings with
  | nil => rfl
  | cons s spellings ih =>
    rw [List.map_cons, List.mapM_cons, ih, Envelope.Form.toEnvelope_toForm]
    rfl

theorem readLine_octets (l : SentLine) : readLine l.octets = .ok l.line.envelopes := by
  have hBare := bare_sent l
  rw [readLine, SentLine.octets, Utf8.decode_utf8]
  rcases hLine : l.line with ⟨blanks, areBlank, spellings⟩ | ⟨text, oneLine, dataless⟩
  · rw [hLine] at hBare
    simp only [dataOf?_batch areBlank spellings hBare, readBatch_print, Line.envelopes]
  · rw [hLine] at hBare
    simp only [dataOf?_noise dataless hBare, Line.envelopes]

theorem readLines_octets (lines : List SentLine) :
    readLines (lines.map SentLine.octets) = (envelopesOf lines, none) := by
  induction lines with
  | nil => rfl
  | cons l lines ih =>
    simp only [List.map_cons, readLines, readLine_octets, ih, envelopesOf, List.flatMap_cons]

namespace EventStream

/-- **Batches come through an event stream.** Batches of envelopes are sent as lines, each in
whatever spelling and after whatever blanks, and lines without data are among them. However the
octets are cut into pieces, the answers to the reader are the envelopes of the batches in their
order, and then that the stream ended. The beginning of a line that comes last adds nothing. How
`Envelope.writeBatch` writes a batch is one of its spellings. -/
theorem batches_come_through :
    (∀ es : List Envelope,
      Envelope.writeBatch (es.map Envelope.toForm) = writeSpelled (es.map Spelling.sorted)) ∧
    ∀ (lines : List SentLine) (tail : Octets) (pieces : List Octets), lineEnd ∉ tail →
      pieces.flatten = octetsOf lines ++ tail →
      answersTo pieces [.ended] = (envelopesOf lines).map .ok ++ [.error .closed] := by
  refine ⟨Envelope.writeBatch_eq, fun lines tail pieces hTail hPieces => ?_⟩
  have hReading : reading pieces.flatten = (envelopesOf lines, none) := by
    rw [hPieces, reading, cutLines_octetsOf lines hTail, readLines_octets]
  have hEnding : ending pieces.flatten [.ended] = [.error .closed] := by
    simp only [ending, hReading, answers_cons, feed]
  have hSound : (reading pieces.flatten).2 = none := by rw [hReading]
  calc answersTo pieces [.ended]
      = (reading pieces.flatten).1.map .ok ++ ending pieces.flatten [.ended] :=
        answers_of_sound hSound [.ended]
    _ = (envelopesOf lines).map .ok ++ [.error .closed] := by rw [hReading, hEnding]

/-- A comment, a line with blank data, and a batch of one envelope whose tags are written last one
first; then the beginning of another batch. The octets arrive one by one, so that a character of
two octets is cut, too. -/
theorem batch_comes_octet_by_octet :
    let e : Envelope := ⟨"app", "0", 7, .ofList [("job", "é"), ("zone", "z")],
      some ⟨[104, 105, 10], .err⟩⟩
    let comment : Line := .noise ": é".toList (by decide)
      fun rest h => absurd h (by simp [dataMark])
    let blank : Line := .noise "data: \t".toList (by decide) fun rest h => by
      obtain rfl : [' ', '\t'] = rest :=
        List.append_cancel_left (show dataMark ++ [' ', '\t'] = dataMark ++ rest from h)
      exact List.all_eq_true.mp rfl
    let batch : Line := .batch [' '] (by simp [Text.isBlank])
      [⟨e, e.tags.entries.reverse, List.reverse_perm _⟩]
    let lines : List SentLine := [⟨comment, false⟩, ⟨blank, true⟩, ⟨batch, true⟩]
    let tail := utf8 "data: \x7b\"batch".toList
    let pieces := (octetsOf lines ++ tail).map fun b => [b]
    lineEnd ∉ tail ∧ pieces.flatten = octetsOf lines ++ tail ∧
      answersTo pieces [.ended] = [.ok e, .error .closed] := by
  intro e comment blank batch lines tail pieces
  have hTail : lineEnd ∉ tail := by decide
  have hPieces : pieces.flatten = octetsOf lines ++ tail := by
    rw [← List.flatMap_def, List.flatMap_singleton']
  exact ⟨hTail, hPieces, batches_come_through.2 lines tail pieces hTail hPieces⟩

end EventStream

end LogEgress.Ingress
