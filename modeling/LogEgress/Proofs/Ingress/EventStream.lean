import Mathlib.Data.List.Induction
import LogEgress.Ingress.EventStream
import LogEgress.Proofs.Text.Utf8

set_option autoImplicit false

/-! # Streams in pieces

The octets of an event stream arrive in pieces that are cut anywhere. What a reader gets is
compared with what the lines of the octets say, read one after another (`reading`). While all lines
can be decoded the pieces make no difference (`answers_of_sound`). A line that cannot be decoded
ends the stream, and the error overtakes the envelopes of the lines before it that the same piece
completed (`answers_of_break`). Those envelopes are lost, and no others: `splits_agree_iff` says of
one way to cut the octets whether it loses envelopes, and of which octets all ways to cut them
agree.
-/

namespace LogEgress.Ingress

/-! ## Lines of octets -/

/-- The lines of some octets, each with its end, and what follows the last end. -/
def cutLines : Octets → List Octets × Octets
  | [] => ([], [])
  | b :: bs =>
    if b = lineEnd then ([b] :: (cutLines bs).1, (cutLines bs).2)
    else match cutLines bs with
      | ([], rest) => ([], b :: rest)
      | (line :: lines, rest) => ((b :: line) :: lines, rest)

theorem cutLines_lineEnd (bs : Octets) :
    cutLines (lineEnd :: bs) = ([lineEnd] :: (cutLines bs).1, (cutLines bs).2) := by
  simp [cutLines]

theorem cutLines_cons {b : UInt8} (h : b ≠ lineEnd) (bs : Octets) :
    cutLines (b :: bs) = match cutLines bs with
      | ([], rest) => ([], b :: rest)
      | (line :: lines, rest) => ((b :: line) :: lines, rest) := by
  simp [cutLines, h]

/-- Octets without a line end are the beginning of a line. -/
theorem rest_of_no_lines {o : Octets} (h : (cutLines o).1 = []) : (cutLines o).2 = o := by
  induction o with
  | nil => rfl
  | cons b bs ih =>
    by_cases hb : b = lineEnd
    · subst hb
      simp [cutLines_lineEnd] at h
    · rw [cutLines_cons hb] at h ⊢
      rcases hc : cutLines bs with ⟨_ | ⟨line, lines⟩, rest⟩
      · have : rest = bs := by simpa [hc] using ih
        rw [this]
      · simp [hc] at h

/-- What follows the last line end has none. -/
theorem cutLines_rest (o : Octets) : cutLines (cutLines o).2 = ([], (cutLines o).2) := by
  induction o with
  | nil => rfl
  | cons b bs ih =>
    by_cases hb : b = lineEnd
    · subst hb
      rw [cutLines_lineEnd]
      exact ih
    · rw [cutLines_cons hb]
      rcases hc : cutLines bs with ⟨_ | ⟨line, lines⟩, rest⟩ <;> rw [hc] at ih
      · simp only at ih ⊢
        rw [cutLines_cons hb, ih]
      · exact ih

/-- **More octets complete the line that was begun, and leave the lines before as they were.** -/
theorem cutLines_append (a c : Octets) :
    cutLines (a ++ c) =
      ((cutLines a).1 ++ (cutLines ((cutLines a).2 ++ c)).1,
        (cutLines ((cutLines a).2 ++ c)).2) := by
  induction a with
  | nil => rfl
  | cons b bs ih =>
    rw [List.cons_append]
    by_cases hb : b = lineEnd
    · subst hb
      rw [cutLines_lineEnd, cutLines_lineEnd, ih]
      rfl
    · rw [cutLines_cons hb, cutLines_cons hb]
      rcases hc : cutLines bs with ⟨_ | ⟨line, lines⟩, rest⟩ <;> rw [hc] at ih
      · simp only [List.nil_append] at ih ⊢
        rw [ih, List.cons_append, cutLines_cons hb]
      · simp only [List.cons_append] at ih ⊢
        rw [ih]

/-- One octet completes at most one line. -/
theorem length_cutLines_concat {o : Octets} (h : (cutLines o).1 = []) (b : UInt8) :
    (cutLines (o ++ [b])).1.length ≤ 1 := by
  induction o with
  | nil => by_cases hb : b = lineEnd <;> simp [cutLines, hb]
  | cons d ds ih =>
    by_cases hd : d = lineEnd
    · subst hd
      simp [cutLines_lineEnd] at h
    · have hds : (cutLines ds).1 = [] := by
        rw [cutLines_cons hd] at h
        rcases hc : cutLines ds with ⟨_ | ⟨line, lines⟩, rest⟩
        · rfl
        · simp [hc] at h
      have := ih hds
      rw [List.cons_append, cutLines_cons hd]
      rcases hc : cutLines (ds ++ [b]) with ⟨_ | ⟨line, lines⟩, rest⟩ <;> rw [hc] at this
      · simp
      · simpa using this

/-- Cutting the first line off is cutting all lines, one step of it. -/
theorem cutLines_of_cutLine? {o : Octets} :
    (cutLine? o = none → (cutLines o).1 = []) ∧
    (∀ line rest, cutLine? o = some (line, rest) →
      cutLines o = (line :: (cutLines rest).1, (cutLines rest).2)) := by
  induction o with
  | nil => simp [cutLine?, cutLines]
  | cons b bs ih =>
    obtain ⟨ihNone, ihSome⟩ := ih
    by_cases hb : b = lineEnd
    · subst hb
      simp only [cutLine?, if_true, cutLines_lineEnd, Option.some.injEq, Prod.mk.injEq]
      refine ⟨by simp, ?_⟩
      rintro line rest ⟨rfl, rfl⟩
      exact ⟨rfl, rfl⟩
    · simp only [cutLine?, if_neg hb, Option.map_eq_none_iff, Option.map_eq_some_iff,
        Prod.mk.injEq, Prod.exists]
      rw [cutLines_cons hb]
      constructor
      · intro h
        have := ihNone h
        rcases hc : cutLines bs with ⟨_ | ⟨line, lines⟩, rest⟩
        · rfl
        · simp [hc] at this
      · rintro line rest ⟨l, r, hcut, rfl, rfl⟩
        rw [ihSome l r hcut]

/-! ## Lines that are read -/

/-- The envelopes of lines one after another, and the error of the first line that has one. -/
def readLines : List Octets → List Envelope × Option Error
  | [] => ([], none)
  | line :: lines => match readLine line with
    | .error e => ([], some e)
    | .ok es => (es ++ (readLines lines).1, (readLines lines).2)

/-- What the whole lines of some octets say. -/
def reading (o : Octets) : List Envelope × Option Error := readLines (cutLines o).1

theorem readLines_append_of_sound {a : List Octets} (h : (readLines a).2 = none)
    (c : List Octets) :
    readLines (a ++ c) = ((readLines a).1 ++ (readLines c).1, (readLines c).2) := by
  induction a with
  | nil => rfl
  | cons line lines ih =>
    cases hl : readLine line with
    | error e => simp [readLines, hl] at h
    | ok es =>
      simp only [readLines, hl, List.cons_append] at h ⊢
      rw [ih h, List.append_assoc]

theorem readLines_append_of_broken {a : List Octets} {e : Error} (h : (readLines a).2 = some e)
    (c : List Octets) : readLines (a ++ c) = readLines a := by
  induction a with
  | nil => simp [readLines] at h
  | cons line lines ih =>
    cases hl : readLine line with
    | error e => simp [readLines, hl]
    | ok es =>
      simp only [readLines, hl, List.cons_append] at h ⊢
      rw [ih h]

/-- After sound lines the reading goes on with the line that was begun. -/
theorem reading_append_of_sound {a : Octets} (h : (reading a).2 = none) (c : Octets) :
    reading (a ++ c) = ((reading a).1 ++ (reading ((cutLines a).2 ++ c)).1,
      (reading ((cutLines a).2 ++ c)).2) := by
  simp only [reading]
  rw [cutLines_append, readLines_append_of_sound h]

/-- Nothing after a broken line counts. -/
theorem reading_append_of_broken {a : Octets} {e : Error} (h : (reading a).2 = some e)
    (c : Octets) : reading (a ++ c) = reading a := by
  simp only [reading] at h ⊢
  rw [cutLines_append, readLines_append_of_broken h]

/-- A single line says its envelopes or its error, not both. -/
theorem readLines_of_length_le_one {lines : List Octets} (hl : lines.length ≤ 1)
    (h : (readLines lines).2 ≠ none) : (readLines lines).1 = [] := by
  match lines, hl with
  | [], _ => rfl
  | [line], _ =>
    cases hr : readLine line with
    | error e => simp [readLines, hr]
    | ok es => simp [readLines, hr] at h

namespace EventStream

/-! ## What a reader gets -/

theorem receive_pending (buffer : Octets) (e : Envelope) (es : List Envelope) (ps : List Piece) :
    receive ⟨buffer, e :: es⟩ ps = (some (.ok e), ⟨buffer, es⟩, ps) := by
  cases ps <;> rfl

/-- Whatever gives an envelope takes a piece or one of the envelopes that were pending. -/
theorem receive_progress {s t : EventStream} {ps qs : List Piece} {e : Envelope}
    (h : receive s ps = (some (.ok e), t, qs)) :
    Prod.Lex (· < ·) (· < ·) (qs.length, t.pending.length) (ps.length, s.pending.length) := by
  induction ps generalizing s with
  | nil =>
    rcases s with ⟨buffer, _ | ⟨d, es⟩⟩
    · simp [receive] at h
    · rw [receive_pending] at h
      cases h
      exact .right _ (by simp)
  | cons p ps ih =>
    rcases s with ⟨buffer, _ | ⟨d, es⟩⟩
    · rw [receive] at h
      · split at h
        · cases h
        · have hle : qs.length ≤ ps.length := by
            rcases Prod.lex_def.mp (ih h) with hlt | ⟨heq, -⟩
            · exact Nat.le_of_lt hlt
            · exact Nat.le_of_eq heq
          exact .left _ _ (Nat.lt_succ_of_le hle)
      · simp
    · rw [receive_pending] at h
      cases h
      exact .right _ (by simp)

/-- The answers to a reader who asks until the first error, or until the stream keeps it waiting. -/
def answers (s : EventStream) (ps : List Piece) : List (Except Error Envelope) :=
  match _h : receive s ps with
  | (none, _, _) => []
  | (some (.error e), _, _) => [.error e]
  | (some (.ok e), t, qs) => .ok e :: answers t qs
termination_by (ps.length, s.pending.length)
decreasing_by exact receive_progress _h

/-- What is pending comes first. -/
theorem answers_pending (buffer : Octets) (es : List Envelope) (ps : List Piece) :
    answers ⟨buffer, es⟩ ps = es.map .ok ++ answers ⟨buffer, []⟩ ps := by
  induction es with
  | nil => rfl
  | cons e es ih =>
    rw [answers, receive_pending]
    simp only [List.map_cons, List.cons_append, ih]

theorem answers_nil (buffer : Octets) : answers ⟨buffer, []⟩ [] = [] := by
  rw [answers, receive]
  simp

/-- With nothing pending the next piece is taken. -/
theorem answers_cons (buffer : Octets) (p : Piece) (ps : List Piece) :
    answers ⟨buffer, []⟩ (p :: ps) = match feed p ⟨buffer, []⟩ with
      | (some e, _) => [.error e]
      | (none, s) => answers s ps := by
  rw [answers, receive]
  · rcases feed p ⟨buffer, []⟩ with ⟨_ | e, s⟩
    · simp only
      rw [answers]
    · simp
  · simp

/-- The buffer's whole lines are read up to the first error; the envelopes before it are added to
the pending ones. -/
theorem decodeLines_spec (s : EventStream) :
    (decodeLines s).1 = (reading s.buffer).2 ∧
    ((reading s.buffer).2 = none →
      (decodeLines s).2 = ⟨(cutLines s.buffer).2, s.pending ++ (reading s.buffer).1⟩) := by
  fun_induction decodeLines s with
  | case1 s h =>
    have hl := cutLines_of_cutLine?.1 h
    simp [reading, hl, readLines, rest_of_no_lines hl]
  | case2 s line rest h e hr =>
    have hl := cutLines_of_cutLine?.2 line rest h
    simp [reading, hl, readLines, hr]
  | case3 s line rest h es hr ih =>
    have hl := cutLines_of_cutLine?.2 line rest h
    simp only [reading, hl, readLines, hr] at ih ⊢
    simpa [List.append_assoc] using ih

/-- One piece of octets: its error comes at once, and its envelopes only if it has none. -/
theorem answers_octets (buffer o : Octets) (ps : List Piece) :
    answers ⟨buffer, []⟩ (.octets o :: ps) = match (reading (buffer ++ o)).2 with
      | some e => [.error e]
      | none => (reading (buffer ++ o)).1.map .ok ++
          answers ⟨(cutLines (buffer ++ o)).2, []⟩ ps := by
  have hSpec := decodeLines_spec ⟨buffer ++ o, []⟩
  rw [answers_cons]
  simp only [feed]
  generalize decodeLines ⟨buffer ++ o, []⟩ = decoded at hSpec ⊢
  obtain ⟨error, t⟩ := decoded
  obtain ⟨rfl, hState⟩ := hSpec
  cases hr : (reading (buffer ++ o)).2 with
  | some e => rfl
  | none =>
    obtain rfl : t = _ := hState hr
    exact answers_pending _ _ _

/-- Asking one by one and asking for everything give the same. -/
theorem answers_eq_receiveAll (given : Nat) (s : EventStream) (ps : List Piece) :
    answers s ps = (receiveAll none given s ps).1.map .ok ++
      (receiveAll none given s ps).2.toList.map .error := by
  induction ps generalizing given s with
  | nil =>
    obtain ⟨buffer, es⟩ := s
    rw [answers_pending, answers_nil]
    simp [receiveAll]
  | cons p ps ih =>
    obtain ⟨buffer, es⟩ := s
    rw [answers_pending, answers_cons]
    simp only [receiveAll, Option.any_none, Bool.false_eq_true, if_false]
    rcases feed p ⟨buffer, []⟩ with ⟨_ | e, t⟩
    · simp only
      rw [ih (given + es.length) t]
      simp
    · simp

/-! ## Ways to cut -/

/-- The answers to a reader when octets arrive in pieces and something after them. -/
def answersTo (pieces : List Octets) (after : List Piece) : List (Except Error Envelope) :=
  answers {} (pieces.map .octets ++ after)

/-- What comes after the envelopes of some octets: the error of a broken line, or else the answers
to what follows the octets. -/
def ending (body : Octets) (after : List Piece) : List (Except Error Envelope) :=
  match (reading body).2 with
  | some e => [.error e]
  | none => answers ⟨(cutLines body).2, []⟩ after

/-- A piece that completes the first broken line, after the pieces `before`. -/
def Breaks (before : List Octets) (piece : Octets) : Prop :=
  (reading before.flatten).2 = none ∧ (reading (before.flatten ++ piece)).2 ≠ none

/-- A way to cut octets in which one piece completes the first broken line and envelopes of lines
before it. -/
def Overtakes (pieces : List Octets) : Prop :=
  ∃ before piece after, pieces = before ++ piece :: after ∧ Breaks before piece ∧
    (reading (before.flatten ++ piece)).1 ≠ (reading before.flatten).1

/-- The pieces after a line that was begun with the octets `o`. -/
theorem answers_of_sound_from {o : Octets} (ho : (cutLines o).1 = []) {pieces : List Octets}
    (h : (reading (o ++ pieces.flatten)).2 = none) (after : List Piece) :
    answers ⟨o, []⟩ (pieces.map .octets ++ after) =
      (reading (o ++ pieces.flatten)).1.map .ok ++
        answers ⟨(cutLines (o ++ pieces.flatten)).2, []⟩ after := by
  induction pieces generalizing o with
  | nil =>
    have hr : reading o = ([], none) := by simp [reading, ho, readLines]
    simp [hr, rest_of_no_lines ho]
  | cons piece pieces ih =>
    rw [List.flatten_cons, ← List.append_assoc] at h ⊢
    -- What the first piece completes is sound too, or the whole would not be.
    have hPiece : (reading (o ++ piece)).2 = none := by
      by_contra hne
      obtain ⟨e, he⟩ := Option.ne_none_iff_exists'.mp hne
      rw [reading_append_of_broken he, he] at h
      cases h
    rw [reading_append_of_sound hPiece] at h ⊢
    rw [List.map_cons, List.cons_append, answers_octets, hPiece]
    simp only at h ⊢
    rw [ih (by rw [cutLines_rest]) h, cutLines_append (o ++ piece), List.map_append,
      List.append_assoc]

/-- **While all lines are sound, the pieces make no difference.** -/
theorem answers_of_sound {pieces : List Octets} (h : (reading pieces.flatten).2 = none)
    (after : List Piece) :
    answersTo pieces after = (reading pieces.flatten).1.map .ok ++ ending pieces.flatten after := by
  rw [answersTo, ending, h]
  exact answers_of_sound_from (o := []) rfl h after

/-- **The error of a broken line comes before everything that the same piece completed.** -/
theorem answers_of_break {before : List Octets} {piece : Octets} (h : Breaks before piece)
    (pieces : List Octets) (after : List Piece) :
    answersTo (before ++ piece :: pieces) after = (reading before.flatten).1.map .ok ++
      ending (before.flatten ++ piece) after := by
  obtain ⟨hSound, hBroken⟩ := h
  obtain ⟨e, he⟩ := Option.ne_none_iff_exists'.mp hBroken
  have hPiece : (reading ((cutLines before.flatten).2 ++ piece)).2 = some e := by
    rw [reading_append_of_sound hSound] at he
    exact he
  rw [answersTo, List.map_append, List.append_assoc]
  have := answers_of_sound_from (o := []) rfl hSound
    ((piece :: pieces).map .octets ++ after)
  rw [List.nil_append] at this
  rw [this, List.map_cons, List.cons_append, answers_octets, hPiece, ending, he]

/-- Broken octets have a first piece that completes a broken line. -/
theorem exists_breaks {pieces : List Octets} (h : (reading pieces.flatten).2 ≠ none) :
    ∃ before piece after, pieces = before ++ piece :: after ∧ Breaks before piece := by
  induction pieces using List.reverseRecOn with
  | nil => exact absurd rfl h
  | append_singleton pieces last ih =>
    by_cases hSound : (reading pieces.flatten).2 = none
    · refine ⟨pieces, last, [], rfl, hSound, ?_⟩
      rwa [List.flatten_append, List.flatten_singleton] at h
    · obtain ⟨before, piece, after, rfl, hBreaks⟩ := ih hSound
      exact ⟨before, piece, after ++ [last], by simp, hBreaks⟩

/-- What is read until a break is what is read altogether. -/
theorem Breaks.reading_eq {before : List Octets} {piece : Octets} (h : Breaks before piece)
    (pieces : List Octets) :
    reading (before ++ piece :: pieces).flatten = reading (before.flatten ++ piece) := by
  obtain ⟨e, he⟩ := Option.ne_none_iff_exists'.mp h.2
  rw [List.flatten_append, List.flatten_cons, ← List.append_assoc, reading_append_of_broken he]

/-- Only one piece completes the first broken line. -/
theorem Breaks.unique {before before' pieces pieces' : List Octets} {piece piece' : Octets}
    (h : Breaks before piece) (h' : Breaks before' piece')
    (heq : before ++ piece :: pieces = before' ++ piece' :: pieces') :
    before = before' ∧ piece = piece' := by
  -- Were one break later, the octets before it would be broken already.
  have key : ∀ {a d more : List Octets} {b c : Octets}, Breaks a b → Breaks d c →
      d ≠ a ++ b :: more := by
    rintro a d more b c hab hdc rfl
    have hSound := hdc.1
    rw [hab.reading_eq more] at hSound
    exact hab.2 hSound
  rcases List.append_eq_append_iff.mp heq with ⟨_ | ⟨b, more⟩, hl, hr⟩ | ⟨_ | ⟨b, more⟩, hl, hr⟩
  · simp_all
  · obtain ⟨rfl, -⟩ := List.cons.inj hr
    exact absurd hl (key h h')
  · simp_all
  · obtain ⟨rfl, -⟩ := List.cons.inj hr
    exact absurd hl (key h' h)

/-- Octets that arrive one by one overtake nothing. -/
theorem not_overtakes_singletons (body : Octets) : ¬ Overtakes (body.map fun b => [b]) := by
  rintro ⟨before, piece, after, heq, ⟨hSound, hBroken⟩, hne⟩
  obtain ⟨b, rfl⟩ : ∃ b, piece = [b] := by
    have : piece ∈ body.map fun b => [b] := by rw [heq]; simp
    obtain ⟨b, -, rfl⟩ := List.mem_map.mp this
    exact ⟨b, rfl⟩
  rw [reading_append_of_sound hSound] at hBroken hne
  have hNoLines : (cutLines (cutLines before.flatten).2).1 = [] := by rw [cutLines_rest]
  have hNone := readLines_of_length_le_one (length_cutLines_concat hNoLines b) hBroken
  refine hne ?_
  simp only [reading] at hNone ⊢
  rw [hNone, List.append_nil]

/-- The answers are a beginning of what the lines say, then the ending; the beginning is short
exactly when the error overtakes. -/
theorem answersTo_eq (pieces : List Octets) (after : List Piece) :
    ∃ given lost, (reading pieces.flatten).1 = given ++ lost ∧
      answersTo pieces after = given.map .ok ++ ending pieces.flatten after ∧
      (lost = [] ↔ ¬ Overtakes pieces) := by
  by_cases hSound : (reading pieces.flatten).2 = none
  · refine ⟨_, [], (List.append_nil _).symm, answers_of_sound hSound after, ?_⟩
    simp only [true_iff]
    rintro ⟨before, piece, more, rfl, hBreaks, -⟩
    exact hBreaks.2 (hBreaks.reading_eq more ▸ hSound)
  · obtain ⟨before, piece, more, rfl, hBreaks⟩ := exists_breaks hSound
    have hReading := hBreaks.reading_eq more
    have hSplit := reading_append_of_sound hBreaks.1 piece
    refine ⟨(reading before.flatten).1, (reading ((cutLines before.flatten).2 ++ piece)).1,
      by rw [hReading, hSplit], ?_, ?_⟩
    · rw [answers_of_break hBreaks]
      obtain ⟨e, he⟩ := Option.ne_none_iff_exists'.mp hBreaks.2
      simp only [ending, hReading, he]
    · constructor
      · rintro hLost ⟨before', piece', more', heq, hBreaks', hne⟩
        obtain ⟨rfl, rfl⟩ := hBreaks.unique hBreaks' heq
        rw [hSplit, hLost, List.append_nil] at hne
        exact hne rfl
      · intro hNot
        by_contra hLost
        refine hNot ⟨before, piece, more, rfl, hBreaks, ?_⟩
        rw [hSplit]
        simpa using hLost

/-- **Envelopes that an error overtakes are lost, and no others.** However octets are cut, a reader
gets a beginning of the envelopes that the lines say, and then the same ending; the beginning is all
of them unless one piece completes the first broken line and envelopes before it. All ways to cut
the octets agree exactly if no line is broken, or no envelope comes before the first broken line. -/
theorem splits_agree_iff (body : Octets) (after : List Piece) :
    (∀ pieces, pieces.flatten = body → ∃ given lost, (reading body).1 = given ++ lost ∧
      answersTo pieces after = given.map .ok ++ ending body after ∧
      (lost = [] ↔ ¬ Overtakes pieces)) ∧
    ((∀ pieces pieces', pieces.flatten = body → pieces'.flatten = body →
        answersTo pieces after = answersTo pieces' after) ↔
      (reading body).2 = none ∨ (reading body).1 = []) := by
  refine ⟨?_, ?_, ?_⟩
  · rintro pieces rfl
    exact answersTo_eq pieces after
  · -- The octets at once against the octets one by one.
    intro hAgree
    by_contra hNot
    obtain ⟨hBroken, hSome⟩ := not_or.mp hNot
    have hOnce : [body].flatten = body := List.flatten_singleton
    have hSingly : (body.map fun b => [b]).flatten = body := by
      rw [← List.flatMap_def, List.flatMap_singleton']
    have hBreaks : Breaks [] body := ⟨rfl, hBroken⟩
    have hNone : answersTo [body] after = ending body after :=
      answers_of_break hBreaks [] after
    obtain ⟨given, lost, hReading, hAnswers, hLost⟩ := answersTo_eq (body.map fun b => [b]) after
    rw [hSingly] at hReading hAnswers
    rw [hLost.mpr (not_overtakes_singletons body), List.append_nil] at hReading
    have hEqual := hAgree [body] (body.map fun b => [b]) hOnce hSingly
    rw [hNone, hAnswers, ← hReading, List.self_eq_append_left, List.map_eq_nil_iff] at hEqual
    exact hSome hEqual
  · rintro (hSound | hNone) pieces pieces' rfl hBody
    · rw [answers_of_sound hSound, ← hBody, answers_of_sound (hBody ▸ hSound)]
    · have key : ∀ cut : List Octets, cut.flatten = pieces.flatten →
          answersTo cut after = ending pieces.flatten after := by
        intro cut hCut
        obtain ⟨given, lost, hReading, hAnswers, -⟩ := answersTo_eq cut after
        rw [hCut, hNone] at hReading
        obtain ⟨rfl, -⟩ := List.append_eq_nil_iff.mp hReading.symm
        simpa [hCut] using hAnswers
      rw [key pieces rfl, key pieces' hBody]

/-! ## An envelope that is lost -/

/-- A line with an envelope that has a timestamp and a source. -/
def stampedLine (timestamp : String) : Octets :=
  utf8 ("data: \x7b\"batch\": [\x7b\"timestamp\": \"" ++ timestamp ++
    "\", \"source_id\": \"app\"\x7d]\x7d\n").toList

/-- The envelope of a stamped line. -/
def stampedEnvelope (timestamp : Int64) : Envelope := ⟨"app", "", timestamp, {}, none⟩

/-- The error of a line with a timestamp that is not a number. -/
def badStamp : Error := .decode "invalid timestamp \"x\": invalid digit found in string"

theorem reading_stampedLine : reading (stampedLine "1") = ([stampedEnvelope 1], none) := by
  have hLines : (cutLines (stampedLine "1")).1 = [stampedLine "1"] := by decide +kernel
  have hLine : readLine (stampedLine "1") = .ok [stampedEnvelope 1] := by
    rw [readLine, stampedLine, Utf8.decode_utf8]
    decide +kernel
  simp [reading, hLines, readLines, hLine]

theorem reading_badStamp : reading (stampedLine "x") = ([], some badStamp) := by
  have hLines : (cutLines (stampedLine "x")).1 = [stampedLine "x"] := by decide +kernel
  have hLine : readLine (stampedLine "x") = .error badStamp := by
    rw [readLine, stampedLine, Utf8.decode_utf8]
    decide +kernel
  simp [reading, hLines, readLines, hLine]

theorem reading_stampedLines :
    reading (stampedLine "1" ++ stampedLine "x") = ([stampedEnvelope 1], some badStamp) := by
  have hRest : (cutLines (stampedLine "1")).2 = [] := by decide +kernel
  rw [reading_append_of_sound (by rw [reading_stampedLine]), hRest, List.nil_append,
    reading_stampedLine, reading_badStamp]
  rfl

/-- All ways to cut a sound line agree. Where a broken line follows, they do not, and what a reader
gets of the two lines in one piece is followed by the error. -/
theorem splits_of_stamped_lines :
    let body := stampedLine "1" ++ stampedLine "x"
    (∀ pieces pieces', pieces.flatten = stampedLine "1" → pieces'.flatten = stampedLine "1" →
      answersTo pieces [.ended] = answersTo pieces' [.ended]) ∧
    (¬ ∀ pieces pieces', pieces.flatten = body → pieces'.flatten = body →
      answersTo pieces [.ended] = answersTo pieces' [.ended]) ∧
    ∃ given lost, given ++ lost = [stampedEnvelope 1] ∧
      answersTo [body] [.ended] = given.map .ok ++ [.error badStamp] := by
  intro body
  refine ⟨?_, fun hAgree => ?_, ?_⟩
  · exact (splits_agree_iff (stampedLine "1") [.ended]).2.2 (.inl (by rw [reading_stampedLine]))
  · have hReading := (splits_agree_iff body [.ended]).2.1 hAgree
    rw [reading_stampedLines] at hReading
    rcases hReading with hSound | hNone
    · cases hSound
    · cases hNone
  · obtain ⟨given, lost, hReading, hAnswers, -⟩ :=
      (splits_agree_iff body [.ended]).1 [body] List.flatten_singleton
    rw [reading_stampedLines] at hReading
    have hEnding : ending body [.ended] = [.error badStamp] := by
      simp [ending, body, reading_stampedLines]
    exact ⟨given, lost, hReading.symm, hEnding ▸ hAnswers⟩

/-- Two lines, of which the second is broken: a reader who gets them in two pieces is given the
envelope of the first, and one who gets them in one piece is not. -/
theorem bad_stamp_overtakes_envelope :
    [stampedLine "1" ++ stampedLine "x"].flatten = [stampedLine "1", stampedLine "x"].flatten ∧
    answersTo [stampedLine "1", stampedLine "x"] [.ended] =
      [.ok (stampedEnvelope 1), .error badStamp] ∧
    answersTo [stampedLine "1" ++ stampedLine "x"] [.ended] = [.error badStamp] := by
  have hEnding : ending (stampedLine "1" ++ stampedLine "x") [.ended] = [.error badStamp] := by
    simp [ending, reading_stampedLines]
  have hTwo : Breaks [stampedLine "1"] (stampedLine "x") :=
    ⟨by simp [reading_stampedLine], by simp [reading_stampedLines]⟩
  have hOne : Breaks [] (stampedLine "1" ++ stampedLine "x") :=
    ⟨rfl, by simp [reading_stampedLines]⟩
  refine ⟨by simp, ?_, ?_⟩
  · have := answers_of_break hTwo [] [.ended]
    simpa [reading_stampedLine, hEnding] using this
  · have := answers_of_break hOne [] [.ended]
    simpa [reading, cutLines, readLines, hEnding] using this

end EventStream

end LogEgress.Ingress
