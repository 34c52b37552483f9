import LogEgress.Metrics
import LogEgress.Proofs.Text.Split
import LogEgress.Proofs.Text.Utf8
import Mathlib.Data.Prod.Lex
import Mathlib.Data.String.Basic

set_option autoImplicit false

/-! # The text of labels tells them apart

A reader of the text finds each label again: its key ends at the first equals sign, and its value at
the first quote that no backslash stands before. So label lists, with keys in which there is no
equals sign, have the same text if and only if they have the same labels, in whatever order
(`printLabels_eq_iff`). What the text is, is said once more in its own words (`isText_printLabels`).
-/

namespace LogEgress.Metrics

/-! ## Values -/

/-- A character of a value, as it stands between quotes. -/
def escapeChar : Char → List Char
  | '\\' => ['\\', '\\']
  | '"' => ['\\', '"']
  | '\n' => ['\\', 'n']
  | c => [c]

theorem replace_append (c : Char) (cs s t : List Char) :
    replace c cs (s ++ t) = replace c cs s ++ replace c cs t :=
  List.flatMap_append

theorem escape_singleton (c : Char) : escape [c] = escapeChar c := by
  unfold escapeChar
  split
  · decide
  · decide
  · decide
  · next hslash hquote hline =>
    simp only [escape, replace, List.flatMap_singleton, if_neg hslash, if_neg hquote, if_neg hline]

/-- The three passes over a value amount to one, which takes each character by itself. -/
theorem escape_eq (s : List Char) : escape s = s.flatMap escapeChar := by
  induction s with
  | nil => rfl
  | cons c s ih =>
    have happend : escape ([c] ++ s) = escape [c] ++ escape s := by
      simp only [escape, replace_append]
    rw [List.flatMap_cons, ← ih, ← escape_singleton]
    exact happend

/-- Reads a value up to the quote that ends it. -/
def readValue? : List Char → Option (List Char × List Char)
  | [] => none
  | '"' :: s => some ([], s)
  | '\\' :: c :: s => (readValue? s).map fun (v, r) => ((if c = 'n' then '\n' else c) :: v, r)
  | c :: s => (readValue? s).map fun (v, r) => (c :: v, r)

theorem readValue?_escapeChar (c : Char) (s : List Char) :
    readValue? (escapeChar c ++ s) = (readValue? s).map fun (v, r) => (c :: v, r) := by
  unfold escapeChar
  split
  · rfl
  · rfl
  · rfl
  · next hslash hquote hline =>
    rw [List.singleton_append]
    exact readValue?.eq_4 c s hquote fun _ _ h _ => hslash h

/-- **A value is read as it was written**, up to its quote. -/
theorem readValue?_escape (v r : List Char) :
    readValue? (escape v ++ '"' :: r) = some (v, r) := by
  rw [escape_eq]
  induction v with
  | nil => rfl
  | cons c v ih =>
    rw [List.flatMap_cons, List.append_assoc, readValue?_escapeChar, ih]
    rfl

/-! ## Labels -/

/-- A key in which there is no equals sign. -/
def Label.IsPlain (l : Label) : Prop := '=' ∉ l.1.toList

instance : DecidablePred Label.IsPlain := fun l => inferInstanceAs (Decidable ('=' ∉ l.1.toList))

variable {l m : Label} {ls ms : List Label}

theorem toList_printLabel (l : Label) :
    (printLabel l).toList = l.1.toList ++ '=' :: '"' :: (escape l.2.toList ++ ['"']) := by
  simp [printLabel, String.toList_append]

/-- **A label ends where its text does.** -/
theorem printLabel_append_inj (hl : l.IsPlain) (hm : m.IsPlain) {r s : List Char}
    (h : (printLabel l).toList ++ r = (printLabel m).toList ++ s) : l = m ∧ r = s := by
  -- The text up to the first equals sign is the key.
  have hcut := congrArg (Text.cutFirst? '=') h
  simp only [toList_printLabel, List.append_assoc, List.cons_append, List.nil_append] at hcut
  rw [Text.cutFirst?_append_cons _ hl, Text.cutFirst?_append_cons _ hm, Option.some.injEq,
    Prod.mk.injEq] at hcut
  obtain ⟨hkey, hrest⟩ := hcut
  -- Behind it and the first quote a reader finds the value.
  have hvalue := congrArg readValue? (List.tail_eq_of_cons_eq hrest)
  rw [readValue?_escape, readValue?_escape, Option.some.injEq, Prod.mk.injEq] at hvalue
  exact ⟨Prod.ext (String.toList_inj.mp hkey) (String.toList_inj.mp hvalue.1), hvalue.2⟩

/-! ## Labels in succession -/

/-- Labels, each after a comma. -/
def following (ls : List Label) : List Char := ls.flatMap fun l => ',' :: (printLabel l).toList

theorem toList_intercalate_cons (l : Label) (ls : List Label) :
    (",".intercalate ((l :: ls).map printLabel)).toList =
      (printLabel l).toList ++ following ls := by
  induction ls generalizing l with
  | nil => simp [following]
  | cons m ls ih =>
    have hrest := ih m
    rw [String.toList_intercalate, List.map_cons, List.map_cons] at hrest
    rw [String.toList_intercalate, List.map_cons, List.map_cons, List.map_cons, List.map_cons,
      List.intercalate_cons_cons, hrest, List.append_assoc]
    rfl

theorem following_inj (hls : ∀ l ∈ ls, l.IsPlain) (hms : ∀ m ∈ ms, m.IsPlain)
    (h : following ls = following ms) : ls = ms := by
  induction ls generalizing ms with
  | nil =>
    cases ms with
    | nil => rfl
    | cons m ms => cases h
  | cons l ls ih =>
    cases ms with
    | nil => cases h
    | cons m ms =>
      rw [List.forall_mem_cons] at hls hms
      obtain ⟨rfl, hback⟩ := printLabel_append_inj hls.1 hms.1 (List.tail_eq_of_cons_eq h)
      rw [ih hls.2 hms.2 hback]

theorem intercalate_inj (hls : ∀ l ∈ ls, l.IsPlain) (hms : ∀ m ∈ ms, m.IsPlain)
    (h : ",".intercalate (ls.map printLabel) = ",".intercalate (ms.map printLabel)) : ls = ms := by
  have h := congrArg String.toList h
  -- The text of no labels is empty, and that of a label is not.
  cases ls with
  | nil =>
    cases ms with
    | nil => rfl
    | cons m ms =>
      rw [toList_intercalate_cons, toList_printLabel] at h
      simp at h
  | cons l ls =>
    cases ms with
    | nil =>
      rw [toList_intercalate_cons, toList_printLabel] at h
      simp at h
    | cons m ms =>
      rw [toList_intercalate_cons, toList_intercalate_cons] at h
      rw [List.forall_mem_cons] at hls hms
      obtain ⟨rfl, hback⟩ := printLabel_append_inj hls.1 hms.1 h
      rw [following_inj hls.2 hms.2 hback]

/-! ## The order of labels -/

theorem labelLe_iff : labelLe l m = true ↔ toLex l ≤ toLex m := by
  rw [Prod.Lex.toLex_le_toLex, labelLe]
  simp only [Bool.or_eq_true, Bool.and_eq_true, Bool.not_eq_true', decide_eq_true_eq,
    decide_eq_false_iff_not, not_lt]

theorem pairwise_mergeSort_labelLe (ls : List Label) :
    (ls.mergeSort labelLe).Pairwise fun l m => labelLe l m = true := by
  refine List.pairwise_mergeSort (fun a b c hab hbc => ?_) (fun a b => ?_) ls
  · exact labelLe_iff.mpr (le_trans (labelLe_iff.mp hab) (labelLe_iff.mp hbc))
  · rw [Bool.or_eq_true, labelLe_iff, labelLe_iff]
    exact le_total _ _

theorem mergeSort_labelLe_eq_iff :
    ls.mergeSort labelLe = ms.mergeSort labelLe ↔ ls.Perm ms := by
  constructor
  · intro h
    have hls := List.mergeSort_perm ls labelLe
    rw [h] at hls
    exact hls.symm.trans (List.mergeSort_perm ms labelLe)
  · intro h
    refine List.Perm.eq_of_pairwise (fun a b _ _ hab hba => ?_) (pairwise_mergeSort_labelLe ls)
      (pairwise_mergeSort_labelLe ms) ?_
    · exact toLex_inj.mp (le_antisymm (labelLe_iff.mp hab) (labelLe_iff.mp hba))
    · exact ((List.mergeSort_perm ls labelLe).trans h).trans (List.mergeSort_perm ms labelLe).symm

/-- **The text of labels tells them apart**, but for their order. -/
theorem printLabels_eq_iff (hls : ∀ l ∈ ls, l.IsPlain) (hms : ∀ m ∈ ms, m.IsPlain) :
    printLabels ls = printLabels ms ↔ ls.Perm ms := by
  rw [← mergeSort_labelLe_eq_iff]
  constructor
  · exact intercalate_inj (fun l hl => hls l (List.mem_mergeSort.mp hl))
      fun m hm => hms m (List.mem_mergeSort.mp hm)
  · intro h
    rw [printLabels, printLabels, h]

/-- A key with an equals sign may look like two labels. -/
example : printLabels [("a=\"1\",b", "2")] = printLabels [("a", "1"), ("b", "2")] := by
  cbv

/-! ## The text of labels -/

/-- Labels in a text: the key of each, an equals sign, and its value between quotes, with commas
between them, in the order of the octets of the keys and then of the values. -/
def IsText (ls : List Label) (text : String) : Prop :=
  ∃ sorted : List Label, sorted.Perm ls ∧
    sorted.Pairwise (fun l m => utf8 l.1.toList < utf8 m.1.toList ∨
      l.1 = m.1 ∧ (utf8 l.2.toList < utf8 m.2.toList ∨ l.2 = m.2)) ∧
    text = ",".intercalate (sorted.map fun l =>
      l.1 ++ "=\"" ++ String.ofList (l.2.toList.flatMap escapeChar) ++ "\"")

theorem isText_printLabels (ls : List Label) : IsText ls (printLabels ls) := by
  refine ⟨ls.mergeSort labelLe, List.mergeSort_perm ls labelLe, ?_, ?_⟩
  · refine (pairwise_mergeSort_labelLe ls).imp fun {l m} h => ?_
    rcases Prod.Lex.toLex_le_toLex.mp (labelLe_iff.mp h) with hkey | ⟨hkey, hvalue⟩
    · exact .inl (Utf8.utf8_lt_utf8 hkey)
    · exact .inr ⟨hkey, hvalue.lt_or_eq.imp_left Utf8.utf8_lt_utf8⟩
  · rw [printLabels]
    congr 2
    funext l
    rw [printLabel, escape_eq]

/-- Only the text of no labels is empty. -/
theorem printLabels_isEmpty_iff (ls : List Label) : (printLabels ls).isEmpty = true ↔ ls = [] := by
  have hlength := (List.mergeSort_perm ls labelLe).length_eq
  rw [String.isEmpty_iff, ← String.toList_eq_nil_iff, printLabels]
  cases hsorted : ls.mergeSort labelLe with
  | nil =>
    rw [hsorted] at hlength
    exact iff_of_true rfl (List.length_eq_zero_iff.mp hlength.symm)
  | cons l ms =>
    rw [toList_intercalate_cons, toList_printLabel]
    refine iff_of_false (by simp) ?_
    rintro rfl
    rw [hsorted] at hlength
    cases hlength

end LogEgress.Metrics
