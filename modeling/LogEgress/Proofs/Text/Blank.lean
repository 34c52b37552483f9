import LogEgress.Text.Blank
import Mathlib.Data.List.DropRight

set_option autoImplicit false

/-! # Trimming

What trimming takes away are blanks, and a text that begins and ends with other characters is found
again among blanks (`trim_blanks_append`, `trim_surrounded`).
-/

namespace LogEgress.Text

variable {p : Char → Bool} {s e blanks : List Char}

theorem dropEndWhile_append_of_all (h : ∀ c ∈ e, p c = true) :
    dropEndWhile p (s ++ e) = dropEndWhile p s := by
  rw [dropEndWhile, List.reverse_append,
    List.dropWhile_append_of_pos fun c hc => h c (List.mem_reverse.mp hc), dropEndWhile]

theorem dropEndWhile_concat_of_neg {c : Char} (h : p c = false) :
    dropEndWhile p (s ++ [c]) = s ++ [c] :=
  List.rdropWhile_concat_neg p s c (Bool.eq_false_iff.mp h)

/-- What is taken off the end of a text is of the class. -/
theorem exists_eq_dropEndWhile_append (p : Char → Bool) (s : List Char) :
    ∃ e, s = dropEndWhile p s ++ e ∧ ∀ c ∈ e, p c = true :=
  ⟨s.rtakeWhile p, List.rdropWhile_append_rtakeWhile.symm,
    fun _ hc => List.mem_rtakeWhile_imp hc⟩

/-- A text is left as it is if neither of its ends is of the class. -/
theorem trimWhile_eq_self (hfirst : ∀ c ∈ s.head?, p c = false)
    (hlast : ∀ c ∈ s.getLast?, p c = false) : trimWhile p s = s := by
  have hfront : s.dropWhile p = s := by
    cases s with
    | nil => rfl
    | cons c s => exact List.dropWhile_cons_of_neg (Bool.eq_false_iff.mp (hfirst c rfl))
  have hback : dropEndWhile p s = s :=
    List.rdropWhile_eq_self_iff.mpr fun hne =>
      Bool.eq_false_iff.mp (hlast _ (List.getLast?_eq_some_getLast hne))
  rw [trimWhile, hfront, hback]

theorem trim_eq_nil (h : ∀ c ∈ s, isBlank c = true) : trim s = [] := by
  rw [trim, trimWhile, List.dropWhile_eq_nil_iff.mpr h]
  rfl

/-- **Blanks before a text are taken away**, and the text is left as it is. -/
theorem trim_blanks_append {first last : Char} (h : ∀ c ∈ blanks, isBlank c = true)
    (hfirst : isBlank first = false) (hlast : isBlank last = false) :
    trim (blanks ++ (first :: s ++ [last])) = first :: s ++ [last] := by
  rw [trim, trimWhile, List.dropWhile_append_of_pos h, List.cons_append,
    List.dropWhile_cons_of_neg (Bool.eq_false_iff.mp hfirst), ← List.cons_append,
    dropEndWhile_concat_of_neg hlast]

/-- **Blanks around a text are taken away**, if it begins and ends with other characters. -/
theorem trim_surrounded {before after : List Char} (hbefore : ∀ c ∈ before, isBlank c = true)
    (hafter : ∀ c ∈ after, isBlank c = true) (hne : s ≠ [])
    (hfirst : isBlank (s.head hne) = false) (hlast : isBlank (s.getLast hne) = false) :
    trim (before ++ s ++ after) = s := by
  have hfront : (before ++ s ++ after).dropWhile isBlank = s ++ after := by
    obtain ⟨c, t, rfl⟩ := List.exists_cons_of_ne_nil hne
    rw [List.head_cons] at hfirst
    rw [List.append_assoc, List.dropWhile_append_of_pos hbefore, List.cons_append,
      List.dropWhile_cons_of_neg (Bool.eq_false_iff.mp hfirst)]
  have hback : dropEndWhile isBlank s = s := by
    have hconcat := dropEndWhile_concat_of_neg (s := s.dropLast) hlast
    rwa [List.dropLast_concat_getLast hne] at hconcat
  rw [trim, trimWhile, hfront, dropEndWhile_append_of_all hafter, hback]

end LogEgress.Text
