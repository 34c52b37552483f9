import LogEgress.Text.Split

set_option autoImplicit false

/-! # Joining and splitting

Pieces that do not contain the separator are found again when their join is split
(`splitOn_join`), and so are the two parts of a text around its first separator
(`cutFirst?_eq_some_iff`).
-/

namespace LogEgress.Text

theorem splitOn_of_notMem {sep : Char} {s : List Char} (h : sep ∉ s) : splitOn sep s = [s] := by
  induction s with
  | nil => rfl
  | cons c s ih =>
    rw [List.mem_cons, not_or] at h
    rw [splitOn, if_neg (Ne.symm h.1), ih h.2]

/-- The first separator ends the first piece. -/
theorem splitOn_append_cons {sep : Char} {p : List Char} (s : List Char) (h : sep ∉ p) :
    splitOn sep (p ++ sep :: s) = p :: splitOn sep s := by
  induction p with
  | nil => rw [List.nil_append, splitOn, if_pos rfl]
  | cons c p ih =>
    rw [List.mem_cons, not_or] at h
    rw [List.cons_append, splitOn, if_neg (Ne.symm h.1), ih h.2]

theorem splitOn_join {sep : Char} {ps : List (List Char)} (hne : ps ≠ []) (h : ∀ p ∈ ps, sep ∉ p) :
    splitOn sep (join [sep] ps) = ps := by
  induction ps with
  | nil => exact absurd rfl hne
  | cons p ps ih =>
    have hp : sep ∉ p := h p List.mem_cons_self
    cases ps with
    | nil => exact splitOn_of_notMem hp
    | cons q ps =>
      rw [join, List.append_assoc, List.singleton_append, splitOn_append_cons _ hp,
        ih (List.cons_ne_nil q ps) fun x hx => h x (List.mem_cons_of_mem p hx)]

/-- A character of a join stands in a piece or in the separator. -/
theorem mem_join {sep : List Char} {ps : List (List Char)} {c : Char} (h : c ∈ join sep ps) :
    c ∈ sep ∨ ∃ p ∈ ps, c ∈ p := by
  induction ps with
  | nil => exact absurd h List.not_mem_nil
  | cons p ps ih =>
    cases ps with
    | nil => exact .inr ⟨p, List.mem_cons_self, h⟩
    | cons q ps =>
      rw [join, List.mem_append, List.mem_append] at h
      rcases h with (h | h) | h
      · exact .inr ⟨p, List.mem_cons_self, h⟩
      · exact .inl h
      · rcases ih h with h | ⟨x, hx, hc⟩
        · exact .inl h
        · exact .inr ⟨x, List.mem_cons_of_mem p hx, hc⟩

/-! ## The first separator -/

theorem cutFirst?_eq_none_iff {sep : Char} {s : List Char} : cutFirst? sep s = none ↔ sep ∉ s := by
  induction s with
  | nil => exact iff_of_true rfl List.not_mem_nil
  | cons c s ih =>
    rw [cutFirst?, List.mem_cons, not_or, ← ih]
    by_cases h : c = sep
    · rw [if_pos h]
      exact iff_of_false (Option.some_ne_none _) fun hn => hn.1 h.symm
    · rw [if_neg h, Option.map_eq_none_iff]
      exact (and_iff_right (Ne.symm h)).symm

/-- The text before the first separator is found again. -/
theorem cutFirst?_append_cons {sep : Char} {a : List Char} (b : List Char) (h : sep ∉ a) :
    cutFirst? sep (a ++ sep :: b) = some (a, b) := by
  induction a with
  | nil => rw [List.nil_append, cutFirst?, if_pos rfl]
  | cons c a ih =>
    rw [List.mem_cons, not_or] at h
    rw [List.cons_append, cutFirst?, if_neg (Ne.symm h.1), ih h.2]
    rfl

theorem cutFirst?_eq_some_iff {sep : Char} {s a b : List Char} :
    cutFirst? sep s = some (a, b) ↔ s = a ++ sep :: b ∧ sep ∉ a := by
  constructor
  · exact cutFirst?_eq_some
  · rintro ⟨rfl, h⟩
    exact cutFirst?_append_cons b h

end LogEgress.Text
