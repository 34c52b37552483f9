import LogEgress.Json.Value
import LogEgress.Proofs.Text.Utf8

set_option autoImplicit false

/-! # The tokens of a text

Every token takes at least one character, so the bound on the steps is never met: the tokens of a
text are its first token and the tokens of what follows it (`ofText_of_lexToken`). A text that is
written as a string is one token, whatever characters it has (`ofText_printString`).
-/

namespace LogEgress.Json

/-! ## Each token takes a character -/

/-- What is left after a string does not depend on the pieces before it. -/
theorem exists_of_addPiece_eq_some {o : Option (List Piece × List Char)} {p : Piece}
    {ps : List Piece} {r : List Char}
    (h : (do let (qs, q) ← o; return (p :: qs, q)) = some (ps, r)) : ∃ qs, o = some (qs, r) := by
  cases o with
  | none => cases h
  | some x =>
    cases h
    exact ⟨x.1, rfl⟩

theorem length_lt_of_lexString {s r : List Char} {ps : List Piece}
    (h : lexString s = some (ps, r)) : r.length < s.length := by
  induction s using lexString.induct generalizing ps with
  | case1 => cases h
  | case2 s =>
    cases h
    exact Nat.lt_succ_self _
  | case3 a b c d s ih =>
    rw [lexString] at h
    obtain ⟨n, -, h⟩ := Option.bind_eq_some_iff.1 h
    obtain ⟨qs, hrest⟩ := exists_of_addPiece_eq_some h
    have := ih hrest
    simp only [List.length_cons]
    omega
  | case4 e s hu ih =>
    rw [lexString.eq_4 e s hu] at h
    obtain ⟨c, -, h⟩ := Option.bind_eq_some_iff.1 h
    obtain ⟨qs, hrest⟩ := exists_of_addPiece_eq_some h
    have := ih hrest
    simp only [List.length_cons]
    omega
  | case5 c s hquote hu he hbad =>
    rw [lexString.eq_5 c s hquote hu he, if_pos hbad] at h
    cases h
  | case6 c s hquote hu he hbad ih =>
    rw [lexString.eq_5 c s hquote hu he, if_neg hbad] at h
    obtain ⟨qs, hrest⟩ := exists_of_addPiece_eq_some h
    have := ih hrest
    simp only [List.length_cons]
    omega

theorem length_lt_of_lexDigits? {s ds r : List Char} (h : lexDigits? s = some (ds, r)) :
    r.length < s.length := by
  have hcut := congrArg List.length (List.takeWhile_append_dropWhile (p := Char.isDigit) (l := s))
  rw [List.length_append] at hcut
  unfold lexDigits? at h
  split at h
  · cases h
  · rename_i hne
    cases h
    have hpos : 0 < (s.takeWhile Char.isDigit).length := List.length_pos_iff.2 hne
    omega

theorem length_lt_of_lexWhole? {s ds r : List Char} (h : lexWhole? s = some (ds, r)) :
    r.length < s.length := by
  unfold lexWhole? at h
  split at h
  · split at h
    · cases h
    · cases h
      exact Nat.lt_succ_self _
  · exact length_lt_of_lexDigits? h

theorem length_le_of_lexFraction? {s ds r : List Char} (h : lexFraction? s = some (ds, r)) :
    r.length ≤ s.length := by
  unfold lexFraction? at h
  split at h
  · obtain ⟨⟨ds', r'⟩, hdigits, h⟩ := Option.map_eq_some_iff.1 h
    cases h
    have := length_lt_of_lexDigits? hdigits
    simp only [List.length_cons]
    omega
  · cases h
    exact Nat.le_refl _

theorem length_le_of_lexExponent? {s ds r : List Char} (h : lexExponent? s = some (ds, r)) :
    r.length ≤ s.length := by
  unfold lexExponent? at h
  split at h
  · split at h
    · split at h
      · split at h
        all_goals
          obtain ⟨⟨ds', r'⟩, hdigits, h⟩ := Option.map_eq_some_iff.1 h
          cases h
          have := length_lt_of_lexDigits? hdigits
          simp only [List.length_cons] at this ⊢
          omega
      · cases h
    · cases h
      exact Nat.le_refl _
  · cases h
    exact Nat.le_refl _

theorem length_lt_of_lexUnsigned? {s ds r : List Char} (h : lexUnsigned? s = some (ds, r)) :
    r.length < s.length := by
  obtain ⟨⟨ds₁, r₁⟩, hwhole, h⟩ := Option.bind_eq_some_iff.1 h
  obtain ⟨⟨ds₂, r₂⟩, hfraction, h⟩ := Option.bind_eq_some_iff.1 h
  obtain ⟨⟨ds₃, r₃⟩, hexponent, h⟩ := Option.bind_eq_some_iff.1 h
  cases h
  have h₁ := length_lt_of_lexWhole? hwhole
  have h₂ := length_le_of_lexFraction? hfraction
  have h₃ := length_le_of_lexExponent? hexponent
  omega

theorem length_lt_of_lexNumber? {s ds r : List Char} (h : lexNumber? s = some (ds, r)) :
    r.length < s.length := by
  unfold lexNumber? at h
  split at h
  · obtain ⟨⟨ds', r'⟩, hunsigned, h⟩ := Option.map_eq_some_iff.1 h
    cases h
    exact Nat.lt_succ_of_lt (length_lt_of_lexUnsigned? hunsigned)
  · exact length_lt_of_lexUnsigned? h

theorem length_le_of_lexToken {c : Char} {s r : List Char} {t : Token}
    (h : lexToken c s = some (t, r)) : r.length ≤ s.length := by
  unfold lexToken at h
  split at h
  case h_7 =>
    obtain ⟨⟨ps, r'⟩, hstring, h⟩ := Option.map_eq_some_iff.1 h
    cases h
    exact Nat.le_of_lt (length_lt_of_lexString hstring)
  case h_11 =>
    obtain ⟨⟨ds, r'⟩, hnumber, h⟩ := Option.map_eq_some_iff.1 h
    cases h
    exact Nat.le_of_lt_succ (length_lt_of_lexNumber? hnumber)
  case h_8 | h_9 | h_10 =>
    split at h
    · cases h
      simp only [List.length_cons]
      omega
    · cases h
  all_goals
    cases h
    exact Nat.le_refl _

/-! ## The bound on the steps -/

/-- Any two bounds that are not less than the length of the text do the same. -/
theorem lex_eq_of_le {n m : Nat} {s : List Char} (hn : s.length ≤ n) (hm : s.length ≤ m) :
    lex n s = lex m s := by
  induction n generalizing m s with
  | zero =>
    obtain rfl : s = [] := List.length_eq_zero_iff.1 (Nat.le_zero.1 hn)
    cases m <;> rfl
  | succ n ih =>
    cases s with
    | nil => cases m <;> rfl
    | cons c s =>
      rw [List.length_cons] at hn hm
      obtain ⟨m, rfl⟩ : ∃ k, m = k + 1 := ⟨m - 1, by omega⟩
      rw [lex, lex]
      split
      · exact ih (by omega) (by omega)
      · split
        · rename_i t r htoken
          -- What a token leaves is short enough for both bounds.
          have hr := length_le_of_lexToken htoken
          rw [ih (m := m) (by omega) (by omega)]
        · rfl

theorem ofText_of_lexToken {c : Char} {s r : List Char} {t : Token} (hc : isSpace c = false)
    (h : lexToken c s = some (t, r)) : Token.ofText (c :: s) = t :: Token.ofText r := by
  have hr := length_le_of_lexToken h
  rw [Token.ofText, List.length_cons, lex, hc, h, Token.ofText]
  show t :: lex s.length r = _
  rw [lex_eq_of_le (m := r.length) hr (Nat.le_refl _)]

/-! ## Strings -/

theorem hexUnit?_hexLower {n : Nat} (h : n < 0x20) :
    hexUnit? '0' '0' (Text.hexLower (n / 16)) (Text.hexLower (n % 16)) = some n := by
  revert n
  decide

theorem joinPieces_unit {n : Nat} (h : n < 0xd800) (ps : List Piece) :
    joinPieces (.unit n :: ps) = (joinPieces ps).map (Char.ofNat n :: ·) := by
  have hlow : ¬ (0xd800 ≤ n ∧ n < 0xdc00) := by omega
  have hhigh : ¬ (0xdc00 ≤ n ∧ n < 0xe000) := by omega
  have hboth : ¬ (0xd800 ≤ n ∧ n < 0xe000) := by omega
  rcases ps with _ | ⟨c | l, ps⟩
  · exact if_neg hboth
  · exact if_neg hboth
  · rw [joinPieces, if_neg hlow, if_neg hhigh]

/-- A character that stands by itself in a string. -/
theorem lexString_char {c : Char} (hquote : c ≠ '"') (hslash : c ≠ '\\') (hlow : ¬ c.toNat < 0x20)
    (s : List Char) :
    lexString (c :: s) = (lexString s).map fun x => (.char c :: x.1, x.2) := by
  have hbad : ¬ (c.toNat < 0x20 ∨ c = '\\') := not_or.2 ⟨hlow, hslash⟩
  rw [lexString.eq_5 c s hquote (fun _ _ _ _ _ h => absurd h hslash)
    (fun _ _ h => absurd h hslash), if_neg hbad]
  cases lexString s <;> rfl

/-- A character that is written as an escape of two characters. -/
theorem lexString_simpleEscape {c e : Char} (he : e ≠ 'u') (h : simpleEscape? e = some c)
    (s : List Char) :
    lexString ('\\' :: e :: s) = (lexString s).map fun x => (.char c :: x.1, x.2) := by
  rw [lexString.eq_4 e s (fun _ _ _ _ _ h => absurd h he), h]
  cases lexString s <;> rfl

/-- A character in print is one piece of a string, and the piece is the character. -/
theorem lexString_printChar (c : Char) (s : List Char) :
    ∃ p, lexString (Value.printChar c ++ s) = (lexString s).map (fun x => (p :: x.1, x.2)) ∧
      ∀ ps, joinPieces (p :: ps) = (joinPieces ps).map (c :: ·) := by
  unfold Value.printChar
  split
  iterate 7 exact ⟨_, lexString_simpleEscape (by decide) rfl s, fun ps => rfl⟩
  · rename_i hquote hslash _ _ _ _ _
    split
    · rename_i hlow
      refine ⟨.unit c.toNat, ?_, fun ps => ?_⟩
      · rw [List.cons_append, List.cons_append, List.cons_append, List.cons_append,
          List.cons_append, List.cons_append, List.nil_append, lexString, hexUnit?_hexLower hlow]
        cases lexString s <;> rfl
      · rw [joinPieces_unit (by omega), Char.ofNat_toNat]
    · rename_i hlow
      exact ⟨.char c, lexString_char hquote hslash hlow s, fun ps => rfl⟩

/-- The characters of a string in print are read again, up to the closing quote. -/
theorem lexString_printed (s r : List Char) :
    ∃ ps, lexString (s.flatMap Value.printChar ++ '"' :: r) = some (ps, r) ∧
      joinPieces ps = some s := by
  induction s with
  | nil => exact ⟨[], rfl, rfl⟩
  | cons c s ih =>
    obtain ⟨ps, hlex, hjoin⟩ := ih
    obtain ⟨p, hchar, hpiece⟩ :=
      lexString_printChar c (s.flatMap Value.printChar ++ '"' :: r)
    refine ⟨p :: ps, ?_, ?_⟩
    · rw [List.flatMap_cons, List.append_assoc, hchar, hlex, Option.map_some]
    · rw [hpiece, hjoin, Option.map_some]

/-- **A text in print is one token.** -/
theorem ofText_printString (s r : List Char) :
    Token.ofText (Value.printString s ++ r) = .string (some s) :: Token.ofText r := by
  obtain ⟨ps, hlex, hjoin⟩ := lexString_printed s r
  have htoken : lexToken '"' (s.flatMap Value.printChar ++ '"' :: r) =
      some (.string (some s), r) := by
    show (lexString _).map _ = _
    rw [hlex, ← hjoin]
    rfl
  have hprint : Value.printString s ++ r = '"' :: (s.flatMap Value.printChar ++ '"' :: r) := by
    simp [Value.printString]
  rw [hprint]
  exact ofText_of_lexToken rfl htoken

theorem le_of_mem_of_all {s : List Char} (h : (s.all fun c => 0x20 ≤ c.toNat) = true) :
    ∀ c ∈ s, 0x20 ≤ c.toNat :=
  fun c hc => of_decide_eq_true (List.all_eq_true.mp h c hc)

/-- **A text in print has no control characters**: they are written as escapes. -/
theorem le_of_mem_printString {s : List Char} {c : Char} (h : c ∈ Value.printString s) :
    0x20 ≤ c.toNat := by
  have hchar : ∀ d, ∀ c ∈ Value.printChar d, 0x20 ≤ c.toNat := by
    intro d
    unfold Value.printChar
    split
    iterate 7 exact le_of_mem_of_all (by decide)
    split
    · rename_i hlow
      have hhex : ∀ n < 0x20, (['\\', 'u', '0', '0', Text.hexLower (n / 16),
        Text.hexLower (n % 16)].all fun c => 0x20 ≤ c.toNat) = true := by decide
      exact le_of_mem_of_all (hhex _ hlow)
    · rename_i hlow
      intro c hc
      rw [List.mem_singleton.mp hc]
      exact Nat.le_of_not_lt hlow
  rw [Value.printString] at h
  rcases List.mem_append.mp h with h | h
  · rcases List.mem_cons.mp h with rfl | h
    · decide
    · obtain ⟨d, -, hc⟩ := List.mem_flatMap.mp h
      exact hchar d c hc
  · rw [List.mem_singleton.mp h]
    decide

/-! ## Octets -/

theorem zipWith_agree_self (ts : List Token) : List.zipWith Token.agree ts ts = ts := by
  induction ts with
  | nil => rfl
  | cons t ts ih =>
    rw [List.zipWith_cons_cons, ih]
    exact congrArg (· :: ts) (if_pos rfl)

theorem ofOctets_utf8 (s : List Char) : Token.ofOctets (utf8 s) = Token.ofText s := by
  rw [Token.ofOctets, Utf8.decodeWith_utf8, Utf8.decodeWith_utf8, zipWith_agree_self]

end LogEgress.Json
