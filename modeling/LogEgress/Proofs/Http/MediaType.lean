import LogEgress.Http.MediaType

set_option autoImplicit false

/-! # A media type is read as it is written

The value of a parameter ends where its quotes or the characters of a name do, so parameters with
semicolons between them are read as what they were written for (`Writes.readParameters?_eq`), and
with them a media type (`Writes.parse?_eq`).
-/

namespace LogEgress.Http.MediaType

variable {s r : List Char}

/-! ## Names -/

/-- A name: some characters, each of which may stand in one. -/
def IsToken (s : List Char) : Prop := s ≠ [] ∧ s.all isTokenChar = true

instance : DecidablePred IsToken := fun _ => inferInstanceAs (Decidable (_ ∧ _))

/-- Characters of a kind are taken up to the first one that is not of the kind. -/
theorem takeWhile_append_eq {p : Char → Bool} (hs : s.all p = true)
    (hr : ∀ c ∈ r.head?, p c = false) : (s ++ r).takeWhile p = s := by
  rw [List.takeWhile_append_of_pos (List.all_eq_true.1 hs)]
  cases r with
  | nil => exact List.append_nil s
  | cons c r => rw [List.takeWhile_cons, hr c rfl, if_neg Bool.false_ne_true, List.append_nil]

theorem IsToken.takeWhile_append (h : IsToken s) {c : Char} (hc : isTokenChar c = false) :
    (s ++ c :: r).takeWhile isTokenChar = s :=
  takeWhile_append_eq h.2 fun _ hd => Option.some.inj hd ▸ hc

theorem IsToken.dropWhile_append (h : IsToken s) {c : Char} (hc : isTokenChar c = false) :
    (s ++ c :: r).dropWhile isTokenChar = c :: r := by
  rw [List.dropWhile_append_of_pos (List.all_eq_true.1 h.2), List.dropWhile_cons, hc, if_neg Bool.false_ne_true]

/-- A name does not begin with a character that may not stand in it. -/
theorem IsToken.exists_cons (h : IsToken s) {c : Char} (hc : isTokenChar c = false) :
    ∃ d t, s = d :: t ∧ d ≠ c := by
  obtain ⟨d, t, rfl⟩ := List.exists_cons_of_ne_nil h.1
  refine ⟨d, t, rfl, ?_⟩
  rintro rfl
  cases (List.all_eq_true.1 h.2 d List.mem_cons_self).symm.trans hc

theorem isTokenChar_slash : isTokenChar '/' = false := by decide

theorem isTokenChar_semicolon : isTokenChar ';' = false := by decide

theorem isTokenChar_equals : isTokenChar '=' = false := by decide

/-! ## Parameters -/

/-- The value of a parameter in its written form, as it is or between quotes. -/
inductive WritesValue : List Char → List Char → Prop where
  | token {value : List Char} (h : IsToken value) : WritesValue value value
  | quoted {c : Char} {value : List Char} (hc : isQuotedChar c = true)
    (h : value.all (fun d => isQuotedChar d && d ≠ '"') = true) :
    WritesValue (c :: value) ('"' :: c :: (value ++ ['"']))

/-- Parameters in their written form: the name of each behind blanks, an equals sign, and the value,
with semicolons between them. -/
inductive Writes : List (List Char × List Char) → List Char → Prop where
  | one {name value form : List Char} (blanks : Nat) (hname : IsToken name)
    (hvalue : WritesValue value form) :
    Writes [(name, value)] (List.replicate blanks ' ' ++ (name ++ '=' :: form))
  | cons {name value form s : List Char} {parameters : List (List Char × List Char)} (blanks : Nat)
    (hname : IsToken name) (hvalue : WritesValue value form) (h : Writes parameters s) :
    Writes ((name, value) :: parameters)
      (List.replicate blanks ' ' ++ (name ++ '=' :: (form ++ ';' :: s)))

/-- What may follow a value, and what there is behind the semicolon. -/
inductive Ends : List Char → List Char → Prop where
  | nil : Ends [] []
  | semicolon (r : List Char) : Ends (';' :: r) r

/-- **A value is read as it was written**, up to the semicolon behind it. -/
theorem WritesValue.readValue?_eq {value form : List Char} (h : WritesValue value form)
    (hends : Ends s r) : readValue? (form ++ s) = some (value, r) := by
  cases h with
  | token h =>
    have hcut : (value ++ s).takeWhile isTokenChar = value := by
      refine takeWhile_append_eq h.2 fun c hc => ?_
      cases hends with
      | nil => cases hc
      | semicolon r => exact Option.some.inj hc ▸ isTokenChar_semicolon
    obtain ⟨c, t, rfl, hquote⟩ := h.exists_cons (c := '"') (by decide)
    rw [List.cons_append] at hcut ⊢
    rw [readValue?.eq_2 _ fun d s' heq => hquote (List.cons.inj heq).1, hcut, ← List.cons_append,
      List.drop_left]
    cases hends <;> rfl
  | @quoted c value hc h =>
    have hcut : (value ++ '"' :: s).takeWhile (fun d => isQuotedChar d && d ≠ '"') = value :=
      takeWhile_append_eq h fun d hd => by
        obtain rfl := Option.some.inj hd
        rfl
    have hafter : afterQuoted? s = some r := by cases hends <;> rfl
    simp only [List.cons_append, List.append_assoc, List.nil_append, readValue?.eq_1, hcut,
      List.drop_left, if_pos hc, hafter, Option.map_some]

/-- The first parameter is read, and then what follows it. -/
theorem readParameters?_append {name value form : List Char} (hname : IsToken name)
    (hvalue : WritesValue value form) (hends : Ends s r) (blanks n : Nat) :
    readParameters? (n + 1) (List.replicate blanks ' ' ++ (name ++ '=' :: (form ++ s))) =
      (readParameters? n r).map ((name.map Char.toLower, value) :: ·) := by
  have hblanks : (List.replicate blanks ' ' ++ (name ++ '=' :: (form ++ s))).dropWhile (· = ' ') =
      name ++ '=' :: (form ++ s) := by
    obtain ⟨c, t, rfl, hc⟩ := hname.exists_cons (c := ' ') (by decide)
    rw [List.dropWhile_append_of_pos fun d hd => decide_eq_true (List.eq_of_mem_replicate hd),
      List.cons_append, List.dropWhile_cons_of_neg (by simpa using hc)]
  have hsome : ¬ (name ++ '=' :: (form ++ s)).isEmpty = true := by simp
  have hnamed : ¬ name.isEmpty = true := fun h => hname.1 (List.isEmpty_iff.1 h)
  rw [readParameters?, hblanks]
  simp only [if_neg hsome, hname.takeWhile_append isTokenChar_equals, List.drop_left,
    if_neg hnamed, hvalue.readValue?_eq hends, Option.bind_some]

/-- **Parameters are read as they were written.** The induction is on their form. -/
theorem Writes.readParameters?_eq {parameters : List (List Char × List Char)}
    (h : Writes parameters s) {n : Nat} (hn : s.length ≤ n) :
    readParameters? n s = some (parameters.map fun p => (p.1.map Char.toLower, p.2)) := by
  induction h generalizing n with
  | @one name value form blanks hname hvalue =>
    simp only [List.length_append, List.length_cons] at hn
    obtain ⟨n, rfl⟩ := Nat.exists_eq_add_one_of_ne_zero (show n ≠ 0 by omega)
    have hfirst := readParameters?_append hname hvalue .nil blanks n
    rw [List.append_nil] at hfirst
    rw [hfirst]
    cases n <;> rfl
  | @cons name value form s parameters blanks hname hvalue _ ih =>
    simp only [List.length_append, List.length_cons] at hn
    obtain ⟨n, rfl⟩ := Nat.exists_eq_add_one_of_ne_zero (show n ≠ 0 by omega)
    rw [readParameters?_append hname hvalue (.semicolon s), ih (by omega)]
    rfl

/-- A media type that ends with its subtype has no parameters. -/
theorem parse?_of_isToken {type subtype : List Char} (htype : IsToken type)
    (hsubtype : IsToken subtype) :
    ∃ m, parse? (String.ofList (type ++ '/' :: subtype)) = some m ∧ m.parameters = [] := by
  have hnamed : ¬ type.isEmpty = true := fun h => htype.1 (List.isEmpty_iff.1 h)
  have htake : subtype.takeWhile isTokenChar = subtype := by
    have htake := takeWhile_append_eq hsubtype.2 (r := []) nofun
    rwa [List.append_nil] at htake
  have hdrop : subtype.dropWhile isTokenChar = [] := by
    rw [← List.append_nil subtype, List.dropWhile_append_of_pos (List.all_eq_true.1 hsubtype.2),
      List.dropWhile_nil]
  rcases hcut : cutSuffix (subtype.map Char.toLower) with ⟨name, suffix⟩
  refine ⟨⟨type.map Char.toLower, name, suffix, _⟩, ?_, rfl⟩
  unfold parse?
  simp only [String.toList_ofList, htype.takeWhile_append isTokenChar_slash,
    htype.dropWhile_append isTokenChar_slash, htake, hdrop, if_neg hnamed, Option.map_some, hcut]

/-- **A media type has the parameters that were written.** -/
theorem Writes.parse?_eq {type subtype : List Char} {parameters : List (List Char × List Char)}
    (h : Writes parameters s) (htype : IsToken type) (hsubtype : IsToken subtype) :
    ∃ m, parse? (String.ofList (type ++ '/' :: (subtype ++ ';' :: s))) = some m ∧
      m.parameters = parameters.map fun p => (p.1.map Char.toLower, p.2) := by
  have hnamed : ¬ type.isEmpty = true := fun h => htype.1 (List.isEmpty_iff.1 h)
  have hnamed' : ¬ subtype.isEmpty = true := fun h => hsubtype.1 (List.isEmpty_iff.1 h)
  rcases hcut : cutSuffix (subtype.map Char.toLower) with ⟨name, suffix⟩
  refine ⟨⟨type.map Char.toLower, name, suffix, _⟩, ?_, rfl⟩
  unfold parse?
  simp only [String.toList_ofList, htype.takeWhile_append isTokenChar_slash,
    htype.dropWhile_append isTokenChar_slash, hsubtype.takeWhile_append isTokenChar_semicolon,
    hsubtype.dropWhile_append isTokenChar_semicolon, if_neg hnamed, if_neg hnamed',
    h.readParameters?_eq (Nat.le_refl _), Option.map_some, hcut]

end LogEgress.Http.MediaType
