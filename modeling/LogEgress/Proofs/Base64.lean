import LogEgress.Base64
import LogEgress.Proofs.Except
import LogEgress.Proofs.Text.Utf8

set_option autoImplicit false

/-! # Base64 is read strictly

A text is read as some octets exactly if it is the written form of those octets
(`decode_eq_ok_iff`). So each sequence of octets has one written form, and no other text with the
same symbols, other filling or other unused bits is read as those octets.
-/

namespace LogEgress.Base64

/-! ## Symbols -/

/-- The octet of the symbol for a number below 64. -/
def octet (n : Nat) : UInt8 := UInt8.ofNat (symbol n).toNat

theorem utf8EncodeChar_symbol {n : Nat} (h : n < 64) :
    String.utf8EncodeChar (symbol n) = [octet n] := by
  revert n
  decide

theorem value?_octet {n : Nat} (h : n < 64) : value? (octet n) = some n := by
  revert n
  decide

theorem value?_fill : value? fill = none := by decide

theorem octet_ne_fill {n : Nat} (h : n < 64) : octet n ≠ fill := by
  intro he
  have := value?_octet h
  rw [he, value?_fill] at this
  cases this

/-- Only the symbol for a number is read as the number. -/
theorem eq_octet_of_value? {b : UInt8} {n : Nat} (h : value? b = some n) :
    b = octet n ∧ n < 64 := by
  have key : ∀ k < 256, ∀ m ∈ value? (UInt8.ofNat k), UInt8.ofNat k = octet m ∧ m < 64 := by
    decide +kernel
  have := key b.toNat b.toNat_lt n
  rw [UInt8.ofNat_toNat] at this
  exact this h

theorem readSymbol_octet (offset : Nat) {n : Nat} (h : n < 64) :
    readSymbol offset (octet n) = .ok n := by
  rw [readSymbol, value?_octet h]

theorem eq_octet_of_readSymbol {offset : Nat} {b : UInt8} {n : Nat}
    (h : readSymbol offset b = .ok n) : b = octet n ∧ n < 64 := by
  rw [readSymbol] at h
  split at h
  · next m hm =>
    cases h
    exact eq_octet_of_value? hm
  · cases h

/-! ## Written forms -/

/-- The octets of the written form of octets. -/
def written (o : Octets) : Octets := utf8 (encode o)

theorem utf8EncodeChar_fill : String.utf8EncodeChar '=' = [fill] := by decide

theorem written_one (a : UInt8) :
    written [a] = [octet (a.toNat / 4), octet (a.toNat % 4 * 16), fill, fill] := by
  have ha := a.toNat_lt
  rw [written, encode, utf8]
  simp only [List.flatMap_cons, List.flatMap_nil, utf8EncodeChar_fill]
  rw [utf8EncodeChar_symbol (by omega), utf8EncodeChar_symbol (by omega)]
  rfl

theorem written_two (a b : UInt8) :
    written [a, b] = [octet (a.toNat / 4), octet (a.toNat % 4 * 16 + b.toNat / 16),
      octet (b.toNat % 16 * 4), fill] := by
  have ha := a.toNat_lt
  have hb := b.toNat_lt
  rw [written, encode, utf8]
  simp only [List.flatMap_cons, List.flatMap_nil, utf8EncodeChar_fill]
  rw [utf8EncodeChar_symbol (by omega), utf8EncodeChar_symbol (by omega),
    utf8EncodeChar_symbol (by omega)]
  have h1 : (a.toNat * 256 + b.toNat) / 1024 = a.toNat / 4 := by omega
  have h2 : (a.toNat * 256 + b.toNat) / 16 % 64 = a.toNat % 4 * 16 + b.toNat / 16 := by omega
  have h3 : (a.toNat * 256 + b.toNat) % 16 * 4 = b.toNat % 16 * 4 := by omega
  rw [h1, h2, h3]
  rfl

theorem written_three (a b c : UInt8) (rest : Octets) :
    written (a :: b :: c :: rest) = octet (a.toNat / 4) ::
      octet (a.toNat % 4 * 16 + b.toNat / 16) :: octet (b.toNat % 16 * 4 + c.toNat / 64) ::
      octet (c.toNat % 64) :: written rest := by
  have ha := a.toNat_lt
  have hb := b.toNat_lt
  have hc := c.toNat_lt
  rw [written, encode, utf8]
  simp only [List.flatMap_cons]
  rw [utf8EncodeChar_symbol (by omega), utf8EncodeChar_symbol (by omega),
    utf8EncodeChar_symbol (by omega), utf8EncodeChar_symbol (by omega)]
  have h1 : ((a.toNat * 256 + b.toNat) * 256 + c.toNat) / 262144 = a.toNat / 4 := by omega
  have h2 : ((a.toNat * 256 + b.toNat) * 256 + c.toNat) / 4096 % 64 =
      a.toNat % 4 * 16 + b.toNat / 16 := by omega
  have h3 : ((a.toNat * 256 + b.toNat) * 256 + c.toNat) / 64 % 64 =
      b.toNat % 16 * 4 + c.toNat / 64 := by omega
  have h4 : ((a.toNat * 256 + b.toNat) * 256 + c.toNat) % 64 = c.toNat % 64 := by omega
  rw [h1, h2, h3, h4]
  rfl

theorem length_written_mod (o : Octets) : (written o).length % 4 = 0 := by
  induction o using encode.induct with
  | case1 => rfl
  | case2 a => simp [written_one]
  | case3 a b => simp [written_two]
  | case4 a b c rest ih =>
    rw [written_three]
    simp only [List.length_cons]
    omega

theorem eq_nil_of_written {o : Octets} (h : written o = []) : o = [] := by
  match o with
  | [] => rfl
  | [a] => rw [written_one] at h; cases h
  | [a, b] => rw [written_two] at h; cases h
  | a :: b :: c :: rest => rw [written_three] at h; cases h

/-! ## What was written is read -/

theorem ofNat_eq {n : Nat} {a : UInt8} (h : n = a.toNat) : UInt8.ofNat n = a := by
  rw [h, UInt8.ofNat_toNat]

/-- A group of four symbols at the end. -/
theorem decodeLast_four (offset : Nat) {x y z w : Nat} (hx : x < 64) (hy : y < 64) (hz : z < 64)
    (hw : w < 64) :
    decodeLast offset [octet x, octet y, octet z, octet w] =
      .ok [UInt8.ofNat (x * 4 + y / 16), UInt8.ofNat (y % 16 * 16 + z / 4),
        UInt8.ofNat (z % 4 * 64 + w)] := by
  simp only [decodeLast, readLast, readSymbol_octet _ hx, readSymbol_octet _ hy,
    readSymbol_octet _ hz, readSymbol_octet _ hw, if_neg (octet_ne_fill hz),
    if_neg (octet_ne_fill hw), Except.bind, bind]

theorem decodeGroups_written (offset : Nat) (o : Octets) :
    decodeGroups offset (written o) = .ok o := by
  induction o using encode.induct generalizing offset with
  | case1 => rfl
  | case2 a =>
    have ha := a.toNat_lt
    have h1 : a.toNat / 4 < 64 := by omega
    have h2 : a.toNat % 4 * 16 < 64 := by omega
    have h3 : a.toNat % 4 * 16 % 16 = 0 := by omega
    rw [written_one]
    simp only [decodeGroups, decodeLast, readLast, readSymbol_octet _ h1, readSymbol_octet _ h2,
      Except.bind, bind, if_true, ne_eq, h3, not_true_eq_false, if_false]
    rw [ofNat_eq (a := a) (by omega)]
  | case3 a b =>
    have ha := a.toNat_lt
    have hb := b.toNat_lt
    have h1 : a.toNat / 4 < 64 := by omega
    have h2 : a.toNat % 4 * 16 + b.toNat / 16 < 64 := by omega
    have h3 : b.toNat % 16 * 4 < 64 := by omega
    have h4 : b.toNat % 16 * 4 % 4 = 0 := by omega
    rw [written_two]
    simp only [decodeGroups, decodeLast, readLast, readSymbol_octet _ h1, readSymbol_octet _ h2,
      readSymbol_octet _ h3, if_neg (octet_ne_fill h3),
      Except.bind, bind, if_true, ne_eq, h4, not_true_eq_false, if_false]
    rw [ofNat_eq (a := a) (by omega), ofNat_eq (a := b) (by omega)]
  | case4 a b c rest ih =>
    have ha := a.toNat_lt
    have hb := b.toNat_lt
    have hc := c.toNat_lt
    have h1 : a.toNat / 4 < 64 := by omega
    have h2 : a.toNat % 4 * 16 + b.toNat / 16 < 64 := by omega
    have h3 : b.toNat % 16 * 4 + c.toNat / 64 < 64 := by omega
    have h4 : c.toNat % 64 < 64 := by omega
    have ea : UInt8.ofNat (a.toNat / 4 * 4 + (a.toNat % 4 * 16 + b.toNat / 16) / 16) = a :=
      ofNat_eq (by omega)
    have eb : UInt8.ofNat ((a.toNat % 4 * 16 + b.toNat / 16) % 16 * 16 +
        (b.toNat % 16 * 4 + c.toNat / 64) / 4) = b := ofNat_eq (by omega)
    have ec : UInt8.ofNat ((b.toNat % 16 * 4 + c.toNat / 64) % 4 * 64 + c.toNat % 64) = c :=
      ofNat_eq (by omega)
    rw [written_three]
    -- The last group is read in another way than those before it.
    cases hr : written rest with
    | nil =>
      rw [decodeGroups, decodeLast_four offset h1 h2 h3 h4, ea, eb, ec, eq_nil_of_written hr]
      simp
    | cons e more =>
      rw [decodeGroups, readSymbol_octet _ h1, readSymbol_octet _ h2, readSymbol_octet _ h3,
        readSymbol_octet _ h4, ← hr, ih]
      simp only [Except.bind, bind, ea, eb, ec]

/-! ## What is read was written -/

/-- The last group consists of its symbols and the filling. -/
theorem readLast_eq_ok {offset : Nat} {group : Octets} {numbers : List Nat} {filling : Nat}
    (h : readLast offset group = .ok (numbers, filling)) (hl : group.length ≤ 4) :
    group = numbers.map octet ++ List.replicate filling fill ∧ (∀ n ∈ numbers, n < 64) ∧
      (numbers = [] → filling = 0) := by
  rcases group with _ | ⟨a, rest⟩
  · cases h
    simp
  obtain ⟨x, hx, h₁⟩ := exists_of_bind_eq_ok h
  obtain ⟨ha, hx⟩ := eq_octet_of_readSymbol hx
  rcases rest with _ | ⟨b, rest⟩
  · cases h₁
    simp [ha, hx]
  obtain ⟨y, hy, h₂⟩ := exists_of_bind_eq_ok h₁
  obtain ⟨hb, hy⟩ := eq_octet_of_readSymbol hy
  rcases rest with _ | ⟨c, rest⟩
  · cases h₂
    simp [ha, hb, hx, hy]
  by_cases hc : c = fill
  · simp only [if_pos hc] at h₂
    rcases rest with _ | ⟨d, rest⟩
    · cases h₂
      simp [ha, hb, hc, hx, hy]
    · by_cases hd : d = fill
      · simp only [if_pos hd] at h₂
        cases h₂
        simp only [List.length_cons] at hl
        have hrest : rest = [] := List.eq_nil_of_length_eq_zero (by omega)
        simp [ha, hb, hc, hd, hx, hy, hrest, List.replicate]
      · simp only [if_neg hd] at h₂
        cases h₂
  · simp only [if_neg hc] at h₂
    obtain ⟨z, hz, h₃⟩ := exists_of_bind_eq_ok h₂
    obtain ⟨hc, hz⟩ := eq_octet_of_readSymbol hz
    rcases rest with _ | ⟨d, rest⟩
    · cases h₃
      simp [ha, hb, hc, hx, hy, hz]
    simp only [List.length_cons] at hl
    have hrest : rest = [] := List.eq_nil_of_length_eq_zero (by omega)
    by_cases hd : d = fill
    · simp only [if_pos hd] at h₃
      cases h₃
      simp [ha, hb, hc, hd, hx, hy, hz, hrest]
    · simp only [if_neg hd] at h₃
      obtain ⟨w, hw, h₄⟩ := exists_of_bind_eq_ok h₃
      obtain ⟨hd, hw⟩ := eq_octet_of_readSymbol hw
      cases h₄
      simp [ha, hb, hc, hd, hx, hy, hz, hw, hrest]

/-- The written form of three octets that four symbols stand for. -/
theorem written_symbols {x y z w : Nat} (hx : x < 64) (hy : y < 64) (hz : z < 64) (hw : w < 64)
    (rest : Octets) :
    written (UInt8.ofNat (x * 4 + y / 16) :: UInt8.ofNat (y % 16 * 16 + z / 4) ::
      UInt8.ofNat (z % 4 * 64 + w) :: rest) =
      octet x :: octet y :: octet z :: octet w :: written rest := by
  rw [written_three, Utf8.toNat_octet (by omega), Utf8.toNat_octet (by omega),
    Utf8.toNat_octet (by omega)]
  have h1 : (x * 4 + y / 16) / 4 = x := by omega
  have h2 : (x * 4 + y / 16) % 4 * 16 + (y % 16 * 16 + z / 4) / 16 = y := by omega
  have h3 : (y % 16 * 16 + z / 4) % 16 * 4 + (z % 4 * 64 + w) / 64 = z := by omega
  have h4 : (z % 4 * 64 + w) % 64 = w := by omega
  rw [h1, h2, h3, h4]

theorem eq_written_of_decodeLast {offset : Nat} {group o : Octets}
    (h : decodeLast offset group = .ok o) (hl : group.length ≤ 4) : group = written o := by
  rw [decodeLast] at h
  obtain ⟨⟨numbers, filling⟩, hRead, h⟩ := exists_of_bind_eq_ok h
  obtain ⟨rfl, hBound, hEmpty⟩ := readLast_eq_ok hRead hl
  match numbers with
  | [] =>
    cases h
    rw [hEmpty rfl]
    rfl
  | [_] => cases h
  | [x, y] =>
    have hx : x < 64 := hBound x (by simp)
    have hy : y < 64 := hBound y (by simp)
    simp only at h
    split at h
    · cases h
    · next hFilling =>
      split at h
      · cases h
      · next hUnused =>
        cases h
        rw [Decidable.not_not.mp hFilling, written_one, Utf8.toNat_octet (by omega)]
        have h1 : (x * 4 + y / 16) / 4 = x := by omega
        have h2 : (x * 4 + y / 16) % 4 * 16 = y := by omega
        rw [h1, h2]
        rfl
  | [x, y, z] =>
    have hx : x < 64 := hBound x (by simp)
    have hy : y < 64 := hBound y (by simp)
    have hz : z < 64 := hBound z (by simp)
    simp only at h
    split at h
    · cases h
    · next hFilling =>
      split at h
      · cases h
      · next hUnused =>
        cases h
        rw [Decidable.not_not.mp hFilling, written_two, Utf8.toNat_octet (by omega),
          Utf8.toNat_octet (by omega)]
        have h1 : (x * 4 + y / 16) / 4 = x := by omega
        have h2 : (x * 4 + y / 16) % 4 * 16 + (y % 16 * 16 + z / 4) / 16 = y := by omega
        have h3 : (y % 16 * 16 + z / 4) % 16 * 4 = z := by omega
        rw [h1, h2, h3]
        rfl
  | x :: y :: z :: w :: more =>
    have hx : x < 64 := hBound x (by simp)
    have hy : y < 64 := hBound y (by simp)
    have hz : z < 64 := hBound z (by simp)
    have hw : w < 64 := hBound w (by simp)
    simp only [List.length_append, List.length_map, List.length_cons, List.length_replicate] at hl
    obtain rfl : more = [] := List.eq_nil_of_length_eq_zero (by omega)
    obtain rfl : filling = 0 := by omega
    cases h
    rw [written_symbols hx hy hz hw]
    rfl

theorem eq_written_of_decodeGroups {offset : Nat} {text o : Octets}
    (h : decodeGroups offset text = .ok o) : text = written o := by
  fun_induction decodeGroups offset text generalizing o with
  | case1 offset a b c d e rest ih =>
    obtain ⟨x, hx, h₁⟩ := exists_of_bind_eq_ok h
    obtain ⟨y, hy, h₂⟩ := exists_of_bind_eq_ok h₁
    obtain ⟨z, hz, h₃⟩ := exists_of_bind_eq_ok h₂
    obtain ⟨w, hw, h₄⟩ := exists_of_bind_eq_ok h₃
    obtain ⟨more, hMore, h₅⟩ := exists_of_bind_eq_ok h₄
    obtain ⟨ha, hx⟩ := eq_octet_of_readSymbol hx
    obtain ⟨hb, hy⟩ := eq_octet_of_readSymbol hy
    obtain ⟨hc, hz⟩ := eq_octet_of_readSymbol hz
    obtain ⟨hd, hw⟩ := eq_octet_of_readSymbol hw
    cases h₅
    rw [written_symbols hx hy hz hw, ← ih hMore, ha, hb, hc, hd]
  | case2 offset group hShort =>
    refine eq_written_of_decodeLast h ?_
    match group, hShort with
    | [], _ | [_], _ | [_, _], _ | [_, _, _], _ | [_, _, _, _], _ => simp
    | a :: b :: c :: d :: e :: rest, hShort => exact absurd rfl (hShort a b c d e rest)

/-- **A text is read as some octets exactly if it is their written form.** -/
theorem decode_eq_ok_iff {text o : Octets} : decode text = .ok o ↔ text = utf8 (encode o) := by
  constructor
  · intro h
    unfold decode at h
    split at h
    · split at h
      · cases h
      · exact eq_written_of_decodeGroups h
    · next hNone =>
      cases h
      exact List.getLast?_eq_none_iff.mp hNone
  · rintro rfl
    have hLength : ¬ (written o).length % 4 = 1 := by
      have := length_written_mod o
      omega
    show decode (written o) = .ok o
    unfold decode
    split
    · rw [if_neg fun h => hLength h.1]
      exact decodeGroups_written 0 o
    · next hNone =>
      rw [eq_nil_of_written (List.getLast?_eq_none_iff.mp hNone)]

end LogEgress.Base64
