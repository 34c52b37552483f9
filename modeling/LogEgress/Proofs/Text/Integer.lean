import LogEgress.Proofs.Except
import LogEgress.Text.Integer
import Mathlib.Algebra.Ring.Int.Defs

set_option autoImplicit false

/-! # Decimal integers

A number that is written in decimal is read as itself (`readInt64_toString`). A text that is read as
a number need not be its decimal form: it may have a plus sign, leading zeros or the sign of a
negative zero. `canonical` takes these away, and nothing else is between a text and the decimal form
of its number (`toList_toString_of_readInt64`).
-/

namespace LogEgress.Text

/-! ## Digits -/

theorem digit?_digitChar {d : Nat} (h : d < 10) : digit? (Nat.digitChar d) = some d := by
  revert d
  decide

theorem eq_digitChar_of_digit? {c : Char} {d : Nat} (h : digit? c = some d) :
    d < 10 ∧ c = Nat.digitChar d := by
  have key : ∀ n < 58, 48 ≤ n → n - 48 < 10 ∧ Char.ofNat n = Nat.digitChar (n - 48) := by decide
  rw [digit?] at h
  split at h
  · next hDigit =>
    cases h
    simp only [Char.isDigit, Bool.and_eq_true, decide_eq_true_eq, ge_iff_le,
      UInt32.le_iff_toNat_le] at hDigit
    have hKey := key c.toNat (Nat.lt_succ_of_le hDigit.2) hDigit.1
    rw [Char.ofNat_toNat] at hKey
    exact hKey
  · cases h

/-! ## Natural numbers -/

section

variable {greatest : Nat} {overflow : IntegerFault}

theorem readDigits_concat {m k : Nat} {s : List Char}
    (h : readDigits greatest overflow m s = .ok k) {c : Char} {d : Nat} (hc : digit? c = some d)
    (hd : 10 * k + d ≤ greatest) :
    readDigits greatest overflow m (s ++ [c]) = .ok (10 * k + d) := by
  induction s generalizing m with
  | nil =>
    cases h
    simp [readDigits, hc, hd]
  | cons b s ih =>
    rw [readDigits] at h
    rw [List.cons_append, readDigits]
    split at h
    · cases h
    · split at h
      · next hle =>
        simp only [if_pos hle]
        exact ih h
      · cases h

/-- The digits of a number are read as the number. The induction takes off the last digit. -/
theorem readDigits_toDigits {n : Nat} (h : n ≤ greatest) :
    readDigits greatest overflow 0 (Nat.toDigits 10 n) = .ok n := by
  induction n using Nat.strongRecOn with
  | _ n ih =>
    by_cases hn : n < 10
    · rw [Nat.toDigits_of_lt_base hn]
      simp [readDigits, digit?_digitChar hn, h]
    · have hDigit : n % 10 < 10 := by omega
      have hParts : 10 * (n / 10) + n % 10 = n := by omega
      rw [Nat.toDigits_of_base_le (by omega) (Nat.le_of_not_lt hn),
        readDigits_concat (ih (n / 10) (by omega) (by omega)) (digit?_digitChar hDigit)
          (by omega), hParts]

theorem le_of_readDigits {m n : Nat} {s : List Char}
    (h : readDigits greatest overflow m s = .ok n) (hm : m ≤ greatest) : n ≤ greatest := by
  induction s generalizing m with
  | nil =>
    cases h
    exact hm
  | cons c s ih =>
    rw [readDigits] at h
    split at h
    · cases h
    · split at h
      · next hle => exact ih h hle
      · cases h

/-- Digits are those of zero only if all of them are `0`. -/
theorem readDigits_eq_zero_iff {m : Nat} {s : List Char} :
    readDigits greatest overflow m s = .ok 0 ↔ m = 0 ∧ ∀ c ∈ s, c = '0' := by
  induction s generalizing m with
  | nil => simp [readDigits]
  | cons c s ih =>
    rw [readDigits, List.forall_mem_cons]
    cases hc : digit? c with
    | none =>
      refine iff_of_false nofun fun h => ?_
      rw [h.2.1] at hc
      cases hc
    | some d =>
      obtain ⟨hDigit, hChar⟩ := eq_digitChar_of_digit? hc
      have hZero : d = 0 ↔ c = '0' := by
        rw [hChar]
        exact ⟨fun h => h ▸ rfl, (by decide : ∀ k < 10, Nat.digitChar k = '0' → k = 0) d hDigit⟩
      by_cases hLe : 10 * m + d ≤ greatest
      · simp only [if_pos hLe]
        rw [ih, ← hZero, ← and_assoc]
        exact and_congr_left' (by omega)
      · simp only [if_neg hLe]
        refine iff_of_false nofun fun h => hLe ?_
        have hd : d = 0 := hZero.mpr h.2.1
        omega

/-- The text of a zero: digits that are all `0`, and perhaps a plus sign in front. -/
def IsZero (s : List Char) : Prop :=
  ∃ zeros, zeros ≠ [] ∧ (∀ c ∈ zeros, c = '0') ∧ (s = zeros ∨ s = '+' :: zeros)

/-- **Nothing but zeros is read as zero.** -/
theorem readNat_eq_zero_iff {s : List Char} : readNat greatest s = .ok 0 ↔ IsZero s := by
  have hzeros (zeros : List Char) : readDigits greatest .tooLarge 0 zeros = .ok 0 ↔
      ∀ c ∈ zeros, c = '0' := by
    rw [readDigits_eq_zero_iff, and_iff_right rfl]
  unfold readNat
  split
  · refine iff_of_false nofun ?_
    rintro ⟨zeros, hne, -, rfl | h⟩
    · exact hne rfl
    · cases h
  · refine iff_of_false nofun ?_
    rintro ⟨zeros, hne, hall, rfl | h⟩
    · exact absurd (hall '+' List.mem_cons_self) (by decide)
    · exact hne (List.cons.inj h).2.symm
  · next s hs =>
    rw [hzeros]
    constructor
    · exact fun h => ⟨s, fun hnil => hs (hnil ▸ rfl), h, .inr rfl⟩
    · rintro ⟨zeros, -, hall, rfl | h⟩
      · exact absurd (hall '+' List.mem_cons_self) (by decide)
      · rwa [(List.cons.inj h).2]
  · next hnil _ hplus =>
    rw [hzeros]
    constructor
    · exact fun h => ⟨s, hnil, h, .inl rfl⟩
    · rintro ⟨zeros, -, hall, rfl | h⟩
      · exact hall
      · exact absurd h (hplus zeros)

/-- Digits after a number other than zero are all in the decimal form. -/
theorem toDigits_of_readDigits {m n : Nat} {s : List Char} (hm : 0 < m)
    (h : readDigits greatest overflow m s = .ok n) :
    Nat.toDigits 10 n = Nat.toDigits 10 m ++ s := by
  induction s generalizing m with
  | nil =>
    cases h
    rw [List.append_nil]
  | cons c s ih =>
    rw [readDigits] at h
    split at h
    · cases h
    · next d hd =>
      obtain ⟨hDigit, hc⟩ := eq_digitChar_of_digit? hd
      have hLast : (10 * m + d) % 10 = d := by omega
      have hFront : (10 * m + d) / 10 = m := by omega
      split at h
      · rw [ih (by omega) h, Nat.toDigits_of_base_le (by omega) (by omega), hLast, hFront, ← hc,
          List.append_assoc, List.singleton_append]
      · cases h

/-- Digits without leading zeros. Nothing but zeros is one zero. -/
def dropZeros : List Char → List Char
  | [] => ['0']
  | c :: s => if c = '0' then dropZeros s else c :: s

theorem toDigits_of_readDigits_zero {n : Nat} {s : List Char}
    (h : readDigits greatest overflow 0 s = .ok n) : Nat.toDigits 10 n = dropZeros s := by
  induction s with
  | nil =>
    cases h
    rfl
  | cons c s ih =>
    rw [readDigits] at h
    split at h
    · cases h
    · next d hd =>
      obtain ⟨hDigit, hc⟩ := eq_digitChar_of_digit? hd
      rw [Nat.mul_zero, Nat.zero_add] at h
      split at h
      · by_cases hZero : d = 0
        · subst hZero
          have hZeroChar : c = '0' := hc
          rw [dropZeros, if_pos hZeroChar]
          exact ih h
        · have hNonzero : Nat.digitChar d ≠ '0' := by
            have : ∀ k < 10, k ≠ 0 → Nat.digitChar k ≠ '0' := by decide
            exact this d hDigit hZero
          rw [toDigits_of_readDigits (Nat.pos_of_ne_zero hZero) h, dropZeros, hc, if_neg hNonzero,
            Nat.toDigits_of_lt_base hDigit, List.singleton_append]
      · cases h

end

/-- Only zero has the decimal form of zero. -/
theorem eq_zero_of_toDigits {n : Nat} (h : Nat.toDigits 10 n = ['0']) : n = 0 := by
  have hRead : readDigits n .tooLarge 0 (Nat.toDigits 10 n) = .ok n :=
    readDigits_toDigits (Nat.le_refl n)
  rw [h] at hRead
  cases hRead
  rfl

/-! ## Integers -/

theorem toList_toString_natCast (n : Nat) :
    (toString (n : Int)).toList = Nat.toDigits 10 n := by
  show (Nat.repr n).toList = _
  rw [Nat.repr, String.toList_ofList]

theorem toList_toString_neg {n : Nat} (h : 0 < n) :
    (toString (-(n : Int))).toList = '-' :: Nat.toDigits 10 n := by
  obtain ⟨k, rfl⟩ : ∃ k, n = k + 1 := ⟨n - 1, by omega⟩
  show ("-" ++ Nat.repr (k + 1)).toList = _
  rw [String.toList_append, Nat.repr]
  simp

/-- A text that does not begin with a sign is read as digits. -/
theorem readInt64_digits {c : Char} (hPlus : c ≠ '+') (hMinus : c ≠ '-') (s : List Char) :
    readInt64 (c :: s) = (readDigits greatestSigned64 .tooLarge 0 (c :: s)).map Int.ofNat := by
  rw [readInt64]
  · exact fun h => by cases h
  · exact fun h => hPlus (List.cons.inj h).1
  · exact fun h => hMinus (List.cons.inj h).1
  · exact fun _ h => hPlus (List.cons.inj h).1
  · exact fun _ h => hMinus (List.cons.inj h).1

theorem readInt64_plus {s : List Char} (h : s ≠ []) :
    readInt64 ('+' :: s) = (readDigits greatestSigned64 .tooLarge 0 s).map Int.ofNat := by
  cases s with
  | nil => exact absurd rfl h
  | cons c s => rfl

theorem readInt64_minus {s : List Char} (h : s ≠ []) :
    readInt64 ('-' :: s) =
      (readDigits (greatestSigned64 + 1) .tooSmall 0 s).map fun n : Nat => -(n : Int) := by
  cases s with
  | nil => exact absurd rfl h
  | cons c s =>
    rw [readInt64]
    · cases readDigits (greatestSigned64 + 1) .tooSmall 0 (c :: s) <;> rfl
    · exact List.cons_ne_nil c s

/-- **A number in the range is read from its decimal form.** -/
theorem readInt64_toString {i : Int} (hl : -2 ^ 63 ≤ i) (hu : i < 2 ^ 63) :
    readInt64 (toString i).toList = .ok i := by
  rcases Int.lt_or_le i 0 with hNegative | hNatural
  · obtain ⟨n, rfl⟩ : ∃ n : Nat, i = -(n : Int) := ⟨i.natAbs, by omega⟩
    have hLe : n ≤ greatestSigned64 + 1 := by simp only [greatestSigned64]; omega
    rw [toList_toString_neg (by omega), readInt64_minus Nat.toDigits_ne_nil,
      readDigits_toDigits hLe]
    rfl
  · obtain ⟨n, rfl⟩ : ∃ n : Nat, i = n := ⟨i.natAbs, by omega⟩
    have hLe : n ≤ greatestSigned64 := by simp only [greatestSigned64]; omega
    have hRead : readDigits greatestSigned64 .tooLarge 0 (Nat.toDigits 10 n) = .ok n :=
      readDigits_toDigits hLe
    rw [toList_toString_natCast]
    -- The first digit is no sign.
    rcases hDigits : Nat.toDigits 10 n with _ | ⟨c, s⟩
    · exact absurd hDigits Nat.toDigits_ne_nil
    · rw [hDigits] at hRead
      have hc : ∃ d, digit? c = some d := by
        rw [readDigits] at hRead
        split at hRead
        · cases hRead
        · next d hd => exact ⟨d, hd⟩
      obtain ⟨d, hd⟩ := hc
      have hPlus : c ≠ '+' := by
        rintro rfl
        cases hd
      have hMinus : c ≠ '-' := by
        rintro rfl
        cases hd
      rw [readInt64_digits hPlus hMinus, hRead]
      rfl

/-! ## Canonical form -/

/-- The text of an integer without a plus sign, leading zeros and the sign of zero. No text is
zero. -/
def canonical : List Char → List Char
  | '+' :: s => dropZeros s
  | '-' :: s => if dropZeros s = ['0'] then ['0'] else '-' :: dropZeros s
  | s => dropZeros s

theorem canonical_digits {c : Char} (hPlus : c ≠ '+') (hMinus : c ≠ '-') (s : List Char) :
    canonical (c :: s) = dropZeros (c :: s) := by
  rw [canonical]
  · exact fun _ h => hPlus (List.cons.inj h).1
  · exact fun _ h => hMinus (List.cons.inj h).1

/-- **The decimal form of the number that is read is the text's canonical form.** -/
theorem toList_toString_of_readInt64 {s : List Char} {i : Int} (h : readInt64 s = .ok i) :
    (toString i).toList = canonical s ∧ -2 ^ 63 ≤ i ∧ i < 2 ^ 63 := by
  have natural : ∀ {s : List Char} {i : Int},
      (readDigits greatestSigned64 .tooLarge 0 s).map Int.ofNat = .ok i →
      (toString i).toList = dropZeros s ∧ -2 ^ 63 ≤ i ∧ i < 2 ^ 63 := by
    intro s i h
    obtain ⟨n, hRead, hn⟩ := exists_of_map_eq_ok h
    subst hn
    have hLe := le_of_readDigits hRead (Nat.zero_le _)
    simp only [greatestSigned64] at hLe
    refine ⟨?_, by simp only [Int.ofNat_eq_natCast]; omega,
      by simp only [Int.ofNat_eq_natCast]; omega⟩
    rw [← toDigits_of_readDigits_zero hRead]
    exact toList_toString_natCast n
  rcases s with _ | ⟨c, s⟩
  · cases h
  by_cases hPlus : c = '+'
  · subst hPlus
    by_cases hs : s = []
    · subst hs
      cases h
    · rw [readInt64_plus hs] at h
      exact natural h
  by_cases hMinus : c = '-'
  · subst hMinus
    by_cases hs : s = []
    · subst hs
      cases h
    · rw [readInt64_minus hs] at h
      obtain ⟨n, hRead, hn⟩ := exists_of_map_eq_ok h
      subst hn
      have hLe := le_of_readDigits hRead (Nat.zero_le _)
      have hDigits := toDigits_of_readDigits_zero hRead
      simp only [greatestSigned64] at hLe
      refine ⟨?_, by omega, by omega⟩
      rw [canonical, ← hDigits]
      rcases Nat.eq_zero_or_pos n with rfl | hPos
      · rfl
      · rw [if_neg fun hZero => by have := eq_zero_of_toDigits hZero; omega,
          toList_toString_neg hPos]
  · rw [readInt64_digits hPlus hMinus] at h
    rw [canonical_digits hPlus hMinus]
    exact natural h

end LogEgress.Text
