import LogEgress.Text.Utf8

set_option autoImplicit false

/-! # Texts are read from their UTF-8 form

The UTF-8 form of a character is taken off the front of some octets as that character
(`step_utf8EncodeChar`), so the UTF-8 form of a text is read as the text, strictly
(`decode_utf8`) and leniently (`decodeWith_utf8`). An octet below 128 stands for a character of its
own, and never for a part of another (`mem_utf8_iff`). Texts are in the same order as their forms
(`utf8_lt_utf8`).
-/

namespace LogEgress.Utf8

/-! ## Texts in parts -/

theorem utf8_append (s t : List Char) : utf8 (s ++ t) = utf8 s ++ utf8 t := List.flatMap_append

theorem utf8_cons (c : Char) (s : List Char) : utf8 (c :: s) = String.utf8EncodeChar c ++ utf8 s :=
  List.flatMap_cons

/-! ## The forms of a character -/

theorem within_eq_true {lo hi : Nat} {b : UInt8} (h : lo ≤ b.toNat ∧ b.toNat ≤ hi) :
    within lo hi b = true := by
  rw [within, decide_eq_true h.1, decide_eq_true h.2]
  rfl

theorem within_eq_false {lo hi : Nat} {b : UInt8} (h : b.toNat < lo ∨ hi < b.toNat) :
    within lo hi b = false := by
  rw [within, Bool.and_eq_false_iff, decide_eq_false_iff_not, decide_eq_false_iff_not]
  omega

theorem isContinuation_eq_true {b : UInt8} (h : 0x80 ≤ b.toNat ∧ b.toNat ≤ 0xbf) :
    isContinuation b = true := within_eq_true h

theorem step_one {b : UInt8} (h : b.toNat < 0x80) (r : Octets) :
    step b r = .char (Char.ofNat b.toNat) r := by
  rw [step.eq_def, if_pos h]

theorem step_two {b b1 : UInt8} (h : 0xc2 ≤ b.toNat ∧ b.toNat ≤ 0xdf)
    (h1 : 0x80 ≤ b1.toNat ∧ b1.toNat ≤ 0xbf) (r : Octets) :
    step b (b1 :: r) = .char (Char.ofNat (b.toNat % 32 * 64 + b1.toNat % 64)) r := by
  have hone : ¬ b.toNat < 0x80 := by omega
  rw [step.eq_def, if_neg hone, if_pos (within_eq_true h)]
  show (if isContinuation b1 = true then _ else _) = _
  rw [if_pos (isContinuation_eq_true h1)]
  rfl

theorem step_three {b b1 b2 : UInt8} (h : 0xe0 ≤ b.toNat ∧ b.toNat ≤ 0xef)
    (h1 : 0x80 ≤ b1.toNat ∧ b1.toNat ≤ 0xbf) (hlow : b.toNat = 0xe0 → 0xa0 ≤ b1.toNat)
    (hhigh : b.toNat = 0xed → b1.toNat ≤ 0x9f) (h2 : 0x80 ≤ b2.toNat ∧ b2.toNat ≤ 0xbf)
    (r : Octets) : step b (b1 :: b2 :: r) =
      .char (Char.ofNat ((b.toNat % 16 * 64 + b1.toNat % 64) * 64 + b2.toNat % 64)) r := by
  have hone : ¬ b.toNat < 0x80 := by omega
  have htwo : within 0xc2 0xdf b = false := within_eq_false (by omega)
  have hsecond : within (secondOfThree b).1 (secondOfThree b).2 b1 = true := by
    unfold secondOfThree
    split
    · rename_i hb
      exact within_eq_true ⟨hlow (congrArg UInt8.toNat hb), h1.2⟩
    · split
      · rename_i hb
        exact within_eq_true ⟨h1.1, hhigh (congrArg UInt8.toNat hb)⟩
      · exact within_eq_true h1
  rw [step.eq_def, if_neg hone, htwo, if_neg Bool.false_ne_true, if_pos (within_eq_true h)]
  show (if within _ _ b1 = true then _ else _) = _
  rw [if_pos hsecond]
  show (if isContinuation b2 = true then _ else _) = _
  rw [if_pos (isContinuation_eq_true h2)]
  rfl

theorem step_four {b b1 b2 b3 : UInt8} (h : 0xf0 ≤ b.toNat ∧ b.toNat ≤ 0xf4)
    (h1 : 0x80 ≤ b1.toNat ∧ b1.toNat ≤ 0xbf) (hlow : b.toNat = 0xf0 → 0x90 ≤ b1.toNat)
    (hhigh : b.toNat = 0xf4 → b1.toNat ≤ 0x8f) (h2 : 0x80 ≤ b2.toNat ∧ b2.toNat ≤ 0xbf)
    (h3 : 0x80 ≤ b3.toNat ∧ b3.toNat ≤ 0xbf) (r : Octets) :
    step b (b1 :: b2 :: b3 :: r) = .char (Char.ofNat
      (((b.toNat % 8 * 64 + b1.toNat % 64) * 64 + b2.toNat % 64) * 64 + b3.toNat % 64)) r := by
  have hone : ¬ b.toNat < 0x80 := by omega
  have htwo : within 0xc2 0xdf b = false := within_eq_false (by omega)
  have hthree : within 0xe0 0xef b = false := within_eq_false (by omega)
  have hsecond : within (secondOfFour b).1 (secondOfFour b).2 b1 = true := by
    unfold secondOfFour
    split
    · rename_i hb
      exact within_eq_true ⟨hlow (congrArg UInt8.toNat hb), h1.2⟩
    · split
      · rename_i hb
        exact within_eq_true ⟨h1.1, hhigh (congrArg UInt8.toNat hb)⟩
      · exact within_eq_true h1
  rw [step.eq_def, if_neg hone, htwo, if_neg Bool.false_ne_true, hthree, if_neg Bool.false_ne_true,
    if_pos (within_eq_true h)]
  show (if within _ _ b1 = true then _ else _) = _
  rw [if_pos hsecond]
  show (if isContinuation b2 = true then _ else _) = _
  rw [if_pos (isContinuation_eq_true h2)]
  show (if isContinuation b3 = true then _ else _) = _
  rw [if_pos (isContinuation_eq_true h3)]
  rfl

/-! ## Characters -/

theorem toNat_octet {n : Nat} (h : n < 256) : (UInt8.ofNat n).toNat = n :=
  UInt8.toNat_ofNat_of_lt' h

/-- The number of a character is no surrogate and has at most 21 bits. -/
theorem char_bounds (c : Char) :
    c.val.toNat < 0xd800 ∨ (0xdfff < c.val.toNat ∧ c.val.toNat < 0x110000) := c.valid

/-- The UTF-8 form of a character is taken off as the character. -/
theorem step_utf8EncodeChar (c : Char) (r : Octets) :
    ∃ b bs, String.utf8EncodeChar c = b :: bs ∧ step b (bs ++ r) = .char c r := by
  have hbounds := char_bounds c
  have hself : Char.ofNat c.val.toNat = c := Char.ofNat_toNat c
  unfold String.utf8EncodeChar
  dsimp only
  generalize c.val.toNat = v at hbounds hself
  -- One case for each length of the form. In each the octets give back the bits of the number, and
  -- the bounds on the second octet hold because the number is no surrogate and not too great.
  by_cases h1 : v ≤ 127
  · refine ⟨_, _, if_pos h1, ?_⟩
    have hv : (UInt8.ofNat v).toNat = v := toNat_octet (by omega)
    rw [List.nil_append, step_one (by omega), hv, hself]
  · rw [if_neg h1]
    by_cases h2 : v ≤ 2047
    · refine ⟨_, _, if_pos h2, ?_⟩
      have hv : (UInt8.ofNat (v / 64 % 32 + 192)).toNat = v / 64 + 192 := by
        rw [toNat_octet (by omega)]
        omega
      have hv1 : (UInt8.ofNat (v % 64 + 128)).toNat = v % 64 + 128 := toNat_octet (by omega)
      have hchar : (v / 64 + 192) % 32 * 64 + (v % 64 + 128) % 64 = v := by omega
      rw [List.singleton_append, step_two (by omega) (by omega), hv, hv1, hchar, hself]
    · rw [if_neg h2]
      by_cases h3 : v ≤ 65535
      · refine ⟨_, _, if_pos h3, ?_⟩
        have hv : (UInt8.ofNat (v / 4096 % 16 + 224)).toNat = v / 4096 + 224 := by
          rw [toNat_octet (by omega)]
          omega
        have hv1 : (UInt8.ofNat (v / 64 % 64 + 128)).toNat = v / 64 % 64 + 128 :=
          toNat_octet (by omega)
        have hv2 : (UInt8.ofNat (v % 64 + 128)).toNat = v % 64 + 128 := toNat_octet (by omega)
        have hchar : ((v / 4096 + 224) % 16 * 64 + (v / 64 % 64 + 128) % 64) * 64 +
            (v % 64 + 128) % 64 = v := by omega
        rw [List.cons_append, List.singleton_append,
          step_three (by omega) (by omega) (by omega) (by omega) (by omega), hv, hv1, hv2, hchar,
          hself]
      · refine ⟨_, _, if_neg h3, ?_⟩
        have hv : (UInt8.ofNat (v / 262144 % 8 + 240)).toNat = v / 262144 + 240 := by
          rw [toNat_octet (by omega)]
          omega
        have hv1 : (UInt8.ofNat (v / 4096 % 64 + 128)).toNat = v / 4096 % 64 + 128 :=
          toNat_octet (by omega)
        have hv2 : (UInt8.ofNat (v / 64 % 64 + 128)).toNat = v / 64 % 64 + 128 :=
          toNat_octet (by omega)
        have hv3 : (UInt8.ofNat (v % 64 + 128)).toNat = v % 64 + 128 := toNat_octet (by omega)
        have hchar : (((v / 262144 + 240) % 8 * 64 + (v / 4096 % 64 + 128) % 64) * 64 +
            (v / 64 % 64 + 128) % 64) * 64 + (v % 64 + 128) % 64 = v := by omega
        rw [List.cons_append, List.cons_append, List.singleton_append,
          step_four (by omega) (by omega) (by omega) (by omega) (by omega) (by omega), hv, hv1,
          hv2, hv3, hchar, hself]

/-! ## Texts -/

theorem decodeFrom_char (offset : Nat) {b : UInt8} {rest r : Octets} {c : Char}
    (h : step b rest = .char c r) : ∃ offset', decodeFrom offset (b :: rest) =
      (decodeFrom offset' r).map (c :: ·) := by
  refine ⟨offset + (rest.length + 1 - r.length), ?_⟩
  rw [decodeFrom]
  split
  · rename_i h'
    rw [h] at h'
    cases h'
    rfl
  · rename_i h'
    rw [h] at h'
    cases h'
  · rename_i h'
    rw [h] at h'
    cases h'

theorem decodeWith_char (substitute : Char) {b : UInt8} {rest r : Octets} {c : Char}
    (h : step b rest = .char c r) :
    decodeWith substitute (b :: rest) = c :: decodeWith substitute r := by
  rw [decodeWith]
  split
  · rename_i h'
    rw [h] at h'
    cases h'
    rfl
  · rename_i h'
    rw [h] at h'
    cases h'
  · rename_i h'
    rw [h] at h'
    cases h'

/-- The offset counts in faults only. -/
theorem decodeFrom_utf8 (offset : Nat) (s : List Char) : decodeFrom offset (utf8 s) = .ok s := by
  induction s generalizing offset with
  | nil => rw [utf8, List.flatMap_nil, decodeFrom]
  | cons c s ih =>
    obtain ⟨b, bs, hc, hstep⟩ := step_utf8EncodeChar c (utf8 s)
    obtain ⟨offset', hdecode⟩ := decodeFrom_char offset hstep
    rw [utf8, List.flatMap_cons, hc, List.cons_append]
    exact hdecode.trans (by rw [ih]; rfl)

/-- **UTF-8 is read as it was written.** -/
theorem decode_utf8 (s : List Char) : decode (utf8 s) = .ok s := decodeFrom_utf8 0 s

/-- Different texts have different octets. -/
theorem utf8_injective {s t : List Char} (h : utf8 s = utf8 t) : s = t := by
  have hDecode := decode_utf8 s
  rw [h, decode_utf8] at hDecode
  exact (Except.ok.inj hDecode).symm

/-- There is nothing to be substituted. -/
theorem decodeWith_utf8 (substitute : Char) (s : List Char) :
    decodeWith substitute (utf8 s) = s := by
  induction s with
  | nil => rw [utf8, List.flatMap_nil, decodeWith]
  | cons c s ih =>
    obtain ⟨b, bs, hc, hstep⟩ := step_utf8EncodeChar c (utf8 s)
    rw [utf8, List.flatMap_cons, hc, List.cons_append]
    exact (decodeWith_char substitute hstep).trans (by rw [ih])

theorem decodeLossy_utf8 (s : List Char) : decodeLossy (utf8 s) = s := decodeWith_utf8 '\ufffd' s

/-! ## Octets of ASCII characters -/

theorem utf8EncodeChar_of_lt {c : Char} (h : c.toNat < 128) :
    String.utf8EncodeChar c = [UInt8.ofNat c.toNat] :=
  if_pos (Nat.le_of_lt_succ h)

/-- A text in ASCII has an octet for each character, and all of these are in ASCII. -/
theorem utf8_ascii {s : List Char} (h : ∀ c ∈ s, c.toNat < 128) :
    (utf8 s).length = s.length ∧ ∀ b ∈ utf8 s, b.toNat < 128 := by
  induction s with
  | nil => exact ⟨rfl, nofun⟩
  | cons c s ih =>
    obtain ⟨hlength, hall⟩ := ih fun d hd => h d (List.mem_cons_of_mem c hd)
    have hc := h c List.mem_cons_self
    rw [utf8_cons, utf8EncodeChar_of_lt hc, List.singleton_append]
    refine ⟨by rw [List.length_cons, List.length_cons, hlength], ?_⟩
    rintro b (_ | ⟨_, hb⟩)
    · rwa [toNat_octet (by omega)]
    · exact hall b hb

theorem le_of_mem_utf8EncodeChar {c : Char} {b : UInt8} (h : 128 ≤ c.toNat)
    (hb : b ∈ String.utf8EncodeChar c) : 128 ≤ b.toNat := by
  have hv : 128 ≤ c.val.toNat := h
  -- Whatever the length of the form, each of its octets has the highest bit.
  have key : ∀ k x : Nat, 128 ≤ k → x + k < 256 → 128 ≤ (UInt8.ofNat (x + k)).toNat := by
    intro k x hk hlt
    rw [toNat_octet hlt]
    omega
  unfold String.utf8EncodeChar at hb
  dsimp only at hb
  generalize c.val.toNat = v at hb hv
  rw [if_neg (by omega)] at hb
  split at hb
  · simp only [List.mem_cons, List.not_mem_nil, or_false] at hb
    rcases hb with rfl | rfl <;> exact key _ _ (by omega) (by omega)
  · split at hb
    · simp only [List.mem_cons, List.not_mem_nil, or_false] at hb
      rcases hb with rfl | rfl | rfl <;> exact key _ _ (by omega) (by omega)
    · simp only [List.mem_cons, List.not_mem_nil, or_false] at hb
      rcases hb with rfl | rfl | rfl | rfl <;> exact key _ _ (by omega) (by omega)

theorem mem_utf8EncodeChar_iff {b : UInt8} (hb : b.toNat < 128) {c : Char} :
    b ∈ String.utf8EncodeChar c ↔ Char.ofNat b.toNat = c := by
  by_cases hc : c.toNat < 128
  · rw [utf8EncodeChar_of_lt hc, List.mem_singleton]
    constructor
    · rintro rfl
      rw [toNat_octet (by omega), Char.ofNat_toNat]
    · rintro rfl
      have hself : (Char.ofNat b.toNat).toNat = b.toNat := by
        have key : ∀ n < 128, (Char.ofNat n).toNat = n := by decide
        exact key _ hb
      rw [hself, UInt8.ofNat_toNat]
  · constructor
    · intro hmem
      have := le_of_mem_utf8EncodeChar (Nat.le_of_not_lt hc) hmem
      omega
    · rintro rfl
      have key : ∀ n < 128, (Char.ofNat n).toNat < 128 := by decide
      exact absurd (key _ hb) hc

/-- **An octet below 128 stands for its own character.** -/
theorem mem_utf8_iff {b : UInt8} (hb : b.toNat < 128) {s : List Char} :
    b ∈ utf8 s ↔ Char.ofNat b.toNat ∈ s := by
  rw [utf8, List.mem_flatMap]
  constructor
  · rintro ⟨c, hc, hmem⟩
    rwa [(mem_utf8EncodeChar_iff hb).mp hmem]
  · intro hc
    exact ⟨_, hc, (mem_utf8EncodeChar_iff hb).mpr rfl⟩

/-! ## The order of texts -/

/-- Octets are compared by the first place at which they differ. -/
theorem octet_cons_lt {m n : Nat} {r s : Octets} (hn : n < 256) (h : m < n ∨ m = n ∧ r < s) :
    UInt8.ofNat m :: r < UInt8.ofNat n :: s := by
  rw [List.cons_lt_cons_iff, UInt8.lt_iff_toNat_lt]
  rcases h with hlt | ⟨rfl, hrest⟩
  · rw [toNat_octet (by omega), toNat_octet hn]
    exact .inl hlt
  · exact .inr ⟨rfl, hrest⟩

section Continuing

variable {v w : Nat} {r s : Octets}

/-- Numbers that differ in their last six bits only are compared by the last octet of their
forms. -/
theorem last_octet_lt (h : v < w) (hhigh : v / 64 = w / 64) :
    UInt8.ofNat (v % 64 + 128) :: r < UInt8.ofNat (w % 64 + 128) :: s :=
  octet_cons_lt (by omega) (.inl (by omega))

theorem last_two_octets_lt (h : v < w) (hhigh : v / 4096 = w / 4096) :
    UInt8.ofNat (v / 64 % 64 + 128) :: UInt8.ofNat (v % 64 + 128) :: r <
      UInt8.ofNat (w / 64 % 64 + 128) :: UInt8.ofNat (w % 64 + 128) :: s := by
  refine octet_cons_lt (by omega) ?_
  by_cases heq : v / 64 = w / 64
  · exact .inr ⟨by rw [heq], last_octet_lt h heq⟩
  · exact .inl (by omega)

theorem last_three_octets_lt (h : v < w) (hhigh : v / 262144 = w / 262144) :
    UInt8.ofNat (v / 4096 % 64 + 128) :: UInt8.ofNat (v / 64 % 64 + 128) ::
        UInt8.ofNat (v % 64 + 128) :: r <
      UInt8.ofNat (w / 4096 % 64 + 128) :: UInt8.ofNat (w / 64 % 64 + 128) ::
        UInt8.ofNat (w % 64 + 128) :: s := by
  refine octet_cons_lt (by omega) ?_
  by_cases heq : v / 4096 = w / 4096
  · exact .inr ⟨by rw [heq], last_two_octets_lt h heq⟩
  · exact .inl (by omega)

end Continuing

/-- The form of the lesser of two characters is the lesser one, whatever follows. A longer form
begins with a greater octet; in forms of one length the higher bits come first. -/
theorem utf8EncodeChar_append_lt {c d : Char} (h : c < d) (r s : Octets) :
    String.utf8EncodeChar c ++ r < String.utf8EncodeChar d ++ s := by
  have hd := char_bounds d
  have h : c.val.toNat < d.val.toNat := UInt32.lt_iff_toNat_lt.1 h
  unfold String.utf8EncodeChar
  dsimp only
  generalize c.val.toNat = v at h
  generalize d.val.toNat = w at hd h
  by_cases hw1 : w ≤ 127
  · rw [if_pos (by omega), if_pos hw1]
    exact octet_cons_lt (by omega) (.inl h)
  · rw [if_neg hw1]
    by_cases hv1 : v ≤ 127
    · rw [if_pos hv1]
      split
      · exact octet_cons_lt (by omega) (.inl (by omega))
      · split <;> exact octet_cons_lt (by omega) (.inl (by omega))
    · rw [if_neg hv1]
      by_cases hw2 : w ≤ 2047
      · rw [if_pos (by omega), if_pos hw2]
        refine octet_cons_lt (by omega) ?_
        by_cases heq : v / 64 = w / 64
        · exact .inr ⟨by rw [heq], last_octet_lt h heq⟩
        · exact .inl (by omega)
      · rw [if_neg hw2]
        by_cases hv2 : v ≤ 2047
        · rw [if_pos hv2]
          split <;> exact octet_cons_lt (by omega) (.inl (by omega))
        · rw [if_neg hv2]
          by_cases hw3 : w ≤ 65535
          · rw [if_pos (by omega), if_pos hw3]
            refine octet_cons_lt (by omega) ?_
            by_cases heq : v / 4096 = w / 4096
            · exact .inr ⟨by rw [heq], last_two_octets_lt h heq⟩
            · exact .inl (by omega)
          · rw [if_neg hw3]
            by_cases hv3 : v ≤ 65535
            · rw [if_pos hv3]
              exact octet_cons_lt (by omega) (.inl (by omega))
            · rw [if_neg hv3]
              refine octet_cons_lt (by omega) ?_
              by_cases heq : v / 262144 = w / 262144
              · exact .inr ⟨by rw [heq], last_three_octets_lt h heq⟩
              · exact .inl (by omega)

/-- **The order of texts by their characters is that of their UTF-8 forms by octet.** -/
theorem utf8_lt_utf8 {s t : List Char} (h : s < t) : utf8 s < utf8 t := by
  induction s generalizing t with
  | nil =>
    cases t with
    | nil => exact absurd h (List.lt_irrefl [])
    | cons d t =>
      obtain ⟨b, bs, hform, -⟩ := step_utf8EncodeChar d []
      rw [utf8_cons, hform]
      exact List.nil_lt_cons b _
  | cons c s ih =>
    cases t with
    | nil => exact absurd h (List.not_lt_nil _)
    | cons d t =>
      rw [utf8_cons, utf8_cons]
      rcases List.cons_lt_cons_iff.1 h with hlt | ⟨rfl, hrest⟩
      · exact utf8EncodeChar_append_lt hlt _ _
      · exact List.append_left_lt (ih hrest)

end LogEgress.Utf8
