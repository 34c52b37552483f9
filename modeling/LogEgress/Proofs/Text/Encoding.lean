import LogEgress.Proofs.Text.Blank
import LogEgress.Proofs.Text.Utf8
import LogEgress.Text.Encoding

set_option autoImplicit false

/-! # Texts are read from their encoded forms

A character is one unit of UTF-16 or a pair of surrogates, and is taken off the front of some
octets as that character (`decodeAfter_encodeChar`), so the UTF-16 form of a text is read as the
text (`decodeLossy_encode`). With UTF-8 this holds of all encodings of Unicode
(`Encoding.Writes.decode_eq`). A mark before the octets decides between them
(`Encoding.Writes.read_mark`), or else a label (`Encoding.IsLabel.ofLabel?_eq`).
-/

namespace LogEgress

namespace Utf16

/-! ## Forms -/

/-- The two octets of a unit. -/
def octets (order : ByteOrder) (u : Nat) : Octets :=
  match order with
  | .little => [UInt8.ofNat (u % 256), UInt8.ofNat (u / 256)]
  | .big => [UInt8.ofNat (u / 256), UInt8.ofNat (u % 256)]

/-- The form of a character: one unit, or a leading and a trailing surrogate. -/
def encodeChar (order : ByteOrder) (c : Char) : Octets :=
  if c.toNat < 0x10000 then octets order c.toNat
  else octets order (0xd800 + (c.toNat - 0x10000) / 0x400) ++
    octets order (0xdc00 + (c.toNat - 0x10000) % 0x400)

/-- The UTF-16 form of a text. -/
def encode (order : ByteOrder) (s : List Char) : Octets := s.flatMap (encodeChar order)

/-! ## Reading them -/

variable {order : ByteOrder}

theorem octets_eq (order : ByteOrder) {u : Nat} (h : u < 0x10000) :
    ∃ a b, octets order u = [a, b] ∧ unit order a b = u := by
  have hlow : (UInt8.ofNat (u % 256)).toNat = u % 256 := Utf8.toNat_octet (by omega)
  have hhigh : (UInt8.ofNat (u / 256)).toNat = u / 256 := Utf8.toNat_octet (by omega)
  cases order with
  | little =>
    refine ⟨_, _, rfl, ?_⟩
    rw [unit, hlow, hhigh]
    omega
  | big =>
    refine ⟨_, _, rfl, ?_⟩
    rw [unit, hlow, hhigh]
    omega

theorem isLeading_iff {u : Nat} : isLeading u = true ↔ 0xd800 ≤ u ∧ u < 0xdc00 := by
  simp [isLeading]

theorem isTrailing_iff {u : Nat} : isTrailing u = true ↔ 0xdc00 ≤ u ∧ u < 0xe000 := by
  simp [isTrailing]

/-- A unit that is no surrogate is a character. -/
theorem decodeAfter_unit {u : Nat} (h : u < 0xd800 ∨ 0xdfff < u ∧ u < 0x10000) (o : Octets) :
    decodeAfter order none (octets order u ++ o) = Char.ofNat u :: decodeAfter order none o := by
  obtain ⟨a, b, hoctets, hunit⟩ := octets_eq order (u := u) (by omega)
  have hleading : ¬ isLeading u = true := fun hu => by
    have := isLeading_iff.1 hu
    omega
  have htrailing : ¬ isTrailing u = true := fun hu => by
    have := isTrailing_iff.1 hu
    omega
  rw [hoctets, List.cons_append, List.singleton_append, decodeAfter]
  simp only [hunit, if_neg hleading, if_neg htrailing]

/-- A leading surrogate and a trailing one are a character. -/
theorem decodeAfter_surrogates {u v : Nat} (hu : 0xd800 ≤ u ∧ u < 0xdc00)
    (hv : 0xdc00 ≤ v ∧ v < 0xe000) (o : Octets) :
    decodeAfter order none (octets order u ++ (octets order v ++ o)) =
      ofSurrogates u v :: decodeAfter order none o := by
  obtain ⟨a, b, hoctets, hunit⟩ := octets_eq order (u := u) (by omega)
  obtain ⟨c, d, hoctets', hunit'⟩ := octets_eq order (u := v) (by omega)
  rw [hoctets, hoctets', List.cons_append, List.singleton_append, decodeAfter]
  simp only [hunit, if_pos (isLeading_iff.2 hu)]
  rw [List.cons_append, List.singleton_append, decodeAfter]
  simp only [hunit', if_pos (isTrailing_iff.2 hv)]

/-- **A character is read from its form**, whatever follows. -/
theorem decodeAfter_encodeChar (c : Char) (o : Octets) :
    decodeAfter order none (encodeChar order c ++ o) = c :: decodeAfter order none o := by
  have hbounds : c.toNat < 0xd800 ∨ 0xdfff < c.toNat ∧ c.toNat < 0x110000 := Utf8.char_bounds c
  by_cases hone : c.toNat < 0x10000
  · rw [encodeChar, if_pos hone, decodeAfter_unit (by omega), Char.ofNat_toNat]
  · rw [encodeChar, if_neg hone, List.append_assoc,
      decodeAfter_surrogates (by omega) (by omega), ofSurrogates]
    have hsum : 0x10000 + (0xd800 + (c.toNat - 0x10000) / 0x400 - 0xd800) * 0x400 +
        (0xdc00 + (c.toNat - 0x10000) % 0x400 - 0xdc00) = c.toNat := by omega
    rw [hsum, Char.ofNat_toNat]

/-- **A text is read from its UTF-16 form.** -/
theorem decodeLossy_encode (order : ByteOrder) (s : List Char) :
    decodeLossy order (encode order s) = s := by
  unfold decodeLossy encode
  induction s with
  | nil => rfl
  | cons c s ih => rw [List.flatMap_cons, decodeAfter_encodeChar, ih]

end Utf16

namespace Encoding

/-- Octets are the form of a text in an encoding of Unicode. -/
inductive Writes : Encoding → List Char → Octets → Prop where
  | utf8 (s : List Char) : Writes .utf8 s (LogEgress.utf8 s)
  | utf16 (order : Utf16.ByteOrder) (s : List Char) :
    Writes (.utf16 order) s (Utf16.encode order s)

/-- The mark of an encoding of Unicode. -/
inductive IsMark : Encoding → Octets → Prop where
  | utf8 : IsMark .utf8 [0xef, 0xbb, 0xbf]
  | little : IsMark (.utf16 .little) [0xff, 0xfe]
  | big : IsMark (.utf16 .big) [0xfe, 0xff]

/-- The label of an encoding of Unicode, in letters of either case. -/
inductive IsLabel : Encoding → List Char → Prop where
  | utf8 {label : List Char} (h : label.map Char.toLower = "utf-8".toList) : IsLabel .utf8 label
  | little {label : List Char} (h : label.map Char.toLower = "utf-16le".toList ∨
      label.map Char.toLower = "utf-16".toList) : IsLabel (.utf16 .little) label
  | big {label : List Char} (h : label.map Char.toLower = "utf-16be".toList) :
    IsLabel (.utf16 .big) label

variable {e : Encoding} {s label : List Char} {o : Octets}

theorem Writes.decode_eq (h : e.Writes s o) : e.decode o = s := by
  cases h with
  | utf8 s => exact Utf8.decodeLossy_utf8 s
  | utf16 order s => exact Utf16.decodeLossy_encode order s

/-- Octets that do not begin with the mark of an encoding. -/
def Unmarked (o : Octets) : Prop := ∀ (e : Encoding) (mark : Octets), e.IsMark mark → ¬ mark <+: o

theorem Unmarked.cutMark?_eq (h : Unmarked o) : cutMark? o = none := by
  unfold cutMark?
  split
  · exact absurd ⟨_, rfl⟩ (h _ _ .utf8)
  · exact absurd ⟨_, rfl⟩ (h _ _ .little)
  · exact absurd ⟨_, rfl⟩ (h _ _ .big)
  · rfl

/-- A text without a mark is read in the encoding that it is said to be in. -/
theorem Writes.read_eq (h : e.Writes s o) (hmark : Unmarked o) : e.read o = s := by
  rw [read, hmark.cutMark?_eq]
  exact h.decode_eq

/-- A text behind a mark is read in the encoding of the mark, whatever it is said to be in. -/
theorem Writes.read_mark {mark : Octets} (h : e.Writes s o) (hmark : e.IsMark mark)
    (said : Encoding) : said.read (mark ++ o) = s := by
  have hcut : cutMark? (mark ++ o) = some (e, o) := by cases hmark <;> rfl
  rw [read, hcut]
  exact h.decode_eq

/-- Blanks around a label do not count, and a label of letters and digits has none. -/
theorem trimWhile_label {name : List Char} (hname : name.any isLabelBlank = false)
    (h : label.map Char.toLower = name) : Text.trimWhile isLabelBlank label = label := by
  have hclear : ∀ c ∈ label, isLabelBlank c = false := by
    intro c hc
    have hlower := List.any_eq_false.1 hname c.toLower (h ▸ List.mem_map_of_mem hc)
    -- A blank is the same in lower case.
    by_contra hblank
    have hsame : c.toLower = c := by
      simp only [isLabelBlank, Bool.not_eq_false, Bool.or_eq_true, beq_iff_eq] at hblank
      rcases hblank with (((rfl | rfl) | rfl) | rfl) | rfl <;> rfl
    rw [hsame] at hlower
    exact hblank (Bool.eq_false_iff.2 hlower)
  exact Text.trimWhile_eq_self (fun c hc => hclear c (List.mem_of_mem_head? hc))
    fun c hc => hclear c (List.mem_of_mem_getLast? hc)

/-- **An encoding of Unicode is known by its label.** -/
theorem IsLabel.ofLabel?_eq (h : e.IsLabel label) (pages : CodePages) :
    ofLabel? pages label = some e := by
  cases h with
  | utf8 h =>
    rw [ofLabel?, trimWhile_label (by decide) h, h]
    rfl
  | little h =>
    rcases h with h | h
    · rw [ofLabel?, trimWhile_label (by decide) h, h]
      rfl
    · rw [ofLabel?, trimWhile_label (by decide) h, h]
      rfl
  | big h =>
    rw [ofLabel?, trimWhile_label (by decide) h, h]
    rfl

end Encoding

end LogEgress
