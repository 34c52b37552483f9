import LogEgress.Proofs.Text.Split
import LogEgress.Proofs.Text.Utf8
import LogEgress.Url.Form
import Mathlib.Data.List.Basic

set_option autoImplicit false

/-! # A form is read as it was written

A name or value is found again in its encoded form (`Form.decode_encode`), and an encoded form has
neither `&` nor `=`, which divide entries. So a form that is written is read as the same names and
values, whatever characters they have (`Form.pairs_print`).
-/

namespace LogEgress.Url

/-! ## Octets -/

/-- An octet that is not `%` stands for itself. -/
theorem percentDecode_cons_of_ne {a : UInt8} (h : a ≠ 37) (o : Octets) :
    percentDecode (a :: o) = a :: percentDecode o := by
  match o with
  | [] | [_] => rfl
  | b :: c :: rest => rw [percentDecode, if_neg h]

theorem hexOctet?_hexUpper {n : Nat} (h : n < 16) :
    hexOctet? (UInt8.ofNat (Text.hexUpper n).toNat) = some n := by
  revert n
  decide

theorem toNat_hexUpper_lt {n : Nat} (h : n < 16) : (Text.hexUpper n).toNat < 128 := by
  revert n
  decide

/-- The octets of an encoded octet. -/
theorem utf8_encodeOctet (b : UInt8) : utf8 (encodeOctet b) =
    [37, UInt8.ofNat (Text.hexUpper (b.toNat / 16)).toNat,
      UInt8.ofNat (Text.hexUpper (b.toNat % 16)).toNat] := by
  have hbound : b.toNat < 256 := b.toNat_lt
  have hhigh := Utf8.utf8EncodeChar_of_lt (toNat_hexUpper_lt (n := b.toNat / 16) (by omega))
  have hlow := Utf8.utf8EncodeChar_of_lt (toNat_hexUpper_lt (n := b.toNat % 16) (by omega))
  rw [encodeOctet, Utf8.utf8_cons, Utf8.utf8_cons, Utf8.utf8_cons, hhigh, hlow]
  rfl

theorem percentDecode_encodeOctet (b : UInt8) (o : Octets) :
    percentDecode (utf8 (encodeOctet b) ++ o) = b :: percentDecode o := by
  have hbound : b.toNat < 256 := b.toNat_lt
  have hjoin : b.toNat / 16 * 16 + b.toNat % 16 = b.toNat := by omega
  rw [utf8_encodeOctet]
  simp only [List.cons_append, List.nil_append]
  rw [percentDecode, if_pos rfl, hexOctet?_hexUpper (by omega), hexOctet?_hexUpper (by omega)]
  simp only [hjoin, UInt8.ofNat_toNat]

/-- Encoded octets are decoded one by one, whatever stands behind them. -/
theorem percentDecode_encodeOctets (bs o : Octets) :
    percentDecode (utf8 (bs.flatMap encodeOctet) ++ o) = bs ++ percentDecode o := by
  induction bs with
  | nil => rfl
  | cons b bs ih =>
    rw [List.flatMap_cons, Utf8.utf8_append, List.append_assoc, percentDecode_encodeOctet, ih,
      List.cons_append]

/-- The characters of an encoded character are `%` and digits. -/
theorem mem_encodeChar {c d : Char} (h : d ∈ encodeChar c) :
    d = '%' ∨ ∃ n < 16, d = Text.hexUpper n := by
  obtain ⟨b, -, h⟩ := List.mem_flatMap.mp h
  have hbound : b.toNat < 256 := b.toNat_lt
  rw [encodeOctet, List.mem_cons, List.mem_cons, List.mem_singleton] at h
  rcases h with h | h | h
  · exact .inl h
  · exact .inr ⟨b.toNat / 16, by omega, h⟩
  · exact .inr ⟨b.toNat % 16, by omega, h⟩

namespace Form

/-! ## Names and values -/

/-- Letters and digits are in ASCII. -/
theorem toNat_lt_of_isAlphanum {c : Char} (h : c.isAlphanum = true) : c.toNat < 128 := by
  have hranges : (c.isUpper = true ∨ c.isLower = true) ∨ c.isDigit = true := by
    rw [← Bool.or_eq_true, ← Bool.or_eq_true]
    exact h
  have hval : c.val.toNat < 128 := by
    rcases hranges with (hupper | hlower) | hdigit
    · have hle : c.val ≤ 'Z'.val := (of_decide_eq_true hupper).2
      exact Nat.lt_of_le_of_lt (UInt32.le_iff_toNat_le.mp hle) (by decide)
    · have hle : c.val ≤ 'z'.val := of_decide_eq_true ((Bool.and_eq_true _ _).mp hlower).2
      exact Nat.lt_of_le_of_lt (UInt32.le_iff_toNat_le.mp hle) (by decide)
    · have hle : c.val ≤ '9'.val := of_decide_eq_true ((Bool.and_eq_true _ _).mp hdigit).2
      exact Nat.lt_of_le_of_lt (UInt32.le_iff_toNat_le.mp hle) (by decide)
  exact hval

/-- A character that stands for itself is in ASCII, and none that has a meaning in a form. -/
theorem of_isPlain {c : Char} (h : isPlain c = true) :
    c.toNat < 128 ∧ c ∉ ['%', '+', '&', '=', '#'] := by
  have hmarks : ∀ d ∈ ['*', '-', '.', '_'], d.toNat < 128 :=
    List.forall_iff_forall_mem.mp (by decide)
  have hnone : ∀ d ∈ ['%', '+', '&', '=', '#'], isPlain d = false :=
    List.forall_iff_forall_mem.mp (by decide)
  refine ⟨?_, fun hmem => Bool.noConfusion ((hnone c hmem).symm.trans h)⟩
  rw [isPlain, Bool.or_eq_true, decide_eq_true_eq] at h
  rcases h with halphanum | hmark
  · exact toNat_lt_of_isAlphanum halphanum
  · exact hmarks c hmark

/-- The encoded form of one character. -/
def encodeOne (c : Char) : List Char :=
  if c = ' ' then ['+'] else if isPlain c then [c] else encodeChar c

theorem encode_cons (c : Char) (s : List Char) : encode (c :: s) = encodeOne c ++ encode s := rfl

/-- The character that is read in place of one: a space for `+`. -/
def spaced (c : Char) : Char := if c = '+' then ' ' else c

theorem map_spaced_of_notMem {s : List Char} (h : '+' ∉ s) : s.map spaced = s :=
  (List.map_congr_left fun _ hc => if_neg (ne_of_mem_of_not_mem hc h)).trans (List.map_id s)

/-- No encoded character has one of the characters that divide entries or that end a query. -/
theorem notMem_encodeOne {c d : Char} (hd : d ∈ ['&', '=', '#']) : d ∉ encodeOne c := by
  unfold encodeOne
  split
  · intro h
    rw [List.mem_singleton.mp h] at hd
    exact absurd hd (by decide)
  · split
    · next hplain =>
      intro h
      rw [List.mem_singleton] at h
      subst h
      exact (of_isPlain hplain).2 (List.mem_cons_of_mem _ (List.mem_cons_of_mem _ hd))
    · intro h
      have hdigits : ∀ n < 16, Text.hexUpper n ∉ ['&', '=', '#'] := by decide
      rcases mem_encodeChar h with rfl | ⟨n, hn, rfl⟩
      · exact absurd hd (by decide)
      · exact hdigits n hn hd

theorem notMem_encode {d : Char} (hd : d ∈ ['&', '=', '#']) (s : List Char) : d ∉ encode s := by
  intro h
  obtain ⟨c, -, h⟩ := List.mem_flatMap.mp h
  exact notMem_encodeOne hd h

/-- One character is decoded, whatever stands behind it. -/
theorem percentDecode_encodeOne (c : Char) (o : Octets) :
    percentDecode (utf8 ((encodeOne c).map spaced) ++ o) =
      String.utf8EncodeChar c ++ percentDecode o := by
  unfold encodeOne
  split
  · next hspace =>
    subst hspace
    exact percentDecode_cons_of_ne (by decide) o
  · split
    · next hplain =>
      obtain ⟨hlt, hnot⟩ := of_isPlain hplain
      have hplus : '+' ∉ [c] := fun h => hnot (List.mem_singleton.mp h ▸ by decide)
      -- It is not the octet that begins an encoded one.
      have hpercent : UInt8.ofNat c.toNat ≠ 37 := by
        intro h
        have hcode : c.toNat = '%'.toNat := by
          rw [← Utf8.toNat_octet (n := c.toNat) (by omega), h]
          rfl
        have hc : c = '%' := Char.toNat_inj.mp hcode
        exact hnot (hc ▸ List.mem_cons_self)
      rw [map_spaced_of_notMem hplus, Utf8.utf8_cons, Utf8.utf8EncodeChar_of_lt hlt]
      exact percentDecode_cons_of_ne hpercent o
    · have hplus : '+' ∉ encodeChar c := by
        have hdigits : ∀ n < 16, '+' ≠ Text.hexUpper n := by decide
        intro h
        rcases mem_encodeChar h with h | ⟨n, hn, h⟩
        · exact absurd h (by decide)
        · exact hdigits n hn h
      rw [map_spaced_of_notMem hplus, encodeChar, percentDecode_encodeOctets, Utf8.utf8_cons]
      exact congrArg (· ++ _) (List.append_nil _)

/-- **A name or value is found again in its encoded form.** -/
theorem decode_encode (s : List Char) : decode (encode s) = s := by
  have hoctets : percentDecode (utf8 ((encode s).map spaced)) = utf8 s := by
    induction s with
    | nil => rfl
    | cons c s ih =>
      rw [encode_cons, List.map_append, Utf8.utf8_append, percentDecode_encodeOne, ih,
        Utf8.utf8_cons]
  exact (congrArg Utf8.decodeLossy hoctets).trans (Utf8.decodeLossy_utf8 s)

/-! ## Entries -/

/-- The name and the value that an entry stands for. -/
def Entry.value : Entry → List Char × List Char
  | .pair n v => (n, v)
  | .name n => (n, [])

theorem Entry.notMem_print {d : Char} (hd : d ∈ ['&', '#']) (e : Entry) : d ∉ e.print := by
  have hsub : ∀ d ∈ ['&', '#'], d ∈ ['&', '=', '#'] ∧ d ≠ '=' :=
    List.forall_iff_forall_mem.mp (by decide)
  obtain ⟨hmem, hne⟩ := hsub d hd
  cases e with
  | pair n v =>
    rw [print, List.mem_append, List.mem_cons, not_or, not_or]
    exact ⟨notMem_encode hmem n, hne, notMem_encode hmem v⟩
  | name n => exact notMem_encode hmem n

/-- No form has the character that ends a query. -/
theorem hash_notMem_print (es : List Entry) : '#' ∉ print es := by
  intro h
  rcases Text.mem_join h with hsep | ⟨p, hp, h⟩
  · exact absurd hsep (by decide)
  · obtain ⟨e, -, rfl⟩ := List.mem_map.mp hp
    exact e.notMem_print (by decide) h

theorem readPair_print (e : Entry) : readPair e.print = e.value := by
  cases e with
  | pair n v =>
    rw [readPair, Entry.print, Text.cutFirst?_append_cons _ (notMem_encode (by decide) n)]
    exact Prod.ext (decode_encode n) (decode_encode v)
  | name n =>
    rw [readPair, Entry.print, Text.cutFirst?_eq_none_iff.mpr (notMem_encode (by decide) n)]
    exact Prod.ext (decode_encode n) rfl

/-- **A form that is written is read as the same names and values.** -/
theorem pairs_print {es : List Entry} (hne : es ≠ []) (h : ∀ e ∈ es, e.print ≠ []) :
    pairs (print es) = es.map Entry.value := by
  have hsplit : Text.splitOn '&' (print es) = es.map Entry.print := by
    refine Text.splitOn_join (mt List.map_eq_nil_iff.mp hne) fun p hp => ?_
    obtain ⟨e, -, rfl⟩ := List.mem_map.mp hp
    exact e.notMem_print (by decide)
  have hkept : (es.map Entry.print).filter (· ≠ []) = es.map Entry.print := by
    refine List.filter_eq_self.mpr fun p hp => ?_
    obtain ⟨e, he, rfl⟩ := List.mem_map.mp hp
    exact decide_eq_true (h e he)
  rw [pairs, hsplit, hkept, List.map_map]
  exact List.map_congr_left fun e _ => readPair_print e

end Form

end LogEgress.Url
