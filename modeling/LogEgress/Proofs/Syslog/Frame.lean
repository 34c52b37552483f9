import LogEgress.Proofs.Text.Utf8
import LogEgress.Syslog.Message

set_option autoImplicit false

/-! # Frames are taken apart again

A frame ends where its length says, so the messages of a stream of frames are found again whatever
octets they hold (`deframe_frames`). The beginning of a frame, short of all of it, is no frame, and
a receiver waits for the rest (`deframe_of_beginning`).
-/

namespace LogEgress.Syslog

/-! ## Lengths -/

theorem toNat_of_isDigit {c : Char} (h : c.isDigit = true) : 48 ≤ c.toNat ∧ c.toNat ≤ 57 := by
  simp only [Char.isDigit, Bool.and_eq_true, decide_eq_true_eq, ge_iff_le,
    UInt32.le_iff_toNat_le] at h
  exact h

/-- The octet of a digit. -/
theorem exists_octet_of_isDigit {c : Char} (h : c.isDigit = true) :
    ∃ b, String.utf8EncodeChar c = [b] ∧ isDigit b = true ∧ b ≠ 32 ∧ b.toNat = c.toNat := by
  obtain ⟨hlow, hhigh⟩ := toNat_of_isDigit h
  have hself : (UInt8.ofNat c.toNat).toNat = c.toNat := Utf8.toNat_octet (by omega)
  refine ⟨_, Utf8.utf8EncodeChar_of_lt (by omega), ?_, ?_, hself⟩
  · rw [isDigit, hself, decide_eq_true hlow, decide_eq_true hhigh]
    rfl
  · intro hspace
    rw [hspace] at hself
    have : (32 : UInt8).toNat = 32 := rfl
    omega

/-- Digits are read one after the other. -/
theorem readLength_digits {ds : List Char} (h : ∀ c ∈ ds, c.isDigit = true) (n : Nat)
    (rest : Octets) :
    readLength n (utf8 ds ++ rest) = readLength (Nat.ofDigitChars 10 ds n) rest := by
  induction ds generalizing n with
  | nil => rfl
  | cons c ds ih =>
    obtain ⟨b, hutf8, hdigit, hspace, hvalue⟩ := exists_octet_of_isDigit (h c List.mem_cons_self)
    rw [Utf8.utf8_cons, hutf8, List.append_assoc, List.singleton_append, readLength,
      if_neg hspace, if_pos hdigit, ih fun d hd => h d (List.mem_cons_of_mem c hd), hvalue]
    rfl

/-! ## One frame -/

/-- **A frame is taken off as its message.** -/
theorem cutFrame?_frame (message rest : Octets) :
    cutFrame? (frame message ++ rest) = some (message, rest) := by
  have hall : ∀ c ∈ Nat.toDigits 10 message.length, c.isDigit = true := fun c hc =>
    Nat.isDigit_of_mem_toDigits (by omega) (by omega) hc
  have hvalue : Nat.ofDigitChars 10 (Nat.toDigits 10 message.length) 0 = message.length :=
    Nat.ofDigitChars_toDigits (by omega) (by omega)
  have hspace : utf8 [' '] = [32] := by decide
  cases hds : Nat.toDigits 10 message.length with
  | nil => exact absurd hds Nat.toDigits_ne_nil
  | cons c ds =>
    rw [hds] at hall hvalue
    obtain ⟨b, hutf8, hdigit, -, hb⟩ := exists_octet_of_isDigit (hall c List.mem_cons_self)
    have hlength : readLength (b.toNat - 48) (utf8 ds ++ 32 :: (message ++ rest)) =
        some (message.length, message ++ rest) := by
      have hfirst : Nat.ofDigitChars 10 ds (b.toNat - 48) = message.length := by
        rw [← hvalue, hb]
        show _ = Nat.ofDigitChars 10 ds (10 * 0 + (c.toNat - 48))
        rw [Nat.mul_zero, Nat.zero_add]
      rw [readLength_digits fun d hd => hall d (List.mem_cons_of_mem c hd), hfirst]
      exact if_pos rfl
    have hfits : message.length ≤ (message ++ rest).length := by
      rw [List.length_append]
      exact Nat.le_add_right _ _
    have hframe : frame message ++ rest = b :: (utf8 ds ++ 32 :: (message ++ rest)) := by
      rw [frame, hds, Utf8.utf8_append, hspace, Utf8.utf8_cons, hutf8]
      simp only [List.append_assoc, List.cons_append, List.nil_append]
    rw [hframe, cutFrame?, if_pos hdigit, hlength]
    simp only [if_pos hfits, List.take_left, List.drop_left]

theorem readLength_append {n k : Nat} {o rest : Octets} (h : readLength n o = some (k, rest))
    (more : Octets) : readLength n (o ++ more) = some (k, rest ++ more) := by
  induction o generalizing n with
  | nil => cases h
  | cons b r ih =>
    rw [readLength] at h
    rw [List.cons_append, readLength]
    split at h
    · next hspace =>
      cases h
      rw [if_pos hspace]
    · next hspace =>
      rw [if_neg hspace]
      split at h
      · next hdigit =>
        rw [if_pos hdigit]
        exact ih h
      · cases h

/-- What follows a frame does not matter to it. -/
theorem cutFrame?_append {o message rest : Octets} (h : cutFrame? o = some (message, rest))
    (more : Octets) : cutFrame? (o ++ more) = some (message, rest ++ more) := by
  cases o with
  | nil => cases h
  | cons b r =>
    rw [cutFrame?] at h
    split at h
    · next hdigit =>
      split at h
      · next k left hk =>
        split at h
        · next hle =>
          cases h
          have hmore : k ≤ (left ++ more).length := by
            rw [List.length_append]
            omega
          rw [List.cons_append, cutFrame?, if_pos hdigit, readLength_append hk more]
          simp only [if_pos hmore, List.take_append_of_le_length hle,
            List.drop_append_of_le_length hle]
        · cases h
      · cases h
    · cases h

/-- A beginning of a frame that is no whole frame is not taken for one. -/
theorem cutFrame?_of_beginning {part message : Octets} (h : part <+: frame message)
    (hne : part ≠ frame message) : cutFrame? part = none := by
  obtain ⟨more, hmore⟩ := h
  cases hcut : cutFrame? part with
  | none => rfl
  | some cut =>
    obtain ⟨taken, rest⟩ := cut
    have hwhole : cutFrame? (frame message) = some (message, []) := by
      have := cutFrame?_frame message []
      rwa [List.append_nil] at this
    rw [← hmore, cutFrame?_append hcut more] at hwhole
    obtain ⟨-, hnil⟩ := Prod.mk.inj (Option.some.inj hwhole)
    rw [(List.append_eq_nil_iff.mp hnil).2, List.append_nil] at hmore
    exact absurd hmore hne

/-! ## Streams of frames -/

theorem deframe_of_none {o : Octets} (h : cutFrame? o = none) : deframe o = ([], o) := by
  rw [deframe]
  split
  · next hcut =>
    rw [h] at hcut
    cases hcut
  · rfl

theorem deframe_nil : deframe [] = ([], []) := deframe_of_none rfl

theorem deframe_frame_append (message rest : Octets) :
    deframe (frame message ++ rest) = (message :: (deframe rest).1, (deframe rest).2) := by
  rw [deframe]
  split
  · next hcut =>
    rw [cutFrame?_frame] at hcut
    cases hcut
    rfl
  · next hcut =>
    rw [cutFrame?_frame] at hcut
    cases hcut

/-- **The messages of a stream of frames are found again**, and then what follows the frames. -/
theorem deframe_frames (messages : List Octets) (rest : Octets) :
    deframe (messages.flatMap frame ++ rest) =
      (messages ++ (deframe rest).1, (deframe rest).2) := by
  induction messages with
  | nil => rfl
  | cons message messages ih =>
    rw [List.flatMap_cons, List.append_assoc, deframe_frame_append, ih]
    rfl

/-- A frame that is cut short is left over. -/
theorem deframe_of_beginning {part message : Octets} (h : part <+: frame message)
    (hne : part ≠ frame message) : deframe part = ([], part) :=
  deframe_of_none (cutFrame?_of_beginning h hne)

end LogEgress.Syslog
