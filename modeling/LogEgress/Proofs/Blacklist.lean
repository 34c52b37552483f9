import LogEgress.Blacklist
import LogEgress.Proofs.Except
import LogEgress.Proofs.Ip
import LogEgress.Proofs.Text.Blank

set_option autoImplicit false

/-! # Which destinations a text forbids

A text forbids what lies in the ranges between its commas. What a part of it comes to is said by
two relations, `IsRange` for a range and `HasFault` for what is wrong. A text is read if
each of its parts is a range, and its fault is that of the first part that is none
(`parts_decide`). Ranges that are written in any of the usual ways are read as they are
(`parse_join`).
-/

namespace LogEgress

namespace Blacklist

/-- The parts of a text between commas, without blanks around them. Empty ones do not count. -/
def parts (s : List Char) : List (List Char) :=
  ((Text.splitOn ',' s).map Text.trim).filter (· ≠ [])

/-- The texts before and after the first dash. -/
def Cut (part first last : List Char) : Prop := part = first ++ '-' :: last ∧ '-' ∉ first

/-- A part is a range: on either side of its first dash there is an address, and these are the ends
of the range. -/
def IsRange (part : List Char) (r : IpRange) : Prop :=
  ∃ first last, Cut part first last ∧ IpAddr.parse? (Text.trim first) = some r.first ∧
    IpAddr.parse? (Text.trim last) = some r.last

/-- What is wrong with a part that is not a range. -/
inductive HasFault (part : List Char) : RangeFault → Prop
  | malformed (uncut : '-' ∉ part) : HasFault part (.malformed (String.ofList part))
  | badFirst {first last : List Char} (cut : Cut part first last)
      (unread : IpAddr.parse? (Text.trim first) = none) :
      HasFault part (.invalidAddress (String.ofList first))
  /-- The last end is looked at only if the first one is an address. -/
  | badLast {first last : List Char} {x : IpAddr} (cut : Cut part first last)
      (begins : IpAddr.parse? (Text.trim first) = some x)
      (unread : IpAddr.parse? (Text.trim last) = none) :
      HasFault part (.invalidAddress (String.ofList last))
  | reversed {first last : List Char} {x y : IpAddr} (cut : Cut part first last)
      (begins : IpAddr.parse? (Text.trim first) = some x)
      (ends : IpAddr.parse? (Text.trim last) = some y) (after : y.value < x.value) :
      HasFault part (.reversed (String.ofList first) (String.ofList last))

theorem cut_iff {part first last : List Char} :
    Cut part first last ↔ Text.cutFirst? '-' part = some (first, last) :=
  Text.cutFirst?_eq_some_iff.symm

/-! ## One part -/

theorem readPart_of_cut {part first last : List Char} (h : Cut part first last) :
    readPart part = IpRange.read first last := by
  rw [readPart, cut_iff.mp h]

theorem readEnd_of_some {s : List Char} {x : IpAddr} (h : IpAddr.parse? (Text.trim s) = some x) :
    IpRange.readEnd s = .ok x := by
  rw [IpRange.readEnd, h]

theorem readEnd_of_none {s : List Char} (h : IpAddr.parse? (Text.trim s) = none) :
    IpRange.readEnd s = .error (.invalidAddress (String.ofList s)) := by
  rw [IpRange.readEnd, h]

theorem readPart_of_isRange {part : List Char} {r : IpRange} (h : IsRange part r) :
    readPart part = .ok r := by
  obtain ⟨first, last, hcut, hfirst, hlast⟩ := h
  rw [readPart_of_cut hcut, IpRange.read, readEnd_of_some hfirst, readEnd_of_some hlast]
  exact dif_pos r.ordered

theorem readPart_of_hasFault {part : List Char} {f : RangeFault} (h : HasFault part f) :
    readPart part = .error f := by
  cases h with
  | malformed uncut => rw [readPart, Text.cutFirst?_eq_none_iff.mpr uncut]
  | badFirst cut unread =>
    rw [readPart_of_cut cut, IpRange.read, readEnd_of_none unread]
    rfl
  | badLast cut begins unread =>
    rw [readPart_of_cut cut, IpRange.read, readEnd_of_some begins, readEnd_of_none unread]
    rfl
  | reversed cut begins ends after =>
    rw [readPart_of_cut cut, IpRange.read, readEnd_of_some begins, readEnd_of_some ends]
    exact dif_neg (Nat.not_le_of_lt after)

/-- A part is a range, or else something is wrong with it. -/
theorem isRange_or_hasFault (part : List Char) :
    (∃ r, IsRange part r) ∨ ∃ f, HasFault part f := by
  cases hcut : Text.cutFirst? '-' part with
  | none => exact .inr ⟨_, .malformed (Text.cutFirst?_eq_none_iff.mp hcut)⟩
  | some ends =>
    obtain ⟨first, last⟩ := ends
    have hcut := cut_iff.mpr hcut
    cases hfirst : IpAddr.parse? (Text.trim first) with
    | none => exact .inr ⟨_, .badFirst hcut hfirst⟩
    | some x =>
      cases hlast : IpAddr.parse? (Text.trim last) with
      | none => exact .inr ⟨_, .badLast hcut hfirst hlast⟩
      | some y =>
        by_cases hle : x.value ≤ y.value
        · exact .inl ⟨⟨x, y, hle⟩, first, last, hcut, hfirst, hlast⟩
        · exact .inr ⟨_, .reversed hcut hfirst hlast (Nat.lt_of_not_le hle)⟩

theorem readPart_eq_ok_iff {part : List Char} {r : IpRange} :
    readPart part = .ok r ↔ IsRange part r := by
  constructor
  · intro h
    rcases isRange_or_hasFault part with ⟨r', hr⟩ | ⟨f, hf⟩
    · rw [readPart_of_isRange hr] at h
      cases h
      exact hr
    · rw [readPart_of_hasFault hf] at h
      cases h
  · exact readPart_of_isRange

theorem readPart_eq_error_iff {part : List Char} {f : RangeFault} :
    readPart part = .error f ↔ HasFault part f := by
  constructor
  · intro h
    rcases isRange_or_hasFault part with ⟨r, hr⟩ | ⟨f', hf⟩
    · rw [readPart_of_isRange hr] at h
      cases h
    · rw [readPart_of_hasFault hf] at h
      cases h
      exact hf
  · exact readPart_of_hasFault

/-! ## All parts -/

theorem parse_eq_ok_iff {s : List Char} {bl : Blacklist} :
    parse s = .ok bl ↔ List.Forall₂ IsRange (parts s) bl := by
  calc parse s = .ok bl
      ↔ List.Forall₂ (fun part r => readPart part = .ok r) (parts s) bl := mapM_eq_ok_iff
    _ ↔ List.Forall₂ IsRange (parts s) bl := by simp only [readPart_eq_ok_iff]

theorem parse_eq_error_iff {s : List Char} {f : RangeFault} :
    parse s = .error f ↔ ∃ front part back, parts s = front ++ part :: back ∧
      (∀ p ∈ front, ∃ r, IsRange p r) ∧ HasFault part f := by
  calc parse s = .error f
      ↔ ∃ front part back, parts s = front ++ part :: back ∧
          (∀ p ∈ front, ∃ r, readPart p = .ok r) ∧ readPart part = .error f := mapM_eq_error_iff
    _ ↔ _ := by simp only [readPart_eq_ok_iff, readPart_eq_error_iff]

/-! ## Membership -/

theorem contains_iff {r : IpRange} {x : IpAddr} :
    r.contains x = true ↔ r.first.value ≤ x.value ∧ x.value ≤ r.last.value := by
  simp only [IpRange.contains, Bool.and_eq_true, decide_eq_true_eq]

/-- What is forbidden lies in the range of some part. -/
theorem forbids_iff_of_parse {s : List Char} {bl : Blacklist} (h : parse s = .ok bl) (x : IpAddr) :
    bl.forbids x = true ↔ ∃ part ∈ parts s, ∃ r, IsRange part r ∧
      r.first.value ≤ x.value ∧ x.value ≤ r.last.value := by
  rw [forbids, List.any_eq_true]
  constructor
  · rintro ⟨r, hr, hx⟩
    obtain ⟨part, hpart, hread⟩ := (mem_iff_of_mapM_eq_ok h r).mp hr
    exact ⟨part, hpart, r, readPart_eq_ok_iff.mp hread, contains_iff.mp hx⟩
  · rintro ⟨part, hpart, r, hrange, hx⟩
    have hr := (mem_iff_of_mapM_eq_ok h r).mpr ⟨part, hpart, readPart_of_isRange hrange⟩
    exact ⟨r, hr, contains_iff.mpr hx⟩

theorem forbids_mapped (bl : Blacklist) (x : Ipv4) :
    bl.forbids (.v6 x.mapped) = bl.forbids (.v4 x) := rfl

/-! ## Writing and reading -/

/-- A way to write a range: its ends around a dash, and blanks around the ends. -/
inductive Written (r : IpRange) : List Char → Prop
  | intro {b₁ b₂ b₃ b₄ : List Char} (blank₁ : ∀ c ∈ b₁, Text.isBlank c = true)
      (blank₂ : ∀ c ∈ b₂, Text.isBlank c = true) (blank₃ : ∀ c ∈ b₃, Text.isBlank c = true)
      (blank₄ : ∀ c ∈ b₄, Text.isBlank c = true) :
      Written r (b₁ ++ r.first.print ++ b₂ ++ '-' :: (b₃ ++ r.last.print ++ b₄))

/-- An address in print has no blanks, and none of the marks between addresses. -/
theorem not_mark_of_mem_print {x : IpAddr} {c : Char} (h : c ∈ x.print) :
    Text.isBlank c = false ∧ c ≠ '-' ∧ c ≠ ',' := by
  have hdigits : ∀ d < 16, Text.isBlank (Nat.digitChar d) = false ∧ Nat.digitChar d ≠ '-' ∧
      Nat.digitChar d ≠ ',' := by decide
  rcases IpAddr.mem_print h with rfl | rfl | ⟨d, hd, rfl⟩
  · decide
  · decide
  · exact hdigits d hd

theorem isBlank_head_print (x : IpAddr) : Text.isBlank (x.print.head x.print_ne_nil) = false :=
  (not_mark_of_mem_print (List.head_mem x.print_ne_nil)).1

theorem isBlank_getLast_print (x : IpAddr) :
    Text.isBlank (x.print.getLast x.print_ne_nil) = false :=
  (not_mark_of_mem_print (List.getLast_mem x.print_ne_nil)).1

/-- An address among blanks is read as it is. -/
theorem parse?_trim {before after : List Char} (hbefore : ∀ c ∈ before, Text.isBlank c = true)
    (hafter : ∀ c ∈ after, Text.isBlank c = true) (x : IpAddr) :
    IpAddr.parse? (Text.trim (before ++ x.print ++ after)) = some x := by
  rw [Text.trim_surrounded hbefore hafter x.print_ne_nil (isBlank_head_print x)
    (isBlank_getLast_print x), IpAddr.parse?_print]

/-- A mark does not stand among blanks and an address. -/
theorem notMem_of_blank {before after : List Char} (hbefore : ∀ c ∈ before, Text.isBlank c = true)
    (hafter : ∀ c ∈ after, Text.isBlank c = true) (x : IpAddr) {mark : Char}
    (hmark : mark = '-' ∨ mark = ',') : mark ∉ before ++ x.print ++ after := by
  have hblank : Text.isBlank mark = false := by rcases hmark with rfl | rfl <;> decide
  intro h
  rw [List.mem_append, List.mem_append] at h
  rcases h with (h | h) | h
  · rw [hbefore mark h] at hblank
    cases hblank
  · obtain ⟨-, hdash, hcomma⟩ := not_mark_of_mem_print h
    exact hmark.elim hdash hcomma
  · rw [hafter mark h] at hblank
    cases hblank

/-- A range that is written is a part, and this part is read as the range. -/
theorem Written.isRange {r : IpRange} {p : List Char} (h : Written r p) :
    ',' ∉ p ∧ Text.trim p ≠ [] ∧ IsRange (Text.trim p) r := by
  obtain @⟨b₁, b₂, b₃, b₄, h₁, h₂, h₃, h₄⟩ := h
  -- Without the blanks on either side it begins and ends with an address.
  have hne : r.first.print ++ b₂ ++ '-' :: (b₃ ++ r.last.print) ≠ [] := by simp
  have hhead : Text.isBlank ((r.first.print ++ b₂ ++ '-' :: (b₃ ++ r.last.print)).head hne) =
      false := by
    simp only [List.append_assoc, List.head_append_of_ne_nil r.first.print_ne_nil]
    exact isBlank_head_print r.first
  have hlast : Text.isBlank ((r.first.print ++ b₂ ++ '-' :: (b₃ ++ r.last.print)).getLast hne) =
      false := by
    have hsplit : r.first.print ++ b₂ ++ '-' :: (b₃ ++ r.last.print) =
        (r.first.print ++ b₂ ++ '-' :: b₃) ++ r.last.print := by
      rw [List.append_assoc, List.append_assoc, List.cons_append, List.append_assoc]
    simp only [hsplit, List.getLast_append_of_ne_nil _ r.last.print_ne_nil]
    exact isBlank_getLast_print r.last
  have htrim : Text.trim (b₁ ++ r.first.print ++ b₂ ++ '-' :: (b₃ ++ r.last.print ++ b₄)) =
      r.first.print ++ b₂ ++ '-' :: (b₃ ++ r.last.print) := by
    have htrim := Text.trim_surrounded h₁ h₄ hne hhead hlast
    simpa using htrim
  rw [htrim]
  have hnone : ∀ c ∈ ([] : List Char), Text.isBlank c = true := nofun
  refine ⟨?_, hne, r.first.print ++ b₂, b₃ ++ r.last.print, ⟨rfl, ?_⟩, ?_, ?_⟩
  · have hfront := notMem_of_blank h₁ h₂ r.first (.inr rfl)
    have hback := notMem_of_blank h₃ h₄ r.last (.inr rfl)
    rw [List.mem_append, List.mem_cons, not_or, not_or]
    exact ⟨hfront, by decide, hback⟩
  · exact notMem_of_blank hnone h₂ r.first (.inl rfl)
  · exact parse?_trim hnone h₂ r.first
  · have hread := parse?_trim h₃ hnone r.last
    rwa [List.append_nil] at hread

theorem parts_join_pieces {ps : List (List Char)} (hne : ps ≠ []) (h : ∀ p ∈ ps, ',' ∉ p) :
    parts (Text.join [','] ps) = (ps.map Text.trim).filter (· ≠ []) := by
  rw [parts, Text.splitOn_join hne h]

/-- The parts of what is written are its pieces. -/
theorem parts_join {rs : List IpRange} {ps : List (List Char)} (h : List.Forall₂ Written rs ps) :
    parts (Text.join [','] ps) = ps.map Text.trim := by
  have hwritten : ∀ p ∈ ps, ',' ∉ p ∧ Text.trim p ≠ [] := by
    intro p hp
    obtain ⟨r, hr⟩ := exists_of_forall₂ h.flip p hp
    exact ⟨hr.isRange.1, hr.isRange.2.1⟩
  by_cases hnil : ps = []
  · subst hnil
    rfl
  · rw [parts_join_pieces hnil fun p hp => (hwritten p hp).1, List.filter_eq_self]
    intro t ht
    obtain ⟨p, hp, rfl⟩ := List.mem_map.mp ht
    exact decide_eq_true (hwritten p hp).2

/-- **Ranges that are written are read as they are**, in their order. -/
theorem parse_join {rs : List IpRange} {ps : List (List Char)} (h : List.Forall₂ Written rs ps) :
    parse (Text.join [','] ps) = .ok rs := by
  rw [parse_eq_ok_iff, parts_join h, List.forall₂_map_left_iff]
  exact h.flip.imp fun p r hwritten => hwritten.isRange.2.2

/-! ## What a text forbids -/

/-- **The parts of a text decide.** A text is read if each of its parts is a range, and as these
ranges; otherwise its fault is that of the first part that is none. What it forbids are the
addresses whose numbers lie between the ends of one of the ranges, both included, so that an IPv4
address and the IPv6 address that maps it are treated alike. These numbers have 128 bits, and they
are in the order of the sixteen octets of the addresses. Ranges of any addresses that are written
with blanks wherever they may stand are read as they are. -/
theorem parts_decide :
    (∀ s, (∃ bl, parse s = .ok bl) ↔ ∀ part ∈ parts s, ∃ r, IsRange part r) ∧
    (∀ s bl, parse s = .ok bl ↔ List.Forall₂ IsRange (parts s) bl) ∧
    (∀ s f, parse s = .error f ↔ ∃ front part back, parts s = front ++ part :: back ∧
      (∀ p ∈ front, ∃ r, IsRange p r) ∧ HasFault part f) ∧
    (∀ s bl x, parse s = .ok bl → (bl.forbids x = true ↔ ∃ part ∈ parts s, ∃ r, IsRange part r ∧
      r.first.value ≤ x.value ∧ x.value ≤ r.last.value)) ∧
    (∀ (bl : Blacklist) (x : Ipv4), bl.forbids (.v6 x.mapped) = bl.forbids (.v4 x)) ∧
    (∀ x y : IpAddr, x.value < 2 ^ 128 ∧ (x.value ≤ y.value ↔ x.octets ≤ y.octets)) ∧
    (∀ rs ps, List.Forall₂ Written rs ps → parse (Text.join [','] ps) = .ok rs) := by
  refine ⟨fun s => ?_, fun s bl => parse_eq_ok_iff, fun s f => parse_eq_error_iff,
    fun s bl x h => forbids_iff_of_parse h x, forbids_mapped,
    fun x y => ⟨x.value_lt, IpAddr.value_le_iff⟩, fun rs ps h => parse_join h⟩
  constructor
  · rintro ⟨bl, h⟩
    exact exists_of_forall₂ (parse_eq_ok_iff.mp h)
  · intro h
    cases hparse : parse s with
    | ok bl => exact ⟨bl, rfl⟩
    | error f =>
      -- The part at fault is no range.
      obtain ⟨front, part, back, hparts, -, hfault⟩ := parse_eq_error_iff.mp hparse
      obtain ⟨r, hr⟩ := h part (hparts ▸ List.mem_append_right front List.mem_cons_self)
      have hread := readPart_of_isRange hr
      rw [readPart_of_hasFault hfault] at hread
      cases hread

/-- Two ranges over both families with blanks of several kinds around their ends, and an address
that is forbidden by the first one. -/
theorem parts_decide_at_mixed_families :
    let low : IpRange := ⟨.v4 ⟨10, 0, 0, 0⟩, .v6 (Ipv4.mapped ⟨10, 0, 0, 9⟩), by decide +kernel⟩
    let zero : IpRange := ⟨.v6 ⟨List.replicate 8 0, rfl⟩, .v4 ⟨0, 0, 0, 0⟩, by decide +kernel⟩
    let ps := ["\t10.0.0.0 -::ffff:10.0.0.9".toList, " ::-\u20030.0.0.0\n".toList]
    List.Forall₂ Written [low, zero] ps ∧ parse (Text.join [','] ps) = .ok [low, zero] ∧
      ∃ part ∈ parts (Text.join [','] ps), ∃ r, IsRange part r ∧
        r.first.value ≤ (IpAddr.v4 ⟨10, 0, 0, 7⟩).value ∧
        (IpAddr.v4 ⟨10, 0, 0, 7⟩).value ≤ r.last.value := by
  intro low zero ps
  have hlow : Written low "\t10.0.0.0 -::ffff:10.0.0.9".toList := by
    have htext : "\t10.0.0.0 -::ffff:10.0.0.9".toList =
        ['\t'] ++ low.first.print ++ [' '] ++ '-' :: ([] ++ low.last.print ++ []) := by
      decide +kernel
    exact htext ▸ .intro (List.all_eq_true.mp rfl) (List.all_eq_true.mp rfl) nofun nofun
  have hzero : Written zero " ::-\u20030.0.0.0\n".toList := by
    have htext : " ::-\u20030.0.0.0\n".toList =
        [' '] ++ zero.first.print ++ [] ++ '-' :: (['\u2003'] ++ zero.last.print ++ ['\n']) := by
      decide +kernel
    exact htext ▸ .intro (List.all_eq_true.mp rfl) nofun (List.all_eq_true.mp rfl)
      (List.all_eq_true.mp rfl)
  have hwritten : List.Forall₂ Written [low, zero] ps := .cons hlow (.cons hzero .nil)
  obtain ⟨-, -, -, hforbids, -, -, hparse⟩ := parts_decide
  have hread := hparse _ _ hwritten
  exact ⟨hwritten, hread, (hforbids _ _ (.v4 ⟨10, 0, 0, 7⟩) hread).mp (by decide +kernel)⟩

end Blacklist

end LogEgress
