import LogEgress.Proofs.Ip.Value
import LogEgress.Proofs.Text.Split
import Mathlib.Data.List.TakeWhile

set_option autoImplicit false

/-! # Printed addresses are read again

An address that is printed is read as the address that it is (`IpAddr.parse?_print`), also an IPv6
address in groups alone (`IpAddr.parse?_printHex`). The groups are hexadecimal numbers of at most
four digits, so the colons between them can be told from the pair of colons that stands for the
longest run of zeros. An IPv4 address is told by its dots.
-/

namespace LogEgress

namespace Ipv6

/-! ## Groups -/

theorem hexDigit?_digitChar {d : Nat} (h : d < 16) :
    Text.hexDigit? (Nat.digitChar d) = some d := by
  revert d
  decide

/-- The digits of a number are read as the number. The induction takes off the last digit. -/
theorem mapM_hexDigit?_toDigits (n : Nat) :
    ∃ ds, (Nat.toDigits 16 n).mapM Text.hexDigit? = some ds ∧
      ds.foldl (fun n d => n * 16 + d) 0 = n := by
  induction n using Nat.strong_induction_on with
  | _ n ih =>
    by_cases h : n < 16
    · refine ⟨[n], ?_, by simp⟩
      rw [Nat.toDigits_of_lt_base h, List.mapM_cons, hexDigit?_digitChar h]
      rfl
    · have hsmaller : n / 16 < n := by omega
      have hdigit : n % 16 < 16 := by omega
      obtain ⟨ds, hds, hfold⟩ := ih (n / 16) hsmaller
      refine ⟨ds ++ [n % 16], ?_, ?_⟩
      · rw [Nat.toDigits_of_base_le (by omega) (Nat.le_of_not_lt h), List.mapM_append, hds,
          List.mapM_cons, hexDigit?_digitChar hdigit]
        rfl
      · rw [List.foldl_append, hfold]
        show n / 16 * 16 + n % 16 = n
        omega

theorem mem_toDigits {base n : Nat} {c : Char} (hbase : 1 < base) (h : c ∈ Nat.toDigits base n) :
    ∃ d < base, c = Nat.digitChar d := by
  induction n using Nat.strong_induction_on with
  | _ n ih =>
    by_cases hn : n < base
    · rw [Nat.toDigits_of_lt_base hn, List.mem_singleton] at h
      exact ⟨n, hn, h⟩
    · have hle : base ≤ n := Nat.le_of_not_lt hn
      rw [Nat.toDigits_of_base_le hbase hle, List.mem_append, List.mem_singleton] at h
      rcases h with h | h
      · exact ih (n / base) (Nat.div_lt_self (by omega) hbase) h
      · exact ⟨n % base, Nat.mod_lt n (by omega), h⟩

theorem printGroup_ne_nil (g : UInt16) : printGroup g ≠ [] := Nat.toDigits_ne_nil

/-- A character of a printed group is a digit, and none of those with a meaning in a host. -/
theorem notMem_printGroup {c : Char} (hc : c ∈ [':', '.', '[', ']']) (g : UInt16) :
    c ∉ printGroup g := by
  have hdigits : ∀ d < 16, Nat.digitChar d ∉ [':', '.', '[', ']'] := by decide
  intro h
  obtain ⟨d, hd, rfl⟩ := mem_toDigits (by decide) h
  exact hdigits d hd hc

theorem group?_printGroup (g : UInt16) : group? (printGroup g) = some g := by
  have hbound : g.toNat < 16 ^ 4 := g.toNat_lt
  have hlength : ¬ (printGroup g).length > 4 :=
    Nat.not_lt.2 ((Nat.length_toDigits_le_iff (by omega) (by omega)).2 hbound)
  obtain ⟨ds, hds, hfold⟩ := mapM_hexDigit?_toDigits g.toNat
  rw [group?, if_neg (not_or.2 ⟨printGroup_ne_nil g, hlength⟩), printGroup, hds, Option.map_some,
    hfold, UInt16.ofNat_toNat]

theorem mapM_group?_printGroup (gs : List UInt16) :
    (gs.map printGroup).mapM group? = some gs := by
  induction gs with
  | nil => rfl
  | cons g gs ih =>
    rw [List.map_cons, List.mapM_cons, group?_printGroup, ih]
    rfl

theorem groups?_printGroup (gs : List UInt16) : groups? (gs.map printGroup) = some gs := by
  induction gs with
  | nil => rfl
  | cons g gs ih =>
    cases gs with
    | nil =>
      have hdot : '.' ∉ printGroup g := notMem_printGroup (by decide) g
      rw [List.map_cons, List.map_nil, groups?, if_neg hdot, group?_printGroup, Option.map_some]
    | cons g' gs =>
      rw [List.map_cons, List.map_cons, groups?, ← List.map_cons, group?_printGroup, ih]
      · rfl
      · exact List.cons_ne_nil _ _

/-! ## Colons -/

theorem cutColons?_cons_of_ne {c : Char} (h : c ≠ ':') (s : List Char) :
    cutColons? (c :: s) = (cutColons? s).map fun (a, b) => (c :: a, b) := by
  rw [cutColons?]
  rintro t rfl
  exact absurd rfl h

theorem cutColons?_append_of_notMem {p : List Char} (h : ':' ∉ p) (s : List Char) :
    cutColons? (p ++ s) = (cutColons? s).map fun (a, b) => (p ++ a, b) := by
  induction p with
  | nil =>
    rw [List.nil_append]
    cases cutColons? s <;> rfl
  | cons c p ih =>
    rw [List.mem_cons, not_or] at h
    rw [List.cons_append, cutColons?_cons_of_ne (Ne.symm h.1), ih h.2]
    cases cutColons? s <;> rfl

/-- A colon before another character is not cut at. -/
theorem cutColons?_single_colon {c : Char} (h : c ≠ ':') (s : List Char) :
    cutColons? (':' :: c :: s) = (cutColons? (c :: s)).map fun (a, b) => (':' :: a, b) := by
  rw [cutColons?]
  rintro t - ht
  exact absurd (List.cons.inj ht).1 h

/-- The single colons between pieces are not cut at. -/
theorem cutColons?_join_append {ps : List (List Char)}
    (h : ∀ p ∈ ps, p ≠ [] ∧ ':' ∉ p) (s : List Char) :
    cutColons? (Text.join [':'] ps ++ s) =
      (cutColons? s).map fun (a, b) => (Text.join [':'] ps ++ a, b) := by
  induction ps with
  | nil =>
    rw [Text.join, List.nil_append]
    cases cutColons? s <;> rfl
  | cons p ps ih =>
    have hp := (h p List.mem_cons_self).2
    cases ps with
    | nil => exact cutColons?_append_of_notMem hp s
    | cons q ps =>
      have hrest := ih fun x hx => h x (List.mem_cons_of_mem p hx)
      obtain ⟨hne, hq⟩ := h q (List.mem_cons_of_mem p List.mem_cons_self)
      -- What follows the colon begins with a character of the next piece.
      obtain ⟨c, r, hc, hcr⟩ : ∃ c r, c ≠ ':' ∧ Text.join [':'] (q :: ps) ++ s = c :: r := by
        obtain ⟨c, q', rfl⟩ := List.exists_cons_of_ne_nil hne
        rw [List.mem_cons, not_or] at hq
        cases ps with
        | nil => exact ⟨c, q' ++ s, Ne.symm hq.1, rfl⟩
        | cons q'' ps =>
          exact ⟨c, q' ++ [':'] ++ Text.join [':'] (q'' :: ps) ++ s, Ne.symm hq.1, rfl⟩
      have hcolon : cutColons? (':' :: (Text.join [':'] (q :: ps) ++ s)) =
          (cutColons? s).map fun (a, b) => (':' :: (Text.join [':'] (q :: ps) ++ a), b) := by
        rw [hcr, cutColons?_single_colon hc, ← hcr, hrest]
        cases cutColons? s <;> rfl
      rw [Text.join, List.append_assoc, List.append_assoc, List.singleton_append,
        cutColons?_append_of_notMem hp, hcolon]
      cases cutColons? s with
      | none => rfl
      | some ab => simp

theorem join_ne_nil {ps : List (List Char)} (hne : ps ≠ []) (h : ∀ p ∈ ps, p ≠ []) :
    Text.join [':'] ps ≠ [] := by
  obtain ⟨p, ps, rfl⟩ := List.exists_cons_of_ne_nil hne
  have hp := h p List.mem_cons_self
  cases ps with
  | nil => exact hp
  | cons q ps => simp [Text.join, hp]

theorem pieces_join {ps : List (List Char)} (h : ∀ p ∈ ps, p ≠ [] ∧ ':' ∉ p) :
    pieces (Text.join [':'] ps) = ps := by
  by_cases hne : ps = []
  · subst hne
    rfl
  · rw [pieces, if_neg (join_ne_nil hne fun p hp => (h p hp).1),
      Text.splitOn_join hne fun p hp => (h p hp).2]

/-! ## Addresses -/

/-- Groups in print, one colon between neighbours. -/
def colonGroups (gs : List UInt16) : List Char := Text.join [':'] (gs.map printGroup)

theorem printGroup_pieces (gs : List UInt16) :
    ∀ p ∈ gs.map printGroup, p ≠ [] ∧ ':' ∉ p := by
  intro p hp
  obtain ⟨g, -, rfl⟩ := List.mem_map.1 hp
  exact ⟨printGroup_ne_nil g, notMem_printGroup (by decide) g⟩

theorem pieces_colonGroups (gs : List UInt16) : pieces (colonGroups gs) = gs.map printGroup :=
  pieces_join (printGroup_pieces gs)

theorem cutColons?_colonGroups (gs : List UInt16) : cutColons? (colonGroups gs) = none := by
  have h := cutColons?_join_append (printGroup_pieces gs) []
  rwa [List.append_nil] at h

theorem cutColons?_colonGroups_append (front back : List UInt16) :
    cutColons? (colonGroups front ++ [':', ':'] ++ colonGroups back) =
      some (colonGroups front, colonGroups back) := by
  have hcut := cutColons?_join_append (printGroup_pieces front) ([':', ':'] ++ colonGroups back)
  rw [← List.append_assoc] at hcut
  refine hcut.trans ?_
  show some (colonGroups front ++ [], colonGroups back) = _
  rw [List.append_nil]

/-- Zeros stand where they are counted. -/
theorem take_zeros_drop (gs : List UInt16) (i : Nat) :
    gs.take i ++ List.replicate (zerosAt gs i) 0 ++ gs.drop (i + zerosAt gs i) = gs := by
  have hzeros : (gs.drop i).takeWhile (· = 0) = List.replicate (zerosAt gs i) 0 := by
    rw [List.eq_replicate_iff]
    refine ⟨rfl, fun g hg => ?_⟩
    have hzero := List.mem_takeWhile_imp (p := fun g => decide (g = 0)) hg
    exact of_decide_eq_true hzero
  have hback : gs.drop (i + zerosAt gs i) = (gs.drop i).dropWhile (· = 0) := by
    rw [← List.drop_drop]
    have hcut := List.takeWhile_append_dropWhile (p := (· = 0)) (l := gs.drop i)
    calc
      (gs.drop i).drop (zerosAt gs i)
        = ((gs.drop i).takeWhile (· = 0) ++ (gs.drop i).dropWhile (· = 0)).drop
            (zerosAt gs i) := by rw [hcut]
      _ = (gs.drop i).dropWhile (· = 0) := List.drop_left
  rw [← hzeros, hback, List.append_assoc, List.takeWhile_append_dropWhile,
    List.take_append_drop]

/-- Groups are printed all, or but for a run of zeros, for which two colons stand. -/
theorem printGroups_cases (gs : List UInt16) :
    printGroups gs = colonGroups gs ∨
      ∃ front n back, gs = front ++ List.replicate n 0 ++ back ∧ 2 ≤ n ∧
        printGroups gs = colonGroups front ++ [':', ':'] ++ colonGroups back := by
  by_cases h : zerosAt gs (longestZeros gs) < 2
  · exact .inl (if_pos h)
  · exact .inr ⟨_, _, _, (take_zeros_drop gs (longestZeros gs)).symm, Nat.not_lt.1 h, if_neg h⟩

theorem parse?_printHex (x : Ipv6) : parse? x.printHex = some x := by
  obtain ⟨gs, hlength⟩ := x
  show parse? (printGroups gs) = _
  have hof : ofGroups? gs = some ⟨gs, hlength⟩ := dif_pos hlength
  rcases printGroups_cases gs with hprint | ⟨front, n, back, hgs, hn, hprint⟩
  · -- Single colons are not cut at, so all groups are read.
    rw [hprint, parse?, cutColons?_colonGroups]
    show (groups? (pieces (colonGroups gs))).bind ofGroups? = _
    rw [pieces_colonGroups, groups?_printGroup, Option.bind_some, hof]
  · -- The zeros that are put in are as many as were left out.
    have hsum : front.length + n + back.length = 8 := by
      rw [hgs, List.length_append, List.length_append, List.length_replicate] at hlength
      exact hlength
    have hroom : front.length + back.length < 8 := by omega
    have hmissing : 8 - (front.length + back.length) = n := by omega
    rw [hprint, parse?, cutColons?_colonGroups_append]
    simp only [pieces_colonGroups, mapM_group?_printGroup, groups?_printGroup]
    show (if _ then _ else _) = _
    rw [if_pos hroom, hmissing, ← hgs, hof]

/-- Nothing but digits and colons is printed. -/
theorem mem_printHex {x : Ipv6} {c : Char} (h : c ∈ x.printHex) :
    c = ':' ∨ ∃ d < 16, c = Nat.digitChar d := by
  have hgroups (gs : List UInt16) (h : c ∈ colonGroups gs) :
      c = ':' ∨ ∃ d < 16, c = Nat.digitChar d := by
    rcases Text.mem_join h with h | ⟨p, hp, h⟩
    · exact .inl (List.mem_singleton.mp h)
    · obtain ⟨g, -, rfl⟩ := List.mem_map.mp hp
      exact .inr (mem_toDigits (by decide) h)
  rw [printHex] at h
  rcases printGroups_cases x.groups with hprint | ⟨front, n, back, -, -, hprint⟩
  · rw [hprint] at h
    exact hgroups x.groups h
  · rw [hprint, List.mem_append, List.mem_append] at h
    rcases h with (h | h) | h
    · exact hgroups front h
    · rw [List.mem_cons, List.mem_singleton, or_self] at h
      exact .inl h
    · exact hgroups back h

theorem notMem_printHex {c : Char} (hc : c ∈ ['.', '[', ']']) (x : Ipv6) : c ∉ x.printHex := by
  have hdigits : ∀ d < 16, Nat.digitChar d ∉ ['.', '[', ']'] := by decide
  intro h
  rcases mem_printHex h with rfl | ⟨d, hd, rfl⟩
  · exact absurd hc (by decide)
  · exact hdigits d hd hc

end Ipv6

/-! ## IPv4 addresses -/

namespace Ipv4

theorem parse?_of_notMem {s : List Char} (h : '.' ∉ s) : parse? s = none := by
  rw [parse?, Text.splitOn_of_notMem h]

theorem octet?_toDigits (o : UInt8) : octet? (Nat.toDigits 10 o.toNat) = some o := by
  have hall : ∀ n < 256, octet? (Nat.toDigits 10 n) = some (UInt8.ofNat n) := by decide +kernel
  rw [hall o.toNat o.toNat_lt, UInt8.ofNat_toNat]

theorem parse?_print (x : Ipv4) : parse? x.print = some x := by
  have hpieces : ∀ p ∈ [x.a, x.b, x.c, x.d].map fun o => Nat.toDigits 10 o.toNat, '.' ∉ p := by
    intro p hp hdot
    obtain ⟨o, -, rfl⟩ := List.mem_map.mp hp
    exact absurd (Nat.isDigit_of_mem_toDigits (by decide) (by decide) hdot) (by decide)
  rw [parse?, print, Text.splitOn_join (by simp) hpieces]
  simp only [List.map_cons, List.map_nil, octet?_toDigits]
  rfl

theorem isDigit_of_octet? {s : List Char} {o : UInt8} (h : octet? s = some o) :
    ∀ c ∈ s, c.isDigit = true := by
  unfold octet? at h
  split at h
  · cases h
  · rename_i hform
    simp only [not_or, Bool.not_eq_true', Bool.not_eq_false] at hform
    exact List.all_eq_true.mp hform.2.2.1

/-- Nothing but digits and dots is read as an IPv4 address. -/
theorem of_parse? {s : List Char} {x : Ipv4} (h : parse? s = some x) :
    ∀ c ∈ s, c.isDigit = true ∨ c = '.' := by
  unfold parse? at h
  split at h
  · rename_i a b c d hpieces
    simp only [Option.bind_eq_bind, Option.bind_eq_some_iff] at h
    obtain ⟨_, ha, _, hb, _, hc, _, hd, -⟩ := h
    intro x hx
    rw [← Text.join_splitOn '.' s, hpieces] at hx
    rcases Text.mem_join hx with hdot | ⟨p, hp, hxp⟩
    · exact .inr (List.mem_singleton.mp hdot)
    · left
      simp only [List.mem_cons, List.not_mem_nil, or_false] at hp
      rcases hp with rfl | rfl | rfl | rfl
      · exact isDigit_of_octet? ha x hxp
      · exact isDigit_of_octet? hb x hxp
      · exact isDigit_of_octet? hc x hxp
      · exact isDigit_of_octet? hd x hxp
  · cases h

theorem dot_mem_print (x : Ipv4) : '.' ∈ x.print := by
  simp [print, Text.join]

theorem mem_print {x : Ipv4} {c : Char} (h : c ∈ x.print) :
    c = '.' ∨ ∃ d < 16, c = Nat.digitChar d := by
  rcases Text.mem_join h with hdot | ⟨p, hp, hc⟩
  · exact .inl (List.mem_singleton.mp hdot)
  · obtain ⟨o, -, rfl⟩ := List.mem_map.mp hp
    obtain ⟨d, hd, rfl⟩ := Ipv6.mem_toDigits (by decide) hc
    exact .inr ⟨d, by omega, rfl⟩

theorem colon_notMem_print (x : Ipv4) : ':' ∉ x.print := by
  have hdigits : ∀ d < 16, ':' ≠ Nat.digitChar d := by decide
  intro h
  rcases mem_print h with hdot | ⟨d, hd, hc⟩
  · exact absurd hdot (by decide)
  · exact hdigits d hd hc

end Ipv4

/-! ## IPv6 addresses that map an IPv4 address -/

namespace Ipv6

/-- Two groups are those of the octets that they hold. -/
theorem groups_of_octets (g h : UInt16) :
    Ipv4.groups ⟨UInt8.ofNat (g.toNat / 256), UInt8.ofNat (g.toNat % 256),
      UInt8.ofNat (h.toNat / 256), UInt8.ofNat (h.toNat % 256)⟩ = [g, h] := by
  have hjoin (k : UInt16) : UInt16.ofNat ((UInt8.ofNat (k.toNat / 256)).toNat * 256 +
      (UInt8.ofNat (k.toNat % 256)).toNat) = k := by
    rw [toNat_highOctet, toNat_lowOctet, Nat.div_add_mod', UInt16.ofNat_toNat]
  rw [Ipv4.groups]
  simp only [hjoin]

/-- An address is printed in groups, or it maps an IPv4 address, which is shown. -/
theorem print_cases (x : Ipv6) : x.print = x.printHex ∨
    ∃ y : Ipv4, x = y.mapped ∧ x.print = "::ffff:".toList ++ y.print := by
  rw [print]
  split
  · rename_i g h hgroups
    obtain ⟨gs, hlength⟩ := x
    have hgs : gs = [0, 0, 0, 0, 0, 0xffff, g, h] := hgroups
    subst hgs
    refine .inr ⟨_, ?_, rfl⟩
    simp only [Ipv4.mapped, groups_of_octets]
    rfl
  · exact .inl rfl

theorem parse?_mapped (x : Ipv4) : parse? ("::ffff:".toList ++ x.print) = some x.mapped := by
  have hcut : cutColons? ("::ffff:".toList ++ x.print) = some ([], "ffff:".toList ++ x.print) := rfl
  have hpieces : pieces ("ffff:".toList ++ x.print) = ["ffff".toList, x.print] := by
    have hne : "ffff".toList ++ ':' :: x.print ≠ [] := List.cons_ne_nil _ _
    show pieces ("ffff".toList ++ ':' :: x.print) = _
    rw [pieces, if_neg hne, Text.splitOn_append_cons _ (by decide),
      Text.splitOn_of_notMem x.colon_notMem_print]
  have hgroups : groups? ["ffff".toList, x.print] = some (0xffff :: x.groups) := by
    have hfirst : group? "ffff".toList = some 0xffff := by decide +kernel
    rw [groups?, hfirst, groups?, if_pos x.dot_mem_print, Ipv4.parse?_print]
    · rfl
    · exact List.cons_ne_nil _ _
  rw [parse?, hcut]
  simp only [hpieces, hgroups]
  rfl

theorem parse?_print (x : Ipv6) : parse? x.print = some x := by
  rcases print_cases x with hprint | ⟨y, rfl, hprint⟩
  · rw [hprint, parse?_printHex]
  · rw [hprint, parse?_mapped]

end Ipv6

/-! ## Addresses of both families -/

namespace IpAddr

/-- An IPv6 address that is printed in groups is read again. -/
theorem parse?_printHex (x : Ipv6) : parse? x.printHex = some (.v6 x) := by
  have hdot : '.' ∉ x.printHex := Ipv6.notMem_printHex (by decide) x
  rw [parse?, Ipv4.parse?_of_notMem hdot]
  show (Ipv6.parse? x.printHex).map IpAddr.v6 = _
  rw [Ipv6.parse?_printHex, Option.map_some]

example : parse? "1:0:0:2::3".toList =
    some (.v6 ⟨[1, 0, 0, 2, 0, 0, 0, 3], rfl⟩) := by decide +kernel

/-- **Printing and reading.** An address in the recommended notation is read as the address that it
is, and of its own family. -/
theorem parse?_print (x : IpAddr) : parse? x.print = some x := by
  cases x with
  | v4 x =>
    rw [parse?, print, Ipv4.parse?_print]
  | v6 x =>
    rcases Ipv6.print_cases x with hprint | ⟨y, rfl, hprint⟩
    · rw [print, hprint, parse?_printHex]
    · -- The colons are not read as part of an IPv4 address.
      have hnone : Ipv4.parse? ("::ffff:".toList ++ y.print) = none := by
        cases hparse : Ipv4.parse? ("::ffff:".toList ++ y.print) with
        | none => rfl
        | some z =>
          rcases Ipv4.of_parse? hparse ':' List.mem_cons_self with hdigit | hdot
          · exact absurd hdigit (by decide)
          · exact absurd hdot (by decide)
      rw [print, hprint, parse?, hnone]
      show (Ipv6.parse? ("::ffff:".toList ++ y.print)).map IpAddr.v6 = _
      rw [Ipv6.parse?_mapped, Option.map_some]

theorem print_ne_nil (x : IpAddr) : x.print ≠ [] := by
  intro h
  have hread := parse?_print x
  rw [h] at hread
  cases hread

/-- What an address is printed with: digits, colons and dots. -/
theorem mem_print {x : IpAddr} {c : Char} (h : c ∈ x.print) :
    c = ':' ∨ c = '.' ∨ ∃ d < 16, c = Nat.digitChar d := by
  cases x with
  | v4 x => exact .inr (Ipv4.mem_print h)
  | v6 x =>
    rcases Ipv6.print_cases x with hprint | ⟨y, rfl, hprint⟩
    · rw [print, hprint] at h
      rcases Ipv6.mem_printHex h with hcolon | hdigit
      · exact .inl hcolon
      · exact .inr (.inr hdigit)
    · rw [print, hprint, List.mem_append] at h
      rcases h with h | h
      · have hfront : ∀ c ∈ "::ffff:".toList, c = ':' ∨ c = Nat.digitChar 15 := by simp
        rcases hfront c h with hcolon | hdigit
        · exact .inl hcolon
        · exact .inr (.inr ⟨15, by decide, hdigit⟩)
      · exact .inr (Ipv4.mem_print h)

end IpAddr

end LogEgress
