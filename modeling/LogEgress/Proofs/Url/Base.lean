import LogEgress.Proofs.Ip.Characters
import LogEgress.Proofs.Text.Blank
import LogEgress.Proofs.Text.Utf8
import LogEgress.Proofs.Url.Host
import Mathlib.Data.List.Basic

set_option autoImplicit false

/-! # URLs of a host and a port

A base is what stands before the path of a URL: `http` or `https`, a host and a port. If the host is
one that URLs may have (`IsHost`), and the port is a number of sixteen bits, the base can be read,
also with a path behind it; what is read are the scheme, the host and the port of the base
(`Base.Valid.parse_eq`).
-/

namespace LogEgress.Url

/-! ## Hosts -/

/-- The characters that divide the parts of a URL, or that do not count in it. -/
def delimiters : List Char := ['/', '\\', '?', '#', '@', ':', '[', ']', '\t', '\n', '\r']

/-- The characters at which an authority ends, at which it is divided from a user, or that do not
count in it. -/
def outsiders : List Char := ['/', '\\', '?', '#', '@', '\t', '\n', '\r']

/-- A text is a host under `http` and `https`: the name of a domain, an IPv4 address in one of its
notations, or an IPv6 address in brackets. -/
inductive IsHost : List Char → Host → Prop where
  | name {s : List Char} {h : Host} (hread : readSpecialHost s = .ok h)
      (hclear : ∀ c ∈ s, c ∉ delimiters) : IsHost s h
  | bracketed {s : List Char} {x : Ipv6} (hread : Ipv6.parse? s = some x) :
      IsHost ('[' :: (s ++ [']'])) (.ipv6 x)

/-- An IPv6 address has no delimiters but its colons. -/
theorem notMem_delimiters_of_isCharacter {c : Char} (h : Ipv6.IsCharacter c) (hc : c ≠ ':') :
    c ∉ delimiters := by
  have hnone : ∀ d ∈ delimiters, Text.hexDigit? d = none ∧ d ≠ '.' :=
    List.forall_iff_forall_mem.mp (by decide)
  intro hmem
  rcases h with hdigit | hcolon | hdot
  · rw [(hnone c hmem).1] at hdigit
    cases hdigit
  · exact hc hcolon
  · exact (hnone c hmem).2 hdot

theorem IsHost.clear {s : List Char} {h : Host} (hs : IsHost s h) : ∀ c ∈ s, c ∉ outsiders := by
  have hsub : ∀ c ∈ outsiders, c ∈ delimiters ∧ c ≠ ':' ∧ c ≠ '[' ∧ c ≠ ']' :=
    List.forall_iff_forall_mem.mp (by decide)
  cases hs with
  | name hread hclear => exact fun c hc hmem => hclear c hc (hsub c hmem).1
  | @bracketed s x hread =>
    intro c hc hmem
    obtain ⟨hdelimiter, hcolon, hopening, hclosing⟩ := hsub c hmem
    rw [List.mem_cons, List.mem_append, List.mem_singleton] at hc
    rcases hc with hc | hc | hc
    · exact hopening hc
    · exact notMem_delimiters_of_isCharacter (Ipv6.isCharacter_of_parse? hread c hc) hcolon
        hdelimiter
    · exact hclosing hc

/-- Within brackets a host goes on up to the closing one. -/
theorem cutHost_inside {s : List Char} (h : ']' ∉ s) (t : List Char) :
    cutHost true (s ++ ']' :: ':' :: t) = (s ++ [']'], ':' :: t) := by
  induction s with
  | nil => rfl
  | cons c s ih =>
    rw [List.mem_cons, not_or] at h
    have hinside : (if c = '[' then true else if c = ']' then false else true) = true := by
      rw [if_neg (Ne.symm h.1), ite_self]
    rw [List.cons_append, cutHost, if_neg (fun hc => Bool.noConfusion hc.2), hinside, ih h.2]
    rfl

theorem cutHost_name {s : List Char} (h : ∀ c ∈ s, c ∉ delimiters) (t : List Char) :
    cutHost false (s ++ ':' :: t) = (s, ':' :: t) := by
  induction s with
  | nil => rfl
  | cons c s ih =>
    obtain ⟨hc, hs⟩ := List.forall_mem_cons.mp h
    have hcolon : c ≠ ':' := fun he => hc (he ▸ by decide)
    have hopening : c ≠ '[' := fun he => hc (he ▸ by decide)
    have houtside : (if c = '[' then true else if c = ']' then false else false) = false := by
      rw [if_neg hopening, ite_self]
    rw [List.cons_append, cutHost, if_neg (fun he => hcolon he.1), houtside, ih hs]

/-- **The host ends at the colon before the port**, also an IPv6 address, which has colons. -/
theorem IsHost.cutHost_eq {s : List Char} {h : Host} (hs : IsHost s h) (t : List Char) :
    cutHost false (s ++ ':' :: t) = (s, ':' :: t) := by
  cases hs with
  | name hread hclear => exact cutHost_name hclear t
  | @bracketed s x hread =>
    have hclosing : ']' ∉ s := fun hmem =>
      notMem_delimiters_of_isCharacter (Ipv6.isCharacter_of_parse? hread _ hmem) (by decide)
        (by decide)
    rw [List.cons_append, List.append_assoc, List.singleton_append, cutHost,
      if_neg (fun hc => absurd hc.1 (by decide)), if_pos rfl, cutHost_inside hclosing]

theorem IsHost.readSpecialHost_eq {s : List Char} {h : Host} (hs : IsHost s h) :
    readSpecialHost s = .ok h := by
  cases hs with
  | name hread hclear => exact hread
  | bracketed hread =>
    rw [readSpecialHost, readBracketed, List.getLast?_concat, List.dropLast_concat]
    simp only [hread]

/-- The empty text is no host. -/
theorem readSpecialHost_nil : readSpecialHost [] = .error .empty := by
  have hname : Domain.toAscii? [] = some [] := by decide
  rw [readSpecialHost]
  · have hdecode : Utf8.decodeLossy (percentDecode (utf8 [])) = [] := Utf8.decodeLossy_utf8 []
    rw [hdecode, hname]
  · exact nofun

/-- No host is the empty name. -/
theorem ne_of_readSpecialHost {s : List Char} {h : Host} (hread : readSpecialHost s = .ok h) :
    h ≠ .domain [] := by
  rintro rfl
  unfold readSpecialHost at hread
  split at hread
  · obtain ⟨x, hx⟩ := exists_of_readBracketed_eq_ok hread
    cases hx
  · split at hread
    · cases hread
    · cases hread
    · next name hne _ =>
      split at hread
      · split at hread <;> cases hread
      · cases hread
        exact hne rfl

/-! ## Bases -/

/-- What a URL begins with: a scheme, a host and a port, the latter two as they are written. -/
structure Base where
  secure : Bool
  host : List Char
  port : List Char

namespace Base

def scheme (b : Base) : List Char := if b.secure then "https".toList else "http".toList

/-- A base as it is written. -/
def print (b : Base) : List Char := b.scheme ++ "://".toList ++ b.host ++ ':' :: b.port

/-- The number of the port. -/
def number (b : Base) : Nat := Nat.ofDigitChars 10 b.port 0

/-- A base has a host that URLs may have, and a number of sixteen bits as its port. -/
structure Valid (b : Base) (h : Host) : Prop where
  isHost : IsHost b.host h
  port_ne_nil : b.port ≠ []
  port_digits : ∀ c ∈ b.port, c.isDigit = true
  number_le : b.number ≤ Text.greatest16

/-- The port as a URL has it: none if it is the default one of the scheme. -/
def urlPort (b : Base) : Option Nat :=
  if some b.number = defaultPort? b.scheme then none else some b.number

/-- The URL of a base with a path. -/
def withPath (b : Base) (h : Host) (path : List Char) : Url where
  scheme := b.scheme
  username := []
  password := []
  host := some h
  port := b.urlPort
  path := path
  query := none
  fragment := none

/-- The port that is dialed is the one that is written. -/
theorem effectivePort?_withPath (b : Base) (h : Host) (path : List Char) :
    (b.withPath h path).effectivePort? = some b.number := by
  unfold withPath effectivePort? urlPort
  by_cases hdefault : some b.number = defaultPort? b.scheme
  · simp only [if_pos hdefault]
    exact hdefault.symm
  · simp only [if_neg hdefault]

/-! ## Reading bases -/

/-- What may follow a base: nothing, or a path without a query and a fragment. -/
structure IsPath (s : List Char) : Prop where
  begins : ∀ c ∈ s.head?, c = '/'
  clear : ∀ c ∈ s, 0x20 < c.toNat ∧ c ≠ '?' ∧ c ≠ '#'

section Reading

variable {b : Base} {h : Host} {path : List Char}

/-- The characters of a scheme. -/
theorem scheme_cases (b : Base) : b.scheme = "http".toList ∨ b.scheme = "https".toList := by
  unfold scheme
  cases b.secure
  · exact .inl rfl
  · exact .inr rfl

theorem kind_scheme (b : Base) : SchemeKind.of b.scheme = .special := by
  rcases b.scheme_cases with hs | hs <;> rw [hs] <;> decide

theorem readScheme?_print (b : Base) (s : List Char) :
    readScheme? (b.scheme ++ ':' :: s) = some (b.scheme, s) := by
  have hcolon : ':' ∉ b.scheme := by
    rcases b.scheme_cases with hs | hs <;> rw [hs] <;> decide
  have hcut := Text.cutFirst?_append_cons s hcolon
  have hbegins : ∃ c t, b.scheme = c :: t ∧ c.isAlpha = true := by
    rcases b.scheme_cases with hs | hs <;> exact ⟨'h', _, hs, by decide⟩
  have hchars : b.scheme.all isSchemeChar = true ∧ b.scheme.map Char.toLower = b.scheme := by
    rcases b.scheme_cases with hs | hs <;> rw [hs] <;> decide
  obtain ⟨c, t, hct, halpha⟩ := hbegins
  rw [hct] at hcut hchars ⊢
  rw [List.cons_append] at hcut ⊢
  rw [readScheme?, if_pos halpha, hcut]
  simp only [hchars.1, if_true, hchars.2]

/-- A port is read up to its end. -/
theorem Valid.readPort_eq (hb : b.Valid h) : readPort b.port = .ok (some b.number, []) := by
  have htake : b.port.takeWhile Char.isDigit = b.port :=
    List.takeWhile_eq_self_iff.mpr hb.port_digits
  have hdrop : b.port.dropWhile Char.isDigit = [] := List.dropWhile_eq_nil_iff.mpr hb.port_digits
  have hnumber : b.port.foldl (fun n c => 10 * n + (c.toNat - 48)) 0 = b.number := rfl
  rw [readPort]
  simp only [htake, hdrop, hnumber, if_neg (Nat.not_lt.mpr hb.number_le), if_neg hb.port_ne_nil]

/-- The authority has no character that would end it. -/
theorem Valid.clear_authority (hb : b.Valid h) : ∀ c ∈ b.host ++ ':' :: b.port, c ∉ outsiders := by
  intro c hc
  rw [List.mem_append, List.mem_cons] at hc
  rcases hc with hc | rfl | hc
  · exact hb.isHost.clear c hc
  · decide
  · have hdigits : ∀ d ∈ outsiders, d.isDigit = false :=
      List.forall_iff_forall_mem.mp (by decide)
    exact fun hmem => Bool.noConfusion ((hdigits c hmem).symm.trans (hb.port_digits c hc))

theorem Valid.readAuthority_eq (hb : b.Valid h) (isLast : Bool) :
    readAuthority .special b.scheme (b.host ++ ':' :: b.port) isLast =
      .ok ⟨[], [], some h, b.urlPort, []⟩ := by
  -- Without a user, the whole of it is host and port.
  have hat : Text.cutLast? '@' (b.host ++ ':' :: b.port) = none := by
    rw [Text.cutLast?, Option.map_eq_none_iff, Text.cutFirst?_eq_none_iff, List.mem_reverse]
    exact fun hmem => hb.clear_authority _ hmem (by decide)
  have hhost : readHost .special b.host = .ok h := by
    have hne : b.host ≠ [] := by
      intro hnil
      have hread := hb.isHost.readSpecialHost_eq
      rw [hnil, readSpecialHost_nil] at hread
      cases hread
    rw [readHost, if_neg hne, hb.isHost.readSpecialHost_eq]
    · rfl
    · exact nofun
  have hdomain : h ≠ .domain [] := ne_of_readSpecialHost hb.isHost.readSpecialHost_eq
  have hparts : readHostAndPort .special b.scheme (b.host ++ ':' :: b.port) =
      .ok (some h, b.urlPort, []) := by
    unfold readHostAndPort
    rw [hb.isHost.cutHost_eq]
    simp only [hhost, hb.readPort_eq, bind, Except.bind, if_neg hdomain]
    rfl
  rw [readAuthority, hat]
  simp only [hparts]
  rfl

/-- The authority ends where the path begins. -/
theorem span_authority {authority : List Char} (h : ∀ c ∈ authority, isSlash .special c = false)
    (hpath : IsPath path) :
    (authority ++ path).takeWhile (!isSlash .special ·) = authority ∧
      (authority ++ path).dropWhile (!isSlash .special ·) = path := by
  have hkept : ∀ c ∈ authority, (!isSlash .special c) = true := fun c hc => by rw [h c hc]; rfl
  rw [List.takeWhile_append_of_pos hkept, List.dropWhile_append_of_pos hkept]
  cases path with
  | nil => exact ⟨List.append_nil _, rfl⟩
  | cons c t =>
    obtain rfl := hpath.begins c rfl
    exact ⟨List.append_nil _, rfl⟩

/-- What follows the scheme has neither a query nor a fragment. -/
theorem cutTail_eq {s : List Char} (h : ∀ c ∈ s, c ≠ '?' ∧ c ≠ '#') :
    cutTail s = (s, none, none) := by
  have hquery : Text.cutFirst? '?' s = none :=
    Text.cutFirst?_eq_none_iff.mpr fun hmem => (h _ hmem).1 rfl
  have hfragment : Text.cutFirst? '#' s = none :=
    Text.cutFirst?_eq_none_iff.mpr fun hmem => (h _ hmem).2 rfl
  unfold cutTail
  simp only [hfragment, hquery]

theorem print_append (b : Base) (path : List Char) : b.print ++ path =
    b.scheme ++ ':' :: '/' :: '/' :: (b.host ++ ':' :: b.port ++ path) := by
  simp [print]

theorem of_notMem_outsiders {c : Char} (hc : c ∉ outsiders) :
    isSlash .special c = false ∧ isSkipped c = false ∧ c ≠ '?' ∧ c ≠ '#' := by
  simp only [outsiders, List.mem_cons, List.not_mem_nil, or_false, not_or] at hc
  obtain ⟨hslash, hback, hquery, hfragment, -, htab, hline, hreturn⟩ := hc
  exact ⟨by simp [isSlash, hslash, hback], by simp [isSkipped, htab, hline, hreturn], hquery,
    hfragment⟩

/-- A character beyond the space counts, wherever it stands. -/
theorem counts_of_lt {c : Char} (hc : 0x20 < c.toNat) :
    isTrimmed c = false ∧ isSkipped c = false := by
  refine ⟨decide_eq_false (Nat.not_le.mpr hc), ?_⟩
  have hfew : ∀ d ∈ ['\t', '\n', '\r'], d.toNat ≤ 0x20 :=
    List.forall_iff_forall_mem.mp (by decide)
  have hnone : c ∉ ['\t', '\n', '\r'] := fun hmem => Nat.not_le.mpr hc (hfew c hmem)
  simp only [List.mem_cons, List.not_mem_nil, or_false, not_or] at hnone
  simp [isSkipped, hnone]

theorem lt_of_isDigit {c : Char} (hc : c.isDigit = true) : 0x20 < c.toNat := by
  simp only [Char.isDigit, Bool.and_eq_true, decide_eq_true_eq] at hc
  exact Nat.lt_of_lt_of_le (by decide) hc.1

/-- Nothing of a base with a path is passed over. -/
theorem Valid.normal (hb : b.Valid h) (hpath : IsPath path) :
    (Text.trimWhile isTrimmed (b.print ++ path)).filter (!isSkipped ·) = b.print ++ path := by
  have hfirst : ∀ c ∈ (b.print ++ path).head?, isTrimmed c = false := by
    rw [print_append]
    rcases b.scheme_cases with hs | hs <;> rw [hs] <;> rintro c ⟨⟩ <;> decide
  -- The last character is that of the port or of the path.
  have hlast : ∀ c ∈ (b.print ++ path).getLast?, isTrimmed c = false := by
    have hne : b.port ++ path ≠ [] := List.append_ne_nil_of_left_ne_nil hb.port_ne_nil path
    have hcut : b.print ++ path =
        (b.scheme ++ "://".toList ++ b.host ++ [':']) ++ (b.port ++ path) := by
      simp [print]
    intro c hc
    rw [hcut, List.getLast?_append_of_ne_nil _ hne] at hc
    rcases List.mem_append.mp (List.mem_of_getLast? hc) with hc | hc
    · exact (counts_of_lt (lt_of_isDigit (hb.port_digits c hc))).1
    · exact (counts_of_lt (hpath.clear c hc).1).1
  have hkept : ∀ c ∈ b.print ++ path, (!isSkipped c) = true := by
    have hscheme : ∀ c ∈ b.scheme, isSkipped c = false := by
      rcases b.scheme_cases with hs | hs <;> rw [hs] <;>
        exact List.forall_iff_forall_mem.mp (by decide)
    intro c hc
    rw [print_append, List.mem_append, List.mem_cons, List.mem_cons, List.mem_cons,
      List.mem_append] at hc
    rcases hc with hc | rfl | rfl | rfl | hc | hc
    · rw [hscheme c hc]
      rfl
    · rfl
    · rfl
    · rfl
    · rw [(of_notMem_outsiders (hb.clear_authority c hc)).2.1]
      rfl
    · rw [(counts_of_lt (hpath.clear c hc).1).2]
      rfl
  rw [Text.trimWhile_eq_self hfirst hlast, List.filter_eq_self.mpr hkept]

/-- **A base with a path is read as its scheme, its host and its port.** -/
theorem Valid.parse_eq (hb : b.Valid h) (hpath : IsPath path) :
    parse (b.print ++ path) = .ok (b.withPath h (readPath .special path)) := by
  have hslash : ∀ c ∈ b.host ++ ':' :: b.port, isSlash .special c = false :=
    fun c hc => (of_notMem_outsiders (hb.clear_authority c hc)).1
  have hslashes : ('/' :: '/' :: (b.host ++ ':' :: b.port ++ path)).dropWhile
      (isSlash .special) = b.host ++ ':' :: b.port ++ path := by
    obtain ⟨c, t, hct⟩ := List.exists_cons_of_ne_nil
      (List.append_ne_nil_of_right_ne_nil b.host (List.cons_ne_nil ':' b.port))
    have hc : isSlash .special c = false := hslash c (hct ▸ List.mem_cons_self)
    rw [List.dropWhile_cons_of_pos (by decide), List.dropWhile_cons_of_pos (by decide), hct,
      List.cons_append, List.dropWhile_cons_of_neg (Bool.eq_false_iff.mp hc)]
  have htail : cutTail ('/' :: '/' :: (b.host ++ ':' :: b.port ++ path)) =
      ('/' :: '/' :: (b.host ++ ':' :: b.port ++ path), none, none) := by
    refine cutTail_eq fun c hc => ?_
    rw [List.mem_cons, List.mem_cons, List.mem_append] at hc
    rcases hc with rfl | rfl | hc | hc
    · decide
    · decide
    · exact (of_notMem_outsiders (hb.clear_authority c hc)).2.2
    · exact (hpath.clear c hc).2
  obtain ⟨htake, hdrop⟩ := span_authority hslash hpath
  rw [parse, hb.normal hpath, print_append, read, readScheme?_print]
  simp only [htail, kind_scheme, hslashes]
  rw [readWithAuthority, htake, hdrop, hb.readAuthority_eq]
  rfl

end Reading

end Base

end LogEgress.Url
