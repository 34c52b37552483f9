import LogEgress.Proofs.Except
import LogEgress.Url

set_option autoImplicit false

/-! # Hosts under schemes that are not special

Under such a scheme the host of a URL is a name that is kept as it stands, or an IPv6 address. A
name has no brackets and is not empty (`opaque_of_parse`), so that what stands in a URL tells one
from the other.
-/

namespace LogEgress.Url

/-- A host that is an IPv6 address or a name without brackets. -/
inductive Host.Opaque : Host → Prop where
  | ipv6 (address : Ipv6) : Opaque (.ipv6 address)
  | domain {name : List Char} (nonempty : name ≠ []) (opening : '[' ∉ name)
      (closing : ']' ∉ name) : Opaque (.domain name)

/-! ## Encoded names -/

theorem hexUpper_notMem {n : Nat} (h : n < 16) : Text.hexUpper n ∉ ['[', ']'] := by
  revert n
  decide

theorem notMem_encodeOctet {c : Char} (hc : c ∈ ['[', ']']) (b : UInt8) :
    c ∉ encodeOctet b := by
  have hbound : b.toNat < 256 := b.toNat_lt
  have hhigh : Text.hexUpper (b.toNat / 16) ∉ ['[', ']'] := hexUpper_notMem (by omega)
  have hlow : Text.hexUpper (b.toNat % 16) ∉ ['[', ']'] := hexUpper_notMem (by omega)
  intro h
  rw [encodeOctet, List.mem_cons, List.mem_cons, List.mem_singleton] at h
  rcases h with rfl | rfl | rfl
  · exact absurd hc (by decide)
  · exact hhigh hc
  · exact hlow hc

/-- Encoding adds no brackets. -/
theorem mem_of_mem_percentEncode {inSet : Char → Bool} {c : Char} {s : List Char}
    (hc : c ∈ ['[', ']']) (h : c ∈ percentEncode inSet s) : c ∈ s := by
  obtain ⟨d, hd, h⟩ := List.mem_flatMap.1 h
  split at h
  · obtain ⟨b, -, h⟩ := List.mem_flatMap.1 h
    exact absurd h (notMem_encodeOctet hc b)
  · rw [List.mem_singleton] at h
    exact h ▸ hd

/-! ## Reading hosts -/

theorem exists_of_readBracketed_eq_ok {s : List Char} {host : Host}
    (h : readBracketed s = .ok host) : ∃ x, host = .ipv6 x := by
  unfold readBracketed at h
  split at h
  · split at h
    · cases h
      exact ⟨_, rfl⟩
    · cases h
  · cases h

/-- Brackets are forbidden, so there are none in what a name is encoded as. -/
theorem notMem_percentEncode_of_allowed {s : List Char} (h : ¬ s.any isForbidden = true) {c : Char}
    (hc : c ∈ ['[', ']']) : c ∉ percentEncode isControl s := by
  have hforbidden : isForbidden c = true := by
    rw [List.mem_cons, List.mem_singleton] at hc
    rcases hc with rfl | rfl <;> decide
  intro hmem
  exact h (List.any_eq_true.2 ⟨c, mem_of_mem_percentEncode hc hmem, hforbidden⟩)

theorem opaque_of_readOpaqueHost {s : List Char} {host : Host}
    (h : readOpaqueHost s = .ok host) (hne : host ≠ .domain []) : host.Opaque := by
  unfold readOpaqueHost at h
  split at h
  · obtain ⟨x, rfl⟩ := exists_of_readBracketed_eq_ok h
    exact .ipv6 x
  · split at h
    · cases h
    · rename_i hallowed
      cases h
      have hnonempty : percentEncode isControl s ≠ [] := fun hnil =>
        hne (congrArg Host.domain hnil)
      exact .domain hnonempty (notMem_percentEncode_of_allowed hallowed (by decide))
        (notMem_percentEncode_of_allowed hallowed (by decide))

theorem opaque_of_readHostAndPort {scheme s rest : List Char} {host : Option Host}
    {port : Option Nat} (h : readHostAndPort .other scheme s = .ok (host, port, rest)) :
    ∀ x ∈ host, x.Opaque := by
  obtain ⟨host', hread, h⟩ := exists_of_bind_eq_ok h
  have hopaque : ∀ x ∈ (if host' = .domain [] then none else some host'), x.Opaque := by
    intro x hx
    split at hx
    · cases hx
    · rename_i hne
      cases hx
      exact opaque_of_readOpaqueHost (ok_of_mapError_eq_ok hread) hne
  -- The port does not touch the host.
  dsimp only at h
  generalize (if host' = .domain [] then none else some host') = found at h hopaque
  split at h
  · split at h
    · cases h
    · obtain ⟨p, -, h⟩ := exists_of_bind_eq_ok h
      cases h
      exact hopaque
  · cases h
    exact hopaque

theorem opaque_of_readAuthority {scheme s : List Char} {isLast : Bool} {a : Authority}
    (h : readAuthority .other scheme s isLast = .ok a) : ∀ x ∈ a.host, x.Opaque := by
  unfold readAuthority at h
  split at h
  · obtain ⟨⟨host, port, rest⟩, hread, h⟩ := exists_of_bind_eq_ok h
    cases h
    exact opaque_of_readHostAndPort hread
  · rename_i info rest _
    dsimp only at h
    by_cases halone : info = [] ∧ rest = [] ∧ isLast = false
    · rw [if_pos halone] at h
      cases h
    · rw [if_neg halone] at h
      obtain ⟨⟨host, port, rest⟩, hread, h⟩ := exists_of_bind_eq_ok h
      dsimp only at h
      split at h
      · cases h
      · cases h
        exact opaque_of_readHostAndPort hread

/-! ## Reading URLs -/

theorem opaque_of_readWithAuthority {scheme s : List Char} {query fragment : Option (List Char)}
    {u : Url} (h : readWithAuthority .other scheme s query fragment = .ok u) :
    ∀ x ∈ u.host, x.Opaque := by
  obtain ⟨a, hread, h⟩ := exists_of_bind_eq_ok h
  cases h
  exact opaque_of_readAuthority hread

theorem scheme_of_readWithAuthority {kind : SchemeKind} {scheme s : List Char}
    {query fragment : Option (List Char)} {u : Url}
    (h : readWithAuthority kind scheme s query fragment = .ok u) : u.scheme = scheme := by
  obtain ⟨a, -, h⟩ := exists_of_bind_eq_ok h
  cases h
  rfl

theorem scheme_of_readFileHost {scheme s : List Char} {query fragment : Option (List Char)}
    {u : Url} (h : readFileHost scheme s query fragment = .ok u) : u.scheme = scheme := by
  unfold readFileHost at h
  dsimp only at h
  split at h
  · cases h
    rfl
  · split at h
    · cases h
      rfl
    · split at h
      · cases h
        rfl
      · cases h

theorem scheme_of_readFile {scheme s : List Char} {query fragment : Option (List Char)} {u : Url}
    (h : readFile scheme s query fragment = .ok u) : u.scheme = scheme := by
  unfold readFile at h
  split at h
  · split at h
    · exact scheme_of_readFileHost h
    · cases h
      rfl
  · cases h
    rfl

/-- **Hosts that are kept as they stand.** The host of a URL whose scheme is not special is an IPv6
address, or a name without brackets that is not empty. -/
theorem opaque_of_parse {s : List Char} {u : Url} (h : parse s = .ok u)
    (hkind : SchemeKind.of u.scheme = .other) : ∀ x ∈ u.host, x.Opaque := by
  unfold parse read at h
  split at h
  · cases h
  · rename_i scheme rest _
    dsimp only at h
    -- A URL that is read otherwise has a scheme of another kind.
    split at h
    · rename_i hfile
      rw [scheme_of_readFile h, hfile] at hkind
      cases hkind
    · rename_i hspecial
      rw [scheme_of_readWithAuthority h, hspecial] at hkind
      cases hkind
    · split at h
      · rename_i hother _ _ _
        rw [hother] at h
        exact opaque_of_readWithAuthority h
      · cases h
        intro x hx
        cases hx
      · cases h
        intro x hx
        cases hx

end LogEgress.Url
