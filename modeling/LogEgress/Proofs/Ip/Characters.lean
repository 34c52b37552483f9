import LogEgress.Proofs.Ip

set_option autoImplicit false

/-! # Characters of an IPv6 address

A text that is read as an IPv6 address consists of hexadecimal digits, colons and dots
(`Ipv6.isCharacter_of_parse?`), so it can be told from brackets around it.
-/

namespace LogEgress.Ipv6

/-- A character that an IPv6 address may have. -/
def IsCharacter (c : Char) : Prop := (Text.hexDigit? c).isSome = true ∨ c = ':' ∨ c = '.'

variable {s : List Char}

/-- Two colons in a row are cut out of a text. -/
theorem eq_of_cutColons? {front back : List Char} (h : cutColons? s = some (front, back)) :
    s = front ++ ':' :: ':' :: back := by
  induction s generalizing front with
  | nil => cases h
  | cons c s ih =>
    unfold cutColons? at h
    split at h
    · next heq =>
      cases h
      exact heq
    · next heq =>
      obtain ⟨rfl, rfl⟩ := List.cons.inj heq
      obtain ⟨⟨front', back'⟩, hcut, hpair⟩ := Option.map_eq_some_iff.mp h
      cases hpair
      rw [ih hcut]
      rfl
    · cases h

/-- What goes through a list with success does so at each member. -/
theorem isSome_of_mapM {α β : Type} {f : α → Option β} {as : List α} {bs : List β}
    (h : as.mapM f = some bs) : ∀ a ∈ as, (f a).isSome = true := by
  induction as generalizing bs with
  | nil => exact nofun
  | cons a as ih =>
    rw [List.mapM_cons] at h
    obtain ⟨b, hb, h⟩ := Option.bind_eq_some_iff.mp h
    obtain ⟨bs', hbs, -⟩ := Option.bind_eq_some_iff.mp h
    exact List.forall_mem_cons.mpr ⟨Option.isSome_of_eq_some hb, ih hbs⟩

theorem isCharacter_of_group? {g : UInt16} (h : group? s = some g) : ∀ c ∈ s, IsCharacter c := by
  unfold group? at h
  split at h
  · cases h
  · obtain ⟨ds, hds, -⟩ := Option.map_eq_some_iff.mp h
    exact fun c hc => .inl (isSome_of_mapM hds c hc)

/-- A digit is a hexadecimal digit. -/
theorem isCharacter_of_ipv4 {x : Ipv4} (h : Ipv4.parse? s = some x) : ∀ c ∈ s, IsCharacter c := by
  intro c hc
  rcases Ipv4.of_parse? h c hc with hdigit | hdot
  · refine .inl ?_
    rw [Text.hexDigit?, if_pos hdigit]
    rfl
  · exact .inr (.inr hdot)

theorem isCharacter_of_groups? {ps : List (List Char)} {gs : List UInt16}
    (h : groups? ps = some gs) : ∀ p ∈ ps, ∀ c ∈ p, IsCharacter c := by
  induction ps using groups?.induct generalizing gs with
  | case1 => exact nofun
  | case2 p hdot =>
    rw [groups?, if_pos hdot] at h
    obtain ⟨x, hx, -⟩ := Option.map_eq_some_iff.mp h
    exact List.forall_mem_singleton.mpr (isCharacter_of_ipv4 hx)
  | case3 p hdot =>
    rw [groups?, if_neg hdot] at h
    obtain ⟨g, hg, -⟩ := Option.map_eq_some_iff.mp h
    exact List.forall_mem_singleton.mpr (isCharacter_of_group? hg)
  | case4 p ps hne ih =>
    rw [groups?] at h
    · obtain ⟨g, hg, h⟩ := Option.bind_eq_some_iff.mp h
      obtain ⟨gs', hgs, -⟩ := Option.bind_eq_some_iff.mp h
      exact List.forall_mem_cons.mpr ⟨isCharacter_of_group? hg, ih hgs⟩
    · exact hne

/-- The characters of a text are those of its pieces, and colons. -/
theorem isCharacter_of_pieces (h : ∀ p ∈ pieces s, ∀ c ∈ p, IsCharacter c) :
    ∀ c ∈ s, IsCharacter c := by
  intro c hc
  rw [pieces, if_neg (List.ne_nil_of_mem hc)] at h
  rw [← Text.join_splitOn ':' s] at hc
  rcases Text.mem_join hc with hcolon | ⟨p, hp, hc⟩
  · exact .inr (.inl (List.mem_singleton.mp hcolon))
  · exact h p hp c hc

/-- **An IPv6 address has nothing but digits, colons and dots.** -/
theorem isCharacter_of_parse? {x : Ipv6} (h : parse? s = some x) : ∀ c ∈ s, IsCharacter c := by
  unfold parse? at h
  split at h
  · obtain ⟨gs, hgs, -⟩ := Option.bind_eq_some_iff.mp h
    exact isCharacter_of_pieces (isCharacter_of_groups? hgs)
  · next front back hcut =>
    obtain ⟨fs, hfront, h⟩ := Option.bind_eq_some_iff.mp h
    obtain ⟨bs, hback, -⟩ := Option.bind_eq_some_iff.mp h
    have hfronts : ∀ c ∈ front, IsCharacter c := by
      refine isCharacter_of_pieces fun p hp => ?_
      obtain ⟨g, hg⟩ := Option.isSome_iff_exists.mp (isSome_of_mapM hfront p hp)
      exact isCharacter_of_group? hg
    have hbacks := isCharacter_of_pieces (isCharacter_of_groups? hback)
    rw [eq_of_cutColons? hcut]
    intro c hc
    rw [List.mem_append, List.mem_cons, List.mem_cons] at hc
    rcases hc with hc | hc | hc | hc
    · exact hfronts c hc
    · exact .inr (.inl hc)
    · exact .inr (.inl hc)
    · exact hbacks c hc

end LogEgress.Ipv6
