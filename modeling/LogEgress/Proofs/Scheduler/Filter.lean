import LogEgress.Proofs.Scheduler.Course
import LogEgress.Scheduler.Filter

set_option autoImplicit false

/-! # The filters before the planner

A drain is looked up when it is seen for the first time in a fetch, and the verdict is kept for the
rest of the fetch. What a resolver that answers at its whim has said about a drain is thus fixed by
the drains before its first occurrence (`askedBefore`), and the filters keep just the bindings whose
drains ask for this version and have addresses none of which is in a forbidden range. The main
theorem is `filters_are_safe`; with it goes that no term creates a copy of any other binding.
-/

namespace LogEgress.Scheduler

/-! ## Drains -/

/-- A drain asks for this version of the service. -/
def AsksForVersion (drain : String) : Prop :=
  ∃ u, Url.parse drain.toList = .ok u ∧ ("drain-version".toList, "2.0".toList) ∈ u.pairs

/-- An address lies in a forbidden range. -/
def InRange (bl : Blacklist) (x : IpAddr) : Prop :=
  ∃ r ∈ bl, r.first.value ≤ x.value ∧ x.value ≤ r.last.value

/-- A drain has some addresses: the one that its URL names, or those that the resolver gives for
the host of its URL after it was asked for other hosts. -/
inductive Located (resolve : Resolver) (asked : List String) (drain : String) :
    List IpAddr → Prop where
  | ipv4 {u : Url} {x : Ipv4} (parsed : Url.parse drain.toList = .ok u)
      (host : u.host = some (.ipv4 x)) : Located resolve asked drain [.v4 x]
  | ipv6 {u : Url} {x : Ipv6} (parsed : Url.parse drain.toList = .ok u)
      (host : u.host = some (.ipv6 x)) : Located resolve asked drain [.v6 x]
  | named {u : Url} {name : List Char} {xs : List IpAddr}
      (parsed : Url.parse drain.toList = .ok u) (host : u.host = some (.domain name))
      (nonempty : name ≠ []) (answer : resolve asked (String.ofList name) = .ok xs) :
      Located resolve asked drain xs

/-- A drain has addresses, and none of them is forbidden. -/
def Allowed (bl : Blacklist) (resolve : Resolver) (asked : List String) (drain : String) : Prop :=
  ∃ xs, Located resolve asked drain xs ∧ ∀ x ∈ xs, ¬ InRange bl x

/-- What is wrong with a drain. -/
inductive Rejected (bl : Blacklist) (resolve : Resolver) (asked : List String) (drain : String) :
    Rejection → Prop where
  | invalidUrl {fault : Url.Fault} (parsed : Url.parse drain.toList = .error fault) :
      Rejected bl resolve asked drain (.invalidUrl fault)
  | missingHost {u : Url} (parsed : Url.parse drain.toList = .ok u)
      (host : u.host = none ∨ u.host = some (.domain [])) :
      Rejected bl resolve asked drain .missingHost
  | unresolvable {u : Url} {name : List Char} {detail : String}
      (parsed : Url.parse drain.toList = .ok u) (host : u.host = some (.domain name))
      (nonempty : name ≠ []) (answer : resolve asked (String.ofList name) = .error detail) :
      Rejected bl resolve asked drain (.unresolvable detail)
  | forbidden {front back : List IpAddr} {x : IpAddr}
      (located : Located resolve asked drain (front ++ x :: back))
      (clear : ∀ y ∈ front, ¬ InRange bl y) (hit : InRange bl x) :
      Rejected bl resolve asked drain (.forbidden x)

/-- The host that has to be looked up for a drain. -/
def hostName? (drain : String) : Option String :=
  match Url.parse drain.toList with
  | .ok u => match u.host with
    | some (.domain (c :: cs)) => some (String.ofList (c :: cs))
    | _ => none
  | .error _ => none

/-- The hosts that are looked up for some drains: each drain counts where it occurs first. -/
def lookupsOf (drains : List String) : List String := drains.eraseDups.filterMap hostName?

/-- The hosts that were looked up before a drain was seen. -/
def askedBefore (drains : List String) (drain : String) : List String :=
  lookupsOf (drains.takeWhile (· ≠ drain))

/-! ## The verdict on one drain -/

theorem acceptsVersion_iff {drain : String} :
    acceptsVersion drain = true ↔ AsksForVersion drain := by
  unfold acceptsVersion AsksForVersion
  cases Url.parse drain.toList with
  | error e =>
    constructor
    · exact fun h => absurd h Bool.false_ne_true
    · rintro ⟨u, hu, -⟩
      cases hu
  | ok u =>
    constructor
    · intro h
      exact ⟨u, rfl, List.contains_iff_mem.1 h⟩
    · rintro ⟨u', hu, h⟩
      cases hu
      exact List.contains_iff_mem.2 h

instance (drain : String) : Decidable (AsksForVersion drain) :=
  decidable_of_iff _ acceptsVersion_iff

theorem forbids_iff {bl : Blacklist} {x : IpAddr} : bl.forbids x = true ↔ InRange bl x := by
  unfold Blacklist.forbids InRange
  rw [List.any_eq_true]
  simp only [IpRange.contains, Bool.and_eq_true, decide_eq_true_eq]

/-- What a drain can be: no URL, a URL without a host, or a URL with a host of some kind. -/
theorem target_cases (drain : String) :
    (∃ fault, Url.parse drain.toList = .error fault ∧
        target drain = .error (.invalidUrl fault) ∧ hostName? drain = none) ∨
      ∃ u, Url.parse drain.toList = .ok u ∧
        (((u.host = none ∨ u.host = some (.domain [])) ∧
            target drain = .error .missingHost ∧ hostName? drain = none) ∨
          (∃ x, u.host = some (.ipv4 x) ∧
            target drain = .ok (.address (.v4 x)) ∧ hostName? drain = none) ∨
          (∃ x, u.host = some (.ipv6 x) ∧
            target drain = .ok (.address (.v6 x)) ∧ hostName? drain = none) ∨
          ∃ name, u.host = some (.domain name) ∧ name ≠ [] ∧
            target drain = .ok (.name (String.ofList name)) ∧
            hostName? drain = some (String.ofList name)) := by
  cases hp : Url.parse drain.toList with
  | error fault => exact .inl ⟨fault, rfl, by simp only [target, hp], by simp only [hostName?, hp]⟩
  | ok u =>
    refine .inr ⟨u, rfl, ?_⟩
    rcases hh : u.host with _ | ⟨_ | ⟨c, cs⟩⟩ | x | x
    · exact .inl ⟨.inl rfl, by simp only [target, hp, hh], by simp only [hostName?, hp, hh]⟩
    · exact .inl ⟨.inr rfl, by simp only [target, hp, hh], by simp only [hostName?, hp, hh]⟩
    · refine .inr (.inr (.inr ⟨c :: cs, rfl, List.cons_ne_nil c cs, ?_, ?_⟩))
      · simp only [target, hp, hh]
      · simp only [hostName?, hp, hh]
    · exact .inr (.inl ⟨x, rfl, by simp only [target, hp, hh], by simp only [hostName?, hp, hh]⟩)
    · exact .inr (.inr (.inl ⟨x, rfl, by simp only [target, hp, hh],
        by simp only [hostName?, hp, hh]⟩))

/-- The verdict on a drain after some hosts were looked up. -/
def verdict (resolve : Resolver) (asked : List String) (drain : String) : Verdict :=
  (addresses resolve ⟨[], asked⟩ drain).1

theorem addresses_eq (resolve : Resolver) (known : Known) (drain : String) :
    addresses resolve known drain =
      (verdict resolve known.lookups drain, known.lookups ++ (hostName? drain).toList) := by
  obtain ⟨fault, -, ht, hn⟩ | ⟨u, -, ⟨-, ht, hn⟩ | ⟨x, -, ht, hn⟩ | ⟨x, -, ht, hn⟩ |
    ⟨name, -, -, ht, hn⟩⟩ := target_cases drain
  all_goals simp only [verdict, addresses, ht, hn, Option.toList_none, Option.toList_some,
    List.append_nil]

/-- What a drain comes to: addresses, or what is wrong with it. -/
theorem verdict_cases (bl : Blacklist) (resolve : Resolver) (asked : List String)
    (drain : String) :
    (∃ xs, verdict resolve asked drain = .ok xs ∧ Located resolve asked drain xs) ∨
      ∃ r, verdict resolve asked drain = .error r ∧ Rejected bl resolve asked drain r := by
  obtain ⟨fault, hp, ht, -⟩ | ⟨u, hp, ⟨hh, ht, -⟩ | ⟨x, hh, ht, -⟩ | ⟨x, hh, ht, -⟩ |
    ⟨name, hh, hne, ht, -⟩⟩ := target_cases drain
  · exact .inr ⟨_, by simp only [verdict, addresses, ht], .invalidUrl hp⟩
  · exact .inr ⟨_, by simp only [verdict, addresses, ht], .missingHost hp hh⟩
  · exact .inl ⟨_, by simp only [verdict, addresses, ht], .ipv4 hp hh⟩
  · exact .inl ⟨_, by simp only [verdict, addresses, ht], .ipv6 hp hh⟩
  · cases ha : resolve asked (String.ofList name) with
    | ok xs => exact .inl ⟨_, by simp only [verdict, addresses, ht, ha], .named hp hh hne ha⟩
    | error detail =>
      exact .inr ⟨_, by simp only [verdict, addresses, ht, ha], .unresolvable hp hh hne ha⟩

/-- A drain has no other addresses than those found. -/
theorem verdict_of_located {resolve : Resolver} {asked : List String} {drain : String}
    {xs : List IpAddr} (h : Located resolve asked drain xs) :
    verdict resolve asked drain = .ok xs := by
  cases h with
  | ipv4 parsed host => simp only [verdict, addresses, target, parsed, host]
  | ipv6 parsed host => simp only [verdict, addresses, target, parsed, host]
  | @named u name xs parsed host nonempty answer =>
    cases name with
    | nil => exact absurd rfl nonempty
    | cons c cs => simp only [verdict, addresses, target, parsed, host, answer]

/-- A drain is kept just if it is allowed. -/
theorem judge_verdict_iff {bl : Blacklist} {resolve : Resolver} {asked : List String}
    {drain : String} :
    judge bl (verdict resolve asked drain) = none ↔ Allowed bl resolve asked drain := by
  constructor
  · intro h
    rcases verdict_cases bl resolve asked drain with ⟨xs, hv, hl⟩ | ⟨r, hv, -⟩
    · rw [hv, judge, Option.map_eq_none_iff, List.find?_eq_none] at h
      exact ⟨xs, hl, fun x hx hr => h x hx (forbids_iff.2 hr)⟩
    · rw [hv] at h
      cases h
  · rintro ⟨xs, hl, hclear⟩
    rw [verdict_of_located hl, judge, Option.map_eq_none_iff, List.find?_eq_none]
    exact fun x hx hr => hclear x hx (forbids_iff.1 hr)

instance (bl : Blacklist) (resolve : Resolver) (asked : List String) (drain : String) :
    Decidable (Allowed bl resolve asked drain) :=
  decidable_of_iff _ judge_verdict_iff

/-- What a drain is left out for is wrong with it. -/
theorem rejected_of_judge {bl : Blacklist} {resolve : Resolver} {asked : List String}
    {drain : String} {r : Rejection} (h : judge bl (verdict resolve asked drain) = some r) :
    Rejected bl resolve asked drain r := by
  rcases verdict_cases bl resolve asked drain with ⟨xs, hv, hl⟩ | ⟨r', hv, hr⟩
  · rw [hv, judge, Option.map_eq_some_iff] at h
    obtain ⟨x, hx, rfl⟩ := h
    obtain ⟨hhit, front, back, rfl, hclear⟩ := List.find?_eq_some_iff_append.1 hx
    refine .forbidden hl (fun y hy hr => ?_) (forbids_iff.1 hhit)
    have hno := hclear y hy
    rw [forbids_iff.2 hr] at hno
    exact absurd hno (by decide)
  · rw [hv] at h
    cases h
    exact hr

/-! ## Verdicts that are kept -/

theorem lookupsOf_append_singleton (drains : List String) (d : String) :
    lookupsOf (drains ++ [d]) =
      lookupsOf drains ++ if d ∈ drains then [] else (hostName? d).toList := by
  rw [lookupsOf, List.eraseDups_append, List.filterMap_append]
  refine congrArg (lookupsOf drains ++ ·) ?_
  by_cases h : d ∈ drains
  · have hnone : [d].removeAll drains = [] := by simp [List.removeAll, h]
    rw [if_pos h, hnone]
    rfl
  · have hkept : [d].removeAll drains = [d] := by simp [List.removeAll, h]
    have hone : [d].eraseDups = [d] := by
      rw [List.eraseDups_cons]
      rfl
    rw [if_neg h, hkept, hone]
    cases hd : hostName? d with
    | none => rw [List.filterMap_cons_none hd, List.filterMap_nil, Option.toList_none]
    | some host => rw [List.filterMap_cons_some hd, List.filterMap_nil, Option.toList_some]

/-- What comes after the first occurrence of a drain does not matter for it. -/
theorem askedBefore_append_of_mem {drains : List String} {d : String} (h : d ∈ drains)
    (more : List String) : askedBefore (drains ++ more) d = askedBefore drains d := by
  unfold askedBefore
  refine congrArg lookupsOf ?_
  induction drains with
  | nil => cases h
  | cons e drains ih =>
    rw [List.cons_append, List.takeWhile_cons, List.takeWhile_cons]
    by_cases he : e = d
    · simp [he]
    · have hd : d ∈ drains := (List.mem_cons.1 h).resolve_left fun h => he h.symm
      rw [if_pos (decide_eq_true he), if_pos (decide_eq_true he), ih hd]

theorem askedBefore_append_of_notMem {drains : List String} {d : String} (h : d ∉ drains)
    (more : List String) : askedBefore (drains ++ d :: more) d = lookupsOf drains := by
  have hfront : ∀ e ∈ drains, decide (e ≠ d) = true := fun e he =>
    decide_eq_true fun hed => h (hed ▸ he)
  rw [askedBefore, List.takeWhile_append_of_pos hfront]
  simp

/-- What is known after some drains were seen. -/
structure Knows (resolve : Resolver) (drains : List String) (known : Known) : Prop where
  lookups : known.lookups = lookupsOf drains
  verdicts : ∀ d, known.drains.lookup d =
    if d ∈ drains then some (verdict resolve (askedBefore drains d) d) else none

theorem knows_nil (resolve : Resolver) : Knows resolve [] {} :=
  ⟨rfl, fun _ => rfl⟩

/-- The verdict on a drain that was seen is the one that was kept. -/
theorem consult_of_mem {resolve : Resolver} {drains : List String} {known : Known}
    (h : Knows resolve drains known) {d : String} (hd : d ∈ drains) :
    consult resolve known d = (verdict resolve (askedBefore drains d) d, known) := by
  have hlookup := h.verdicts d
  rw [if_pos hd] at hlookup
  simp only [consult, hlookup]

/-- A drain that was not seen is looked up, and what comes of it is kept. -/
theorem consult_of_notMem {resolve : Resolver} {drains : List String} {known : Known}
    (h : Knows resolve drains known) {d : String} (hd : d ∉ drains) :
    consult resolve known d =
      (verdict resolve known.lookups d, ⟨(d, verdict resolve known.lookups d) :: known.drains,
        known.lookups ++ (hostName? d).toList⟩) := by
  have hlookup := h.verdicts d
  rw [if_neg hd] at hlookup
  simp only [consult, hlookup, addresses_eq]

theorem Knows.snoc_of_mem {resolve : Resolver} {drains : List String} {known : Known}
    (h : Knows resolve drains known) {d : String} (hd : d ∈ drains) :
    Knows resolve (drains ++ [d]) known := by
  constructor
  · rw [h.lookups, lookupsOf_append_singleton, if_pos hd, List.append_nil]
  · intro d'
    have hmem : d' ∈ drains ++ [d] ↔ d' ∈ drains := by
      rw [List.mem_append, List.mem_singleton, or_iff_left_iff_imp]
      rintro rfl
      exact hd
    rw [h.verdicts d']
    by_cases hd' : d' ∈ drains
    · rw [if_pos hd', if_pos (hmem.2 hd'), askedBefore_append_of_mem hd']
    · rw [if_neg hd', if_neg fun hm => hd' (hmem.1 hm)]

theorem Knows.snoc_of_notMem {resolve : Resolver} {drains : List String} {known : Known}
    (h : Knows resolve drains known) {d : String} (hd : d ∉ drains) :
    Knows resolve (drains ++ [d]) ⟨(d, verdict resolve known.lookups d) :: known.drains,
      known.lookups ++ (hostName? d).toList⟩ := by
  constructor
  · rw [h.lookups, lookupsOf_append_singleton, if_neg hd]
  · intro d'
    rw [List.lookup_cons]
    by_cases he : d' = d
    · subst he
      rw [if_pos (by simp), askedBefore_append_of_notMem hd, h.lookups]
      simp
    · have hbeq : (d' == d) = false := by simp [he]
      rw [hbeq, h.verdicts d']
      by_cases hd' : d' ∈ drains
      · rw [if_pos hd', if_pos (List.mem_append_left _ hd'), askedBefore_append_of_mem hd']
      · rw [if_neg hd', if_neg (by simp [hd', he])]

/-- A drain gets the verdict of its first occurrence. -/
theorem consult_spec {resolve : Resolver} {drains : List String} {known : Known}
    (h : Knows resolve drains known) (d : String) :
    (consult resolve known d).1 = verdict resolve (askedBefore (drains ++ [d]) d) d ∧
      Knows resolve (drains ++ [d]) (consult resolve known d).2 := by
  by_cases hd : d ∈ drains
  · rw [consult_of_mem h hd, askedBefore_append_of_mem hd]
    exact ⟨rfl, h.snoc_of_mem hd⟩
  · rw [consult_of_notMem h hd, askedBefore_append_of_notMem hd, ← h.lookups]
    exact ⟨rfl, h.snoc_of_notMem hd⟩

/-! ## Sifting -/

/-- What the filter finds wrong with a drain among others. -/
def fault? (bl : Blacklist) (resolve : Resolver) (drains : List String) (drain : String) :
    Option Rejection :=
  judge bl (verdict resolve (askedBefore drains drain) drain)

/-- What becomes of bindings after some drains were seen: each is judged by what was found out at
the first occurrence of its drain. -/
theorem sift_spec (bl : Blacklist) {resolve : Resolver} {drains : List String} {known : Known}
    (h : Knows resolve drains known) (bs : List Binding) :
    (sift bl resolve known bs).kept = bs.filter (fun b =>
        fault? bl resolve (drains ++ bs.map (·.drain)) b.drain = none) ∧
      (sift bl resolve known bs).notices = bs.filterMap (fun b =>
        (fault? bl resolve (drains ++ bs.map (·.drain)) b.drain).map (rejectionNotice b)) ∧
      Knows resolve (drains ++ bs.map (·.drain)) (sift bl resolve known bs).known := by
  induction bs generalizing drains known with
  | nil =>
    rw [List.map_nil, List.append_nil]
    exact ⟨rfl, rfl, h⟩
  | cons b bs ih =>
    obtain ⟨hv, hk⟩ := consult_spec h b.drain
    obtain ⟨hkept, hnotices, hknown⟩ := @ih _ (consult resolve known b.drain).2 hk
    have hassoc : drains ++ [b.drain] ++ bs.map (·.drain) = drains ++ (b :: bs).map (·.drain) := by
      simp
    have hfault : judge bl (consult resolve known b.drain).1 =
        fault? bl resolve (drains ++ (b :: bs).map (·.drain)) b.drain := by
      have hself : b.drain ∈ drains ++ [b.drain] := List.mem_append_right _ List.mem_cons_self
      rw [hv, fault?, ← hassoc, askedBefore_append_of_mem hself]
    rw [hassoc] at hkept hnotices hknown
    simp only [sift]
    rw [hfault, List.filter_cons, List.filterMap_cons]
    cases fault? bl resolve (drains ++ (b :: bs).map (·.drain)) b.drain with
    | none => exact ⟨congrArg (List.cons b) hkept, hnotices, hknown⟩
    | some r => exact ⟨hkept, congrArg (List.cons (rejectionNotice b r)) hnotices, hknown⟩

theorem fault?_eq_none_iff {bl : Blacklist} {resolve : Resolver} {drains : List String}
    {drain : String} : fault? bl resolve drains drain = none ↔
      Allowed bl resolve (askedBefore drains drain) drain := judge_verdict_iff

/-! ## Both filters -/

/-- The bindings that the version filter leaves. -/
def considered (requireVersion : Bool) (bs : List Binding) : List Binding :=
  bs.filter fun b => requireVersion = true → AsksForVersion b.drain

/-- A binding of a fetch may be placed. -/
def MayBePlaced (requireVersion : Bool) (bl : Blacklist) (resolve : Resolver) (f : Fetched)
    (b : Binding) : Prop :=
  (requireVersion = true → AsksForVersion b.drain) ∧
    Allowed bl resolve
      (askedBefore ((considered requireVersion f.bindings).map (·.drain)) b.drain) b.drain

instance (requireVersion : Bool) (bl : Blacklist) (resolve : Resolver) (f : Fetched)
    (b : Binding) : Decidable (MayBePlaced requireVersion bl resolve f b) :=
  inferInstanceAs (Decidable (_ ∧ _))

/-- What the filters have to make of a fetch. -/
structure Filtered (requireVersion : Bool) (bl : Blacklist) (resolve : Resolver) (f g : Fetched)
    (s : Sifted) : Prop where
  /-- Just the bindings that may be placed are left, in their order and as often as they came. -/
  kept : g.bindings = f.bindings.filter fun b => MayBePlaced requireVersion bl resolve f b
  /-- Each drain is looked up once at most, where it is seen first. -/
  lookups : s.known.lookups =
    lookupsOf ((considered requireVersion f.bindings).map (·.drain))
  /-- Those that the second filter leaves out are counted, and each is reported with what is wrong
  with it. -/
  counted : g.invalid = f.invalid + ((considered requireVersion f.bindings).filter fun b =>
    ¬ MayBePlaced requireVersion bl resolve f b).length
  reported : List.Forall₂ (fun b n => ∃ r, Rejected bl resolve
      (askedBefore ((considered requireVersion f.bindings).map (·.drain)) b.drain) b.drain r ∧
      n = ⟨.warn, "rejected drain " ++ b.drain ++ " for app " ++ b.appId ++ ": " ++ r.message⟩)
    ((considered requireVersion f.bindings).filter fun b =>
      ¬ MayBePlaced requireVersion bl resolve f b) s.notices
  drainCount_eq : g.drainCount = f.drainCount
  /-- Bindings with one drain share its verdict. -/
  same_drain : ∀ b ∈ f.bindings, ∀ b' ∈ f.bindings, b.drain = b'.drain →
    (b ∈ g.bindings ↔ b' ∈ g.bindings)

/-- Notices go with the bindings that they are about. -/
theorem forall₂_notices {fault : Binding → Option Rejection} (q : Binding → Bool)
    {bs : List Binding} (h : ∀ b ∈ bs, q b = true ↔ fault b ≠ none) :
    List.Forall₂ (fun b n => ∃ r, fault b = some r ∧ n = rejectionNotice b r) (bs.filter q)
      (bs.filterMap fun b => (fault b).map (rejectionNotice b)) := by
  induction bs with
  | nil => exact .nil
  | cons b bs ih =>
    have hrest := ih fun b' hb' => h b' (List.mem_cons_of_mem b hb')
    have hb := h b List.mem_cons_self
    rw [List.filter_cons, List.filterMap_cons]
    cases hf : fault b with
    | none =>
      rw [if_neg fun hq => hb.1 hq hf]
      exact hrest
    | some r =>
      rw [if_pos (hb.2 (by simp [hf]))]
      exact .cons ⟨r, hf, rfl⟩ hrest

theorem considered_eq (requireVersion : Bool) (f : Fetched) :
    (if requireVersion = true then filterVersion f else f) =
      { f with bindings := considered requireVersion f.bindings } := by
  cases requireVersion with
  | false =>
    have hall : considered false f.bindings = f.bindings :=
      List.filter_eq_self.2 fun b _ => by simp
    rw [hall]
    rfl
  | true =>
    have heq : considered true f.bindings =
        f.bindings.filter fun b => acceptsVersion b.drain := by
      refine List.filter_congr fun b _ => ?_
      rw [Bool.eq_iff_iff, decide_eq_true_iff, acceptsVersion_iff]
      exact ⟨fun h => h rfl, fun h _ => h⟩
    rw [heq]
    rfl

/-- What the second filter leaves of the bindings that the first one left may be placed. -/
theorem filter_considered (requireVersion : Bool) (bl : Blacklist) (resolve : Resolver)
    (f : Fetched) :
    (considered requireVersion f.bindings).filter
        (fun b => MayBePlaced requireVersion bl resolve f b) =
      f.bindings.filter fun b => MayBePlaced requireVersion bl resolve f b := by
  rw [considered, List.filter_filter]
  refine List.filter_congr fun b _ => ?_
  rw [Bool.eq_iff_iff, Bool.and_eq_true, decide_eq_true_iff, decide_eq_true_iff]
  exact ⟨And.left, fun h => ⟨h, h.1⟩⟩

theorem mayBePlaced_iff_of_mem {requireVersion : Bool} {bl : Blacklist} {resolve : Resolver}
    {f : Fetched} {b : Binding} (hb : b ∈ considered requireVersion f.bindings) :
    MayBePlaced requireVersion bl resolve f b ↔
      fault? bl resolve ((considered requireVersion f.bindings).map (·.drain)) b.drain = none := by
  have hv := (List.mem_filter.1 hb).2
  rw [fault?_eq_none_iff]
  exact and_iff_right (of_decide_eq_true hv)

theorem filterChain_spec (requireVersion : Bool) (bl : Blacklist) (resolve : Resolver)
    (f : Fetched) :
    Filtered requireVersion bl resolve f (filterChain requireVersion bl resolve f).1
      (filterChain requireVersion bl resolve f).2 := by
  obtain ⟨hkept, hnotices, hknown⟩ : _ ∧ _ ∧ _ :=
    sift_spec bl (knows_nil resolve) (considered requireVersion f.bindings)
  simp only [List.nil_append] at hkept hnotices hknown
  have hreported : List.Forall₂ _ ((considered requireVersion f.bindings).filter
      fun b => ¬ MayBePlaced requireVersion bl resolve f b) _ :=
    forall₂_notices _ fun b hb => by rw [decide_eq_true_iff, mayBePlaced_iff_of_mem hb]
  rw [← hnotices] at hreported
  have hbindings : (considered requireVersion f.bindings).filter (fun b => fault? bl resolve
      ((considered requireVersion f.bindings).map (·.drain)) b.drain = none) =
        f.bindings.filter fun b => MayBePlaced requireVersion bl resolve f b := by
    rw [← filter_considered]
    exact List.filter_congr fun b hb => by rw [decide_eq_decide, mayBePlaced_iff_of_mem hb]
  have hsame : (filterChain requireVersion bl resolve f).1.bindings =
      f.bindings.filter fun b => MayBePlaced requireVersion bl resolve f b := by
    rw [filterChain, considered_eq, ← hbindings]
    exact hkept
  rw [filterChain, considered_eq] at hsame ⊢
  exact {
    kept := hsame
    lookups := hknown.lookups
    counted := congrArg (f.invalid + ·) hreported.length_eq.symm
    reported := by
      refine hreported.imp ?_
      rintro b n ⟨r, hr, rfl⟩
      exact ⟨r, rejected_of_judge hr, rfl⟩
    drainCount_eq := rfl
    same_drain := by
      intro b hb b' hb' hd
      rw [hsame, List.mem_filter, List.mem_filter, decide_eq_true_iff, decide_eq_true_iff,
        MayBePlaced, MayBePlaced, hd]
      exact and_congr_left fun _ => ⟨fun _ => hb', fun _ => hb⟩ }

/-- **The filters are safe.** A failed fetch stays as it is. Of a fetch the filters keep what may be
placed; no plan creates a copy of another binding, and no term does, whatever the adapters answer
and in which order. -/
theorem filters_are_safe (requireVersion : Bool) (bl : Blacklist) (resolve : Resolver) :
    (∀ e, filterAnswer requireVersion bl resolve (.error e) = .error e) ∧
      ∀ f : Fetched, ∃ g s, filterAnswer requireVersion bl resolve (.ok f) = .ok (g, s) ∧
        Filtered requireVersion bl resolve f g s ∧
        (∀ actual addrs, ∀ p ∈ (Placement.plan g.bindings actual addrs).creates,
          p.2 ∈ f.bindings ∧ MayBePlaced requireVersion bl resolve f p.2) ∧
        ∀ (σ : Type) (srv : Server σ) (deadlines : Deadlines) (fleet : Fleet σ)
          (schedule : List Turn) (a : String) (b : Binding),
          Event.called a (.change .create b) ∈
              ((Session.start fleet).run srv deadlines g.bindings schedule).trace →
            b ∈ f.bindings ∧ MayBePlaced requireVersion bl resolve f b := by
  refine ⟨fun e => rfl, fun f => ?_⟩
  have hspec := filterChain_spec requireVersion bl resolve f
  have hkept : ∀ b ∈ (filterChain requireVersion bl resolve f).1.bindings,
      b ∈ f.bindings ∧ MayBePlaced requireVersion bl resolve f b := by
    intro b hb
    rwa [hspec.kept, List.mem_filter, decide_eq_true_iff] at hb
  refine ⟨(filterChain requireVersion bl resolve f).1, (filterChain requireVersion bl resolve f).2,
    rfl, hspec, fun actual addrs p hp => ?_, fun σ srv deadlines fleet schedule a b h => ?_⟩
  · exact hkept p.2 (Placement.mem_creates_plan.1 hp).1
  · exact hkept b ((createsDesired_run (createsDesired_start fleet) schedule).called a b h)

/-- Of a resolver that answers the first question only: a drain that occurs twice is looked up once
and kept twice, and a forbidden one needs no look-up. -/
theorem filters_with_one_answer :
    let good : Binding := ⟨"app", "host", "https://log.example/?drain-version=2.0"⟩
    let bad : Binding := ⟨"app", "host", "https://10.0.0.1/?drain-version=2.0"⟩
    let old : Binding := ⟨"app", "host", "https://log.example/"⟩
    let ten : IpRange := ⟨.v4 ⟨10, 0, 0, 0⟩, .v4 ⟨10, 255, 255, 255⟩, by decide⟩
    let resolve : Resolver := fun asked _ =>
      if asked = [] then .ok [.v4 ⟨1, 2, 3, 4⟩] else .error "no answer"
    ∃ g s, filterAnswer true [ten] resolve (.ok ⟨[good, bad, old, good], 1, 4⟩) = .ok (g, s) ∧
      g = ⟨[good, good], 2, 4⟩ ∧ s.known.lookups = ["log.example"] := by
  intro good bad old ten resolve
  obtain ⟨g, s, hg, hspec, -⟩ := (filters_are_safe true [ten] resolve).2
    ⟨[good, bad, old, good], 1, 4⟩
  have hkept : g.bindings = [good, good] := hspec.kept.trans (by decide +kernel)
  have hcounted : g.invalid = 2 := hspec.counted.trans (by decide +kernel)
  have hlookups : s.known.lookups = ["log.example"] := hspec.lookups.trans (by decide +kernel)
  refine ⟨g, s, hg, ?_, hlookups⟩
  obtain ⟨bs, n, c⟩ := g
  obtain rfl : bs = _ := hkept
  obtain rfl : n = _ := hcounted
  obtain rfl : c = _ := hspec.drainCount_eq
  rfl

end LogEgress.Scheduler
