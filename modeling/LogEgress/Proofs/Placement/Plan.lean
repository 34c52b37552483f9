import LogEgress.Proofs.Placement.Holders
import Mathlib.Data.List.Rotate

set_option autoImplicit false

/-! # What a plan consists of

A plan is described by the addresses at which each binding is deleted and created. A binding that
is not desired is deleted wherever it is held and created nowhere. A desired binding is deleted
nowhere; its missing copies go to *vacant* addresses, which are configured and reported and do not
hold it, in the order in which a cyclic walk over the configured addresses meets them
(`targets_eq`, `length_targets`).
-/

namespace LogEgress.Placement

open Holdings

/-! ## Addresses -/

/-- The configured addresses in ascending order, each once. -/
def ordered (adapters : List String) : List String := (SortedSet.ofList adapters).toList

/-- The addresses met on a walk once around a list, from a place in it. -/
def walk (addrs : List String) (start : Nat) : List String :=
  List.ofFn fun i : Fin addrs.length =>
    addrs.get ⟨(start + i) % addrs.length, Nat.mod_lt _ (Nat.zero_lt_of_lt i.isLt)⟩

/-- The configured addresses that reported. -/
def reporting (actual : Holdings) (adapters : List String) : Finset String :=
  adapters.toFinset.filter fun a => a ∈ actual.keys

/-- The configured addresses that reported and do not hold a binding. -/
def vacant (actual : Holdings) (adapters : List String) (b : Binding) : Finset String :=
  (reporting actual adapters).filter fun a => a ∉ actual.holders b

/-- The addresses at which a plan creates a binding, in its order. -/
def Plan.createsOf (p : Plan) (b : Binding) : List String :=
  (p.creates.filter fun c => c.2 = b).map Prod.fst

theorem mem_ordered {adapters : List String} {a : String} : a ∈ ordered adapters ↔ a ∈ adapters :=
  SortedSet.mem_ofList

theorem nodup_ordered (adapters : List String) : (ordered adapters).Nodup :=
  SortedSet.nodup_toList _

theorem mem_reporting {actual : Holdings} {adapters : List String} {a : String} :
    a ∈ reporting actual adapters ↔ a ∈ adapters ∧ a ∈ actual.keys := by
  simp [reporting]

theorem mem_vacant {actual : Holdings} {adapters : List String} {b : Binding} {a : String} :
    a ∈ vacant actual adapters b ↔
      (a ∈ adapters ∧ a ∈ actual.keys) ∧ ¬ actual.holds a b = true := by
  simp [vacant, mem_reporting]

theorem Plan.mem_createsOf {p : Plan} {a : String} {b : Binding} :
    a ∈ p.createsOf b ↔ (a, b) ∈ p.creates := by
  simp [createsOf]

/-- The order in which addresses are asked is that of a walk from the place that the hash
chooses. -/
theorem ring_eq_walk (addrs : List String) (b : Binding) :
    ring addrs b = walk addrs (b.stableHash.toNat % addrs.length) := by
  have hrot : ring addrs b = addrs.rotate b.stableHash.toNat :=
    List.rotate_eq_drop_append_take_mod.symm
  rw [hrot]
  refine List.ext_getElem (by simp [walk]) fun i _ _ => ?_
  simp only [walk, List.getElem_ofFn, List.get_eq_getElem, List.getElem_rotate, Nat.add_comm,
    Nat.add_mod_mod]

/-- The walk meets every address once. -/
theorem ring_perm (addrs : List String) (b : Binding) : (ring addrs b).Perm addrs := by
  unfold ring
  refine List.perm_append_comm.trans ?_
  rw [List.take_append_drop]

theorem nodup_ring (adapters : List String) (b : Binding) : (ring (ordered adapters) b).Nodup :=
  (ring_perm _ b).nodup_iff.2 (nodup_ordered adapters)

theorem mem_ring {adapters : List String} {b : Binding} {a : String} :
    a ∈ ring (ordered adapters) b ↔ a ∈ adapters :=
  (ring_perm _ b).mem_iff.trans mem_ordered

/-! ## Deletions -/

theorem mem_deletes_plan {desired : List Binding} {actual : Holdings} {adapters : List String}
    {a : String} {b : Binding} :
    (a, b) ∈ (plan desired actual adapters).deletes ↔
      actual.holds a b = true ∧ b ∉ desired := by
  simp only [plan, surplus, List.mem_flatMap, List.mem_map, List.mem_filter, Prod.mk.injEq,
    Prod.exists, decide_eq_true_eq, SortedSet.mem_ofList, holds_iff_entry]
  constructor
  · rintro ⟨a', held, he, b', ⟨hb, hd⟩, rfl, rfl⟩
    exact ⟨⟨held, he, hb⟩, hd⟩
  · rintro ⟨⟨held, he, hb⟩, hd⟩
    exact ⟨a, held, he, b, ⟨hb, hd⟩, rfl, rfl⟩

theorem nodup_deletes_plan (desired : List Binding) (actual : Holdings) (adapters : List String) :
    (plan desired actual adapters).deletes.Nodup := by
  refine List.nodup_flatMap.2 ⟨?_, ?_⟩
  · rintro ⟨a, held⟩ -
    refine (held.nodup_toList.filter _).map ?_
    intro b c h
    exact congrArg Prod.snd h
  · -- Deletions at different addresses are different.
    refine (List.pairwise_map.1 actual.nodup_keys).imp ?_
    intro e e' hne
    show List.Disjoint _ _
    rw [List.disjoint_left]
    intro d hd hd'
    obtain ⟨b, -, rfl⟩ := List.mem_map.1 hd
    obtain ⟨b', -, h⟩ := List.mem_map.1 hd'
    exact hne (congrArg Prod.fst h).symm

/-! ## Creations -/

/-- Among the pairs made for the bindings of a list, those made for one of them. -/
theorem map_fst_filter_flatMap (f : Binding → List String) {bs : List Binding} (h : bs.Nodup)
    (b : Binding) :
    ((bs.flatMap fun b' => (f b').map (·, b')).filter fun c => c.2 = b).map Prod.fst =
      if b ∈ bs then f b else [] := by
  induction bs with
  | nil => rfl
  | cons c bs ih =>
    obtain ⟨hc, hbs⟩ := List.nodup_cons.1 h
    rw [List.flatMap_cons, List.filter_append, List.map_append, ih hbs, List.filter_map,
      List.map_map]
    by_cases e : b = c
    · subst e
      simp [hc, Function.comp_def]
    · have e' : ¬ c = b := fun h => e h.symm
      simp [e, e', Function.comp_def]

theorem createsOf_plan (desired : List Binding) (actual : Holdings) (adapters : List String)
    (b : Binding) :
    (plan desired actual adapters).createsOf b =
      if b ∈ desired then targets (ordered adapters) actual b else [] := by
  have h := map_fst_filter_flatMap (targets (ordered adapters) actual)
    (SortedSet.nodup_toList (SortedSet.ofList desired)) b
  simp only [← SortedSet.mem_def, SortedSet.mem_ofList] at h
  exact h

theorem canTake_iff {actual : Holdings} {adapters : List String} {a : String} {b : Binding}
    (h : a ∈ adapters) : canTake actual b a = true ↔ a ∈ vacant actual adapters b := by
  rw [canTake, Bool.and_eq_true, SortedMap.contains_iff, Bool.not_eq_true', mem_vacant,
    Bool.not_eq_true]
  simp [h]

/-- The missing copies of a binding go to the first vacant addresses of the walk. -/
theorem targets_eq (actual : Holdings) (adapters : List String) (b : Binding) :
    targets (ordered adapters) actual b =
      ((walk (ordered adapters) (b.stableHash.toNat % (ordered adapters).length)).filter
        fun a => a ∈ vacant actual adapters b).take (2 - actual.copies b) := by
  rw [targets, ← ring_eq_walk, replicas]
  congr 1
  refine List.filter_congr fun a ha => ?_
  rw [Bool.eq_iff_iff, canTake_iff (mem_ring.1 ha), decide_eq_true_eq]

theorem mem_vacant_of_mem_targets {actual : Holdings} {adapters : List String} {b : Binding}
    {a : String} (h : a ∈ targets (ordered adapters) actual b) : a ∈ vacant actual adapters b := by
  obtain ⟨hr, hc⟩ := List.mem_filter.1 (List.mem_of_mem_take h)
  exact (canTake_iff (mem_ring.1 hr)).1 hc

theorem nodup_targets (actual : Holdings) (adapters : List String) (b : Binding) :
    (targets (ordered adapters) actual b).Nodup :=
  ((nodup_ring adapters b).filter _).sublist (List.take_sublist _ _)

/-- As many copies are created as are missing, or as there are vacant addresses if these are
fewer. -/
theorem length_targets (actual : Holdings) (adapters : List String) (b : Binding) :
    (targets (ordered adapters) actual b).length =
      min (2 - actual.copies b) (vacant actual adapters b).card := by
  have hset : ((ring (ordered adapters) b).filter (canTake actual b)).toFinset =
      vacant actual adapters b := by
    ext a
    rw [List.mem_toFinset, List.mem_filter, mem_ring]
    constructor
    · rintro ⟨ha, hc⟩
      exact (canTake_iff ha).1 hc
    · intro h
      have ha := (mem_vacant.1 h).1.1
      exact ⟨ha, (canTake_iff ha).2 h⟩
  rw [targets, List.length_take, replicas, ← hset,
    List.toFinset_card_of_nodup ((nodup_ring adapters b).filter _)]

theorem mem_creates_plan {desired : List Binding} {actual : Holdings} {adapters : List String}
    {a : String} {b : Binding} :
    (a, b) ∈ (plan desired actual adapters).creates ↔
      b ∈ desired ∧ a ∈ targets (ordered adapters) actual b := by
  rw [← Plan.mem_createsOf, createsOf_plan]
  by_cases hb : b ∈ desired
  · simp [hb]
  · simp [hb]

theorem nodup_creates_plan (desired : List Binding) (actual : Holdings) (adapters : List String) :
    (plan desired actual adapters).creates.Nodup := by
  refine List.nodup_flatMap.2 ⟨?_, ?_⟩
  · intro b _
    refine (nodup_targets actual adapters b).map ?_
    intro a a' h
    exact congrArg Prod.fst h
  · -- Creations of different bindings are different.
    refine (SortedSet.nodup_toList _).imp ?_
    intro b b' hne
    show List.Disjoint _ _
    rw [List.disjoint_left]
    intro c hc hc'
    obtain ⟨a, -, rfl⟩ := List.mem_map.1 hc
    obtain ⟨a', -, h⟩ := List.mem_map.1 hc'
    exact hne (congrArg Prod.snd h).symm

end LogEgress.Placement
