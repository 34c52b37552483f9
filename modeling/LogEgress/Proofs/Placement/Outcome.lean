import LogEgress.Proofs.Placement.Plan

set_option autoImplicit false

/-! # What comes of a plan

After a plan was carried out the adapters hold the desired bindings that they held before and the
copies that were created, and nothing else (`holds_apply_plan`). Each desired binding has gained
what it lacked of two copies, as far as there were vacant addresses (`copies_apply_plan`). Nothing
is left to do then (`plan_apply_plan`).
-/

namespace LogEgress.Placement

open Holdings

variable {desired : List Binding} {actual : Holdings} {adapters : List String}

/-! ## Addresses and bindings after a plan -/

theorem holds_apply_plan {a : String} {b : Binding} :
    (apply actual (plan desired actual adapters)).holds a b = true ↔
      b ∈ desired ∧
        (actual.holds a b = true ∨ a ∈ targets (ordered adapters) actual b) := by
  rw [holds_apply, mem_deletes_plan, mem_creates_plan]
  constructor
  · rintro (⟨h, hd⟩ | ⟨hd, ht⟩)
    · exact ⟨by_contra fun hb => hd ⟨h, hb⟩, .inl h⟩
    · exact ⟨hd, .inr ht⟩
  · rintro ⟨hd, h | ht⟩
    · exact .inl ⟨h, fun hn => hn.2 hd⟩
    · exact .inr ⟨hd, ht⟩

theorem keys_apply_plan (desired : List Binding) (actual : Holdings) (adapters : List String) :
    (apply actual (plan desired actual adapters)).keys = actual.keys := by
  refine SortedMap.keys_eq fun a => ?_
  rw [mem_keys_apply]
  constructor
  · rintro (h | h)
    · exact h
    · obtain ⟨⟨a', b⟩, hc, rfl⟩ := List.mem_map.1 h
      exact (mem_vacant.1 (mem_vacant_of_mem_targets (mem_creates_plan.1 hc).2)).1.2
  · exact .inl

theorem holders_apply_plan {b : Binding} (hb : b ∈ desired) :
    (apply actual (plan desired actual adapters)).holders b =
      actual.holders b ∪ (targets (ordered adapters) actual b).toFinset := by
  ext a
  simp only [mem_holders, holds_apply_plan, Finset.mem_union, List.mem_toFinset, hb, true_and]

/-! ## Numbers of copies -/

theorem copies_apply_plan {b : Binding} (hb : b ∈ desired) :
    (apply actual (plan desired actual adapters)).copies b =
      actual.copies b + min (2 - actual.copies b) (vacant actual adapters b).card := by
  have hdisj : Disjoint (actual.holders b) (targets (ordered adapters) actual b).toFinset := by
    refine Finset.disjoint_right.2 fun a ha => ?_
    have h := (mem_vacant.1 (mem_vacant_of_mem_targets (List.mem_toFinset.1 ha))).2
    rwa [mem_holders]
  rw [copies_eq_card, holders_apply_plan hb, Finset.card_union_of_disjoint hdisj,
    List.toFinset_card_of_nodup (nodup_targets ..), length_targets, ← copies_eq_card]

/-- If every reporting address is configured, the vacant addresses are those without a copy. -/
theorem card_vacant (h : ∀ a ∈ actual.keys, a ∈ adapters) (b : Binding) :
    (vacant actual adapters b).card = (reporting actual adapters).card - actual.copies b := by
  have hsub : actual.holders b ⊆ reporting actual adapters := by
    intro a ha
    have hk := mem_keys_of_holds (mem_holders.1 ha)
    exact mem_reporting.2 ⟨h a hk, hk⟩
  have hset : vacant actual adapters b = reporting actual adapters \ actual.holders b := by
    ext a
    simp [vacant]
  rw [hset, Finset.card_sdiff_of_subset hsub, ← copies_eq_card]

theorem copies_le_card_reporting (h : ∀ a ∈ actual.keys, a ∈ adapters) (b : Binding) :
    actual.copies b ≤ (reporting actual adapters).card := by
  rw [copies_eq_card]
  refine Finset.card_le_card fun a ha => ?_
  have hk := mem_keys_of_holds (mem_holders.1 ha)
  exact mem_reporting.2 ⟨h a hk, hk⟩

/-! ## When there is nothing to do -/

/-- A plan is empty just if nothing is held that is not desired, and each desired binding has two
copies or no vacant address. -/
theorem plan_eq_nil_iff :
    plan desired actual adapters = ⟨[], []⟩ ↔
      (∀ a b, actual.holds a b = true → b ∈ desired) ∧
        ∀ b ∈ desired, 2 ≤ actual.copies b ∨ vacant actual adapters b = ∅ := by
  have hsplit : plan desired actual adapters = ⟨[], []⟩ ↔
      (plan desired actual adapters).deletes = [] ∧
        (plan desired actual adapters).creates = [] := by
    cases plan desired actual adapters
    rw [Plan.mk.injEq, and_comm]
  have hcreates : (plan desired actual adapters).creates = [] ↔
      ∀ b ∈ desired, targets (ordered adapters) actual b = [] := by
    simp only [List.eq_nil_iff_forall_not_mem, Prod.forall, mem_creates_plan]
    exact ⟨fun h b hb a ha => h a b ⟨hb, ha⟩, fun h a b hab => h b hab.1 a hab.2⟩
  rw [hsplit, hcreates]
  refine and_congr ?_ (forall₂_congr fun b _ => ?_)
  · simp only [List.eq_nil_iff_forall_not_mem, Prod.forall, mem_deletes_plan, not_and, not_not]
  · rw [← List.length_eq_zero_iff, length_targets, ← Finset.card_eq_zero]
    omega

/-- What a plan leaves needs no further plan. -/
theorem plan_apply_plan (desired : List Binding) (actual : Holdings) (adapters : List String) :
    plan desired (apply actual (plan desired actual adapters)) adapters = ⟨[], []⟩ := by
  refine plan_eq_nil_iff.2 ⟨fun a b h => (holds_apply_plan.1 h).1, fun b hb => ?_⟩
  by_cases hc : 2 - actual.copies b ≤ (vacant actual adapters b).card
  · left
    rw [copies_apply_plan hb]
    omega
  · -- All vacant addresses were used.
    right
    have hall : (targets (ordered adapters) actual b).toFinset = vacant actual adapters b := by
      refine Finset.eq_of_subset_of_card_le (fun a ha => ?_) ?_
      · exact mem_vacant_of_mem_targets (List.mem_toFinset.1 ha)
      · rw [List.toFinset_card_of_nodup (nodup_targets ..), length_targets]
        omega
    refine Finset.eq_empty_of_forall_notMem fun a ha => ?_
    rw [mem_vacant, keys_apply_plan] at ha
    obtain ⟨hr, hn⟩ := ha
    refine hn (holds_apply_plan.2 ⟨hb, ?_⟩)
    by_contra hnot
    rw [not_or] at hnot
    have hv : a ∈ vacant actual adapters b := mem_vacant.2 ⟨hr, hnot.1⟩
    rw [← hall, List.mem_toFinset] at hv
    exact hnot.2 hv

/-! ## The contract of the planner -/

/-- What a plan has to be for some desired bindings, what the adapters reported, and the configured
addresses. -/
structure Plan.Exact (desired : List Binding) (actual : Holdings) (adapters : List String)
    (p : Plan) : Prop where
  /-- Deleted is what is held and not desired, ... -/
  mem_deletes : ∀ a b, (a, b) ∈ p.deletes ↔ actual.holds a b = true ∧ b ∉ desired
  /-- ... and each copy of it once. -/
  nodup_deletes : p.deletes.Nodup
  /-- What is not desired is not created. -/
  createsOf_undesired : ∀ b, b ∉ desired → p.createsOf b = []
  /-- What is desired is created as often as it lacks of two copies, or as there are vacant
  addresses if these are fewer, ... -/
  length_createsOf : ∀ b ∈ desired,
    (p.createsOf b).length = min (2 - actual.copies b) (vacant actual adapters b).card
  /-- ... at different addresses, ... -/
  nodup_createsOf : ∀ b, (p.createsOf b).Nodup
  /-- ... all of them vacant, ... -/
  vacant_of_mem_createsOf : ∀ b, ∀ a ∈ p.createsOf b, a ∈ vacant actual adapters b
  /-- ... and the first vacant ones on the walk from the place that the hash chooses. -/
  createsOf_eq : ∀ b ∈ desired, p.createsOf b =
    ((walk (ordered adapters) (b.stableHash.toNat % (ordered adapters).length)).filter
      fun a => a ∈ vacant actual adapters b).take (2 - actual.copies b)

/-- What the adapters have to hold after a plan, by what they held before it. -/
structure Settled (desired : List Binding) (adapters : List String) (before after : Holdings) :
    Prop where
  keys_eq : after.keys = before.keys
  desired_of_holds : ∀ a b, after.holds a b = true → b ∈ desired
  copies_eq : ∀ b ∈ desired, after.copies b =
    before.copies b + min (2 - before.copies b) (vacant before adapters b).card
  copies_le : ∀ b ∈ desired, before.copies b ≤ after.copies b
  /-- If only configured addresses reported and there were not too many copies, there are two
  copies or one for each address. -/
  copies_eq_min : (∀ a ∈ before.keys, a ∈ adapters) → ∀ b ∈ desired, before.copies b ≤ 2 →
    after.copies b = min 2 (reporting before adapters).card
  /-- The next plan is empty. -/
  settled : plan desired after adapters = ⟨[], []⟩

theorem plan_exact (desired : List Binding) (actual : Holdings) (adapters : List String) :
    (plan desired actual adapters).Exact desired actual adapters where
  mem_deletes _ _ := mem_deletes_plan
  nodup_deletes := nodup_deletes_plan ..
  createsOf_undesired b hb := by rw [createsOf_plan, if_neg hb]
  length_createsOf b hb := by rw [createsOf_plan, if_pos hb, length_targets]
  nodup_createsOf b := by
    rw [createsOf_plan]
    split
    · exact nodup_targets ..
    · exact List.nodup_nil
  vacant_of_mem_createsOf b a h := by
    rw [Plan.mem_createsOf] at h
    exact mem_vacant_of_mem_targets (mem_creates_plan.1 h).2
  createsOf_eq b hb := by rw [createsOf_plan, if_pos hb, targets_eq]

theorem settled_apply_plan (desired : List Binding) (actual : Holdings) (adapters : List String) :
    Settled desired adapters actual (apply actual (plan desired actual adapters)) where
  keys_eq := keys_apply_plan ..
  desired_of_holds _ _ h := (holds_apply_plan.1 h).1
  copies_eq _ hb := copies_apply_plan hb
  copies_le b hb := by
    rw [copies_apply_plan hb]
    omega
  copies_eq_min hk b hb hc := by
    have hle := copies_le_card_reporting hk b
    rw [copies_apply_plan hb, card_vacant hk]
    omega
  settled := plan_apply_plan ..

/-- **The contract of the planner.** Whatever is desired, reported and configured, the plan is
exact, and carrying it out leaves the adapters settled. -/
theorem plan_exact_and_settles (desired : List Binding) (actual : Holdings)
    (adapters : List String) :
    (plan desired actual adapters).Exact desired actual adapters ∧
      Settled desired adapters actual (apply actual (plan desired actual adapters)) :=
  ⟨plan_exact .., settled_apply_plan ..⟩

/-- One copy is there and two configured addresses are vacant: the walk begins at the last of
three addresses, passes by the one that holds the binding, and goes on from the front. -/
theorem plan_past_holder :
    let b : Binding := ⟨"app", "host", "drain"⟩
    let actual : Holdings := .ofList [("a", ∅), ("b", ∅), ("c", .ofList [b, ⟨"x", "", ""⟩])]
    let adapters := ["c", "a", "b", "a"]
    b ∈ [b] ∧ actual.copies b ≤ 2 ∧ (∀ a ∈ actual.keys, a ∈ adapters) ∧
      (plan [b] actual adapters).createsOf b = ["a"] ∧
      (apply actual (plan [b] actual adapters)).copies b = 2 := by
  intro b actual adapters
  obtain ⟨hexact, hsettled⟩ := plan_exact_and_settles [b] actual adapters
  have hb : b ∈ [b] := List.mem_singleton_self b
  have hc : actual.copies b ≤ 2 := by decide +kernel
  have hk : ∀ a ∈ actual.keys, a ∈ adapters := by decide +kernel
  refine ⟨hb, hc, hk, ?_, ?_⟩
  · rw [hexact.createsOf_eq b hb]
    decide +kernel
  · rw [hsettled.copies_eq_min hk b hb hc]
    decide +kernel

end LogEgress.Placement
