import LogEgress.Proofs.Placement.Plan

set_option autoImplicit false

/-! # What one binding's plan depends on

Two planners may see different bindings on their adapters and may be asked for different ones. For
a binding of which both see the same (`SeenAlike`) they plan the same: it is created and deleted at
the same addresses in the same order, whatever else is desired or held (`plansAlike_of_seenAlike`).
Nothing is shared between bindings, then: no cursor that goes on where the last binding left it,
and no count of what an adapter has to hold.

The main theorem, `plans_isolate_bindings`, adds what follows for plans as a whole and for changes
that concern other bindings.
-/

namespace LogEgress.Placement

open Holdings

/-- The addresses at which a plan deletes a binding, in its order. -/
def Plan.deletesOf (p : Plan) (b : Binding) : List String :=
  (p.deletes.filter fun d => d.2 = b).map Prod.fst

/-- Two plans treat a binding alike. -/
def PlansAlike (b : Binding) (p p' : Plan) : Prop :=
  p.createsOf b = p'.createsOf b ∧ p.deletesOf b = p'.deletesOf b

/-- What two planners see of a binding is the same: whether it is desired, which addresses
reported, which of them hold it, and which addresses are configured. -/
structure SeenAlike (b : Binding) (desired desired' : List Binding) (actual actual' : Holdings)
    (adapters adapters' : List String) : Prop where
  desired_iff : b ∈ desired ↔ b ∈ desired'
  keys_iff : ∀ a, a ∈ actual.keys ↔ a ∈ actual'.keys
  holds_eq : ∀ a, actual.holds a b = actual'.holds a b
  adapters_iff : ∀ a, a ∈ adapters ↔ a ∈ adapters'

/-! ## Deletions of one binding -/

/-- Of the bindings at one address, a binding that is there and is not desired is deleted once. -/
theorem map_fst_filter_held {held : List Binding} (h : held.Nodup) (undesired : Binding → Bool)
    (a : String) (b : Binding) :
    (((held.filter undesired).map (a, ·)).filter fun d => d.2 = b).map Prod.fst =
      if b ∈ held ∧ undesired b = true then [a] else [] := by
  have hOnly : (held.filter undesired).filter (fun c => c = b) =
      if b ∈ held ∧ undesired b = true then [b] else [] := by
    rw [List.filter_eq, (h.filter undesired).count]
    simp only [List.mem_filter]
    split <;> rfl
  rw [List.filter_map, List.map_map]
  show ((held.filter undesired).filter fun c => c = b).map (fun _ => a) = _
  rw [hOnly]
  split <;> rfl

theorem flatMap_ite_singleton {α β : Type} (p : α → Prop) [DecidablePred p] (f : α → β)
    (l : List α) : (l.flatMap fun x => if p x then [f x] else []) = (l.filter p).map f := by
  induction l with
  | nil => rfl
  | cons x l ih =>
    rw [List.flatMap_cons, ih]
    by_cases hx : p x
    · simp [hx]
    · simp [hx]

/-- A binding that is not desired is deleted at all its holders, in the order of their
addresses. -/
theorem deletesOf_plan (desired : List Binding) (actual : Holdings) (adapters : List String)
    (b : Binding) :
    (plan desired actual adapters).deletesOf b =
      if b ∈ desired then [] else actual.keys.filter fun a => actual.holds a b := by
  have hHeld : ∀ e ∈ actual.entries, actual.holds e.1 b = decide (b ∈ e.2) := by
    intro e he
    rw [holds, SortedMap.get?_eq_some_iff.2 he]
  have hEach : (plan desired actual adapters).deletesOf b =
      (actual.entries.filter fun e => b ∈ e.2 ∧ b ∉ desired).map Prod.fst := by
    rw [← flatMap_ite_singleton, Plan.deletesOf, plan, surplus, List.filter_flatMap,
      List.map_flatMap]
    refine List.flatMap_congr fun e _ => ?_
    refine (map_fst_filter_held e.2.nodup_toList _ e.1 b).trans ?_
    simp only [decide_eq_true_eq, SortedSet.mem_ofList]
    rfl
  rw [hEach]
  by_cases hb : b ∈ desired
  · simp [hb]
  · rw [if_neg hb, SortedMap.keys, List.filter_map]
    refine congrArg (List.map Prod.fst) (List.filter_congr fun e he => ?_)
    simp [hb, hHeld e he]

/-! ## Two planners -/

section TwoPlanners

variable {b : Binding} {desired desired' : List Binding} {actual actual' : Holdings}
  {adapters adapters' : List String}

/-- Lists with the same members are the same configuration. -/
theorem ordered_congr (h : ∀ a, a ∈ adapters ↔ a ∈ adapters') :
    ordered adapters = ordered adapters' := by
  refine congrArg SortedSet.toList (SortedSet.ext_mem fun a => ?_)
  rw [SortedSet.mem_ofList, SortedSet.mem_ofList, h]

/-- Where the missing copies of a binding go depends on its own copies only. -/
theorem targets_congr (hKeys : ∀ a, a ∈ actual.keys ↔ a ∈ actual'.keys)
    (hHolds : ∀ a, actual.holds a b = actual'.holds a b) (addrs : List String) :
    targets addrs actual b = targets addrs actual' b := by
  have hTake : canTake actual b = canTake actual' b := by
    funext a
    have hKnown : actual.contains a = actual'.contains a := by
      rw [Bool.eq_iff_iff, SortedMap.contains_iff, SortedMap.contains_iff, hKeys]
    rw [canTake, canTake, hKnown, hHolds]
  have hCopies : actual.copies b = actual'.copies b := by
    have hHolders : actual.holders b = actual'.holders b := by
      ext a
      rw [mem_holders, mem_holders, hHolds]
    rw [copies_eq_card, copies_eq_card, hHolders]
  rw [targets, targets, hTake, hCopies]

/-- Planners that see the same of a binding treat it alike. -/
theorem plansAlike_of_seenAlike
    (h : SeenAlike b desired desired' actual actual' adapters adapters') :
    PlansAlike b (plan desired actual adapters) (plan desired' actual' adapters') := by
  constructor
  · simp only [createsOf_plan, h.desired_iff, ordered_congr h.adapters_iff,
      targets_congr h.keys_iff h.holds_eq]
  · have hHolds : (fun a => actual.holds a b) = fun a => actual'.holds a b := funext h.holds_eq
    simp only [deletesOf_plan, h.desired_iff, SortedMap.keys_eq h.keys_iff, hHolds]

/-- A plan is a function of three sets. -/
theorem plan_congr (hDesired : ∀ c, c ∈ desired ↔ c ∈ desired')
    (hKeys : ∀ a, a ∈ actual.keys ↔ a ∈ actual'.keys)
    (hHolds : ∀ a c, actual.holds a c = actual'.holds a c)
    (hAdapters : ∀ a, a ∈ adapters ↔ a ∈ adapters') :
    plan desired actual adapters = plan desired' actual' adapters' := by
  obtain rfl : actual = actual' := ext_holds hKeys hHolds
  have hWanted : SortedSet.ofList desired = SortedSet.ofList desired' := by
    refine SortedSet.ext_mem fun c => ?_
    rw [SortedSet.mem_ofList, SortedSet.mem_ofList, hDesired]
  have hRing : (SortedSet.ofList adapters).toList = (SortedSet.ofList adapters').toList :=
    ordered_congr hAdapters
  rw [plan, plan, hWanted, hRing]

end TwoPlanners

/-! ## What concerns other bindings -/

section Others

variable {b c : Binding}

theorem seenAlike_cons (h : c ≠ b) (desired : List Binding) (actual : Holdings)
    (adapters : List String) :
    SeenAlike b (c :: desired) desired actual actual adapters adapters where
  desired_iff := by
    rw [List.mem_cons, or_iff_right h.symm]
  keys_iff _ := Iff.rfl
  holds_eq _ := rfl
  adapters_iff _ := Iff.rfl

theorem seenAlike_applyCreate (h : c ≠ b) (desired : List Binding) {actual : Holdings}
    {addr : String} (hAddr : addr ∈ actual.keys) (adapters : List String) :
    SeenAlike b desired desired (applyCreate actual (addr, c)) actual adapters adapters where
  desired_iff := Iff.rfl
  keys_iff a := by
    rw [mem_keys_applyCreate, or_iff_right_of_imp]
    rintro rfl
    exact hAddr
  holds_eq a := by
    rw [Bool.eq_iff_iff, holds_applyCreate, or_iff_left]
    exact fun e => h (congrArg Prod.snd e).symm
  adapters_iff _ := Iff.rfl

theorem seenAlike_applyDelete (h : c ≠ b) (desired : List Binding) (actual : Holdings)
    (addr : String) (adapters : List String) :
    SeenAlike b desired desired (applyDelete actual (addr, c)) actual adapters adapters where
  desired_iff := Iff.rfl
  keys_iff a := by rw [keys_applyDelete]
  holds_eq a := by
    rw [Bool.eq_iff_iff, holds_applyDelete, and_iff_left]
    exact fun e => h (congrArg Prod.snd e).symm
  adapters_iff _ := Iff.rfl

end Others

/-! ## Isolation -/

/-- **Plans isolate bindings.** Planners that see the same of a binding create and delete it at the
same addresses in the same order. A plan depends on its inputs as sets only, so that neither order
nor repetitions change anything. What is planned for a binding stays the same when another one is
desired or is no longer desired, and when a copy of another one comes or goes. -/
theorem plans_isolate_bindings :
    (∀ b desired desired' actual actual' adapters adapters',
      SeenAlike b desired desired' actual actual' adapters adapters' →
        PlansAlike b (plan desired actual adapters) (plan desired' actual' adapters')) ∧
    (∀ desired desired' actual actual' adapters adapters',
      (∀ c, c ∈ desired ↔ c ∈ desired') → (∀ a, a ∈ actual.keys ↔ a ∈ actual'.keys) →
      (∀ a c, actual.holds a c = actual'.holds a c) → (∀ a, a ∈ adapters ↔ a ∈ adapters') →
        plan desired actual adapters = plan desired' actual' adapters') ∧
    ∀ b c, c ≠ b → ∀ desired actual adapters,
      PlansAlike b (plan (c :: desired) actual adapters) (plan desired actual adapters) ∧
      (∀ a ∈ actual.keys,
        PlansAlike b (plan desired (applyCreate actual (a, c)) adapters)
          (plan desired actual adapters)) ∧
      ∀ a, PlansAlike b (plan desired (applyDelete actual (a, c)) adapters)
        (plan desired actual adapters) := by
  refine ⟨fun _ _ _ _ _ _ _ => plansAlike_of_seenAlike, fun _ _ _ _ _ _ => plan_congr, ?_⟩
  intro b c hOther desired actual adapters
  refine ⟨?_, fun a ha => ?_, fun a => ?_⟩
  · exact plansAlike_of_seenAlike (seenAlike_cons hOther desired actual adapters)
  · exact plansAlike_of_seenAlike (seenAlike_applyCreate hOther desired ha adapters)
  · exact plansAlike_of_seenAlike (seenAlike_applyDelete hOther desired actual a adapters)

/-- One planner is asked for a single binding that one of three adapters holds. The other one is
asked for three, finds bindings everywhere, and has its adapters in another order and one of them
twice. Both create the second copy at the same address. -/
theorem second_copy_among_strangers :
    let b : Binding := ⟨"app", "host", "drain"⟩
    let x : Binding := ⟨"x", "", ""⟩
    let y : Binding := ⟨"y", "", ""⟩
    let alone : Holdings := .ofList [("a", ∅), ("b", ∅), ("c", .ofList [b])]
    let crowded : Holdings :=
      .ofList [("a", .ofList [x]), ("b", .ofList [y]), ("c", .ofList [b, y])]
    let p := plan [b] alone ["a", "b", "c"]
    let q := plan [y, x, b, y] crowded ["c", "a", "b", "a"]
    p.createsOf b = ["a"] ∧ q.createsOf b = ["a"] ∧ p ≠ q ∧
      plan [b, x, y] crowded ["a", "b", "c"] = q := by
  intro b x y alone crowded p q
  obtain ⟨hIsolated, hSets, -⟩ := plans_isolate_bindings
  have hKeys : alone.keys = crowded.keys := by decide +kernel
  have hHolders : alone.holders b = crowded.holders b := by decide +kernel
  have hDesired : ∀ c, c ∈ [y, x, b, y] ↔ c ∈ [b, x, y] := by
    intro c
    simp only [List.mem_cons, List.not_mem_nil, or_false]
    tauto
  have hAdapters : ∀ a, a ∈ ["c", "a", "b", "a"] ↔ a ∈ ["a", "b", "c"] := by
    intro a
    simp only [List.mem_cons, List.not_mem_nil, or_false]
    tauto
  have hSeen : SeenAlike b [b] [y, x, b, y] alone crowded ["a", "b", "c"] ["c", "a", "b", "a"] := {
    desired_iff := by simp
    keys_iff := fun a => by rw [hKeys]
    holds_eq := fun a => by rw [Bool.eq_iff_iff, ← mem_holders, ← mem_holders, hHolders]
    adapters_iff := fun a => (hAdapters a).symm }
  have hAlike : PlansAlike b p q := hIsolated _ _ _ _ _ _ _ hSeen
  have hFirst : p.createsOf b = ["a"] := by decide +kernel
  refine ⟨hFirst, hAlike.1 ▸ hFirst, by decide +kernel, ?_⟩
  exact hSets _ _ _ _ _ _ (fun c => (hDesired c).symm) (fun _ => Iff.rfl) (fun _ _ => rfl)
    fun a => (hAdapters a).symm

end LogEgress.Placement
