import LogEgress.Proofs.Placement.Outcome

set_option autoImplicit false

/-! # Runs of terms

In a run of terms adapters are hidden from the planner and forget what they held, and bindings
enter and leave the desired lists. The planner sees a part of what it changes. Since it plans at
visible addresses only, a term acts on the visible part as a plan that sees all of it
(`visible_term`) and leaves the rest alone (`holds_term_of_hidden`). What holds after each term of
every run is stated in `TermSpec`; the run lemmas about copies that outlive an outage and about
copies that stay where they are go by induction on the terms in between.
-/

namespace LogEgress.Placement

open Holdings

/-! ## States of a run -/

/-- What the adapters hold after some terms. -/
def after (adapters : List String) (s : Holdings) (steps : List Step) : Holdings :=
  ((run adapters s steps).map Prod.snd).getLastD s

/-- What adapters that were empty hold after some terms. -/
def reached (adapters : List String) (steps : List Step) : Holdings :=
  after adapters (start adapters) steps

/-- The adapters that a term plans for. -/
def seen (adapters : List String) (step : Step) : Finset String :=
  adapters.toFinset.filter fun a => a ∉ step.hidden

/-- No adapter is hidden or forgets anything. -/
def Undisturbed (adapters : List String) (step : Step) : Prop :=
  ∀ a ∈ adapters, a ∉ step.hidden ∧ a ∉ step.lost

/-- Just the configured adapters are known. -/
def Known (adapters : List String) (s : Holdings) : Prop := ∀ a, a ∈ s.keys ↔ a ∈ adapters

@[simp] theorem after_nil (adapters : List String) (s : Holdings) : after adapters s [] = s := rfl

@[simp] theorem after_cons (adapters : List String) (s : Holdings) (step : Step)
    (steps : List Step) :
    after adapters s (step :: steps) = after adapters (term adapters s step).2 steps := by
  simp only [after, run, List.map_cons, List.getLastD_cons]

theorem after_append (adapters : List String) (s : Holdings) (front back : List Step) :
    after adapters s (front ++ back) = after adapters (after adapters s front) back := by
  induction front generalizing s with
  | nil => rfl
  | cons step front ih => rw [List.cons_append, after_cons, after_cons, ih]

/-- A run goes on from where its front part has led. -/
theorem run_append (adapters : List String) (s : Holdings) (front back : List Step) :
    run adapters s (front ++ back) =
      run adapters s front ++ run adapters (after adapters s front) back := by
  induction front generalizing s with
  | nil => rfl
  | cons step front ih =>
    rw [List.cons_append, run, run, ih, after_cons, List.cons_append]

/-! ## What a term sees and changes -/

theorem keys_forget (s : Holdings) (lost : List String) : (forget s lost).keys = s.keys :=
  SortedMap.keys_mapValues ..

theorem holds_forget {s : Holdings} {lost : List String} {a : String} {b : Binding} :
    (forget s lost).holds a b = true ↔ s.holds a b = true ∧ a ∉ lost := by
  simp only [holds_iff, forget, SortedMap.get?_mapValues, Option.map_eq_some_iff]
  by_cases h : a ∈ lost
  · simp [h]
  · simp [h]

theorem mem_keys_visible {s : Holdings} {hidden : List String} {a : String} :
    a ∈ (visible s hidden).keys ↔ a ∈ s.keys ∧ a ∉ hidden := by
  rw [visible, SortedMap.mem_keys_filter, SortedMap.mem_keys_iff]
  simp

theorem holds_visible {s : Holdings} {hidden : List String} {a : String} {b : Binding} :
    (visible s hidden).holds a b = true ↔ s.holds a b = true ∧ a ∉ hidden := by
  simp only [holds_iff, visible, SortedMap.get?_filter, Option.filter_eq_some_iff,
    decide_eq_true_eq]
  constructor
  · rintro ⟨held, ⟨hs, hh⟩, hb⟩
    exact ⟨⟨held, hs, hb⟩, hh⟩
  · rintro ⟨⟨held, hs, hb⟩, hh⟩
    exact ⟨held, ⟨hs, hh⟩, hb⟩

theorem holders_visible (s : Holdings) (adapters : List String) (step : Step) (b : Binding)
    (h : Known adapters s) :
    (visible s step.hidden).holders b = s.holders b ∩ seen adapters step := by
  ext a
  rw [mem_holders, holds_visible, Finset.mem_inter, mem_holders, seen, Finset.mem_filter,
    List.mem_toFinset, ← h a]
  constructor
  · rintro ⟨hs, hh⟩
    exact ⟨hs, mem_keys_of_holds hs, hh⟩
  · rintro ⟨hs, -, hh⟩
    exact ⟨hs, hh⟩

theorem reporting_visible {s : Holdings} {adapters : List String} (step : Step)
    (h : Known adapters s) :
    reporting (visible s step.hidden) adapters = seen adapters step := by
  ext a
  rw [mem_reporting, mem_keys_visible, h a, seen, Finset.mem_filter, List.mem_toFinset]
  tauto

/-! ## Plans made from what is visible -/

section Visible

variable {desired : List Binding} {s : Holdings} {hidden adapters : List String}

theorem visible_of_mem_creates {a : String} {b : Binding}
    (h : (a, b) ∈ (plan desired (visible s hidden) adapters).creates) :
    a ∈ s.keys ∧ a ∉ hidden := by
  have hv := mem_vacant_of_mem_targets (mem_creates_plan.1 h).2
  exact mem_keys_visible.1 (mem_vacant.1 hv).1.2

theorem visible_of_mem_deletes {a : String} {b : Binding}
    (h : (a, b) ∈ (plan desired (visible s hidden) adapters).deletes) : a ∉ hidden :=
  (holds_visible.1 (mem_deletes_plan.1 h).1).2

theorem mem_keys_apply_visible {a : String} :
    a ∈ (apply s (plan desired (visible s hidden) adapters)).keys ↔ a ∈ s.keys := by
  rw [mem_keys_apply]
  constructor
  · rintro (h | h)
    · exact h
    · obtain ⟨⟨a', b⟩, hc, rfl⟩ := List.mem_map.1 h
      exact (visible_of_mem_creates hc).1
  · exact .inl

theorem holds_apply_of_hidden {a : String} (h : a ∈ hidden) (b : Binding) :
    (apply s (plan desired (visible s hidden) adapters)).holds a b = s.holds a b := by
  rw [Bool.eq_iff_iff, holds_apply]
  constructor
  · rintro (⟨hs, -⟩ | hc)
    · exact hs
    · exact absurd h (visible_of_mem_creates hc).2
  · intro hs
    exact .inl ⟨hs, fun hd => visible_of_mem_deletes hd h⟩

/-- A plan that is made from the visible part acts on it as if there were nothing else. -/
theorem visible_apply :
    visible (apply s (plan desired (visible s hidden) adapters)) hidden =
      apply (visible s hidden) (plan desired (visible s hidden) adapters) := by
  refine ext_holds (fun a => ?_) fun a b => ?_
  · rw [mem_keys_visible, mem_keys_apply_visible, keys_apply_plan, mem_keys_visible]
  · rw [Bool.eq_iff_iff, holds_visible, holds_apply, holds_apply, holds_visible]
    constructor
    · rintro ⟨⟨hs, hd⟩ | hc, hh⟩
      · exact .inl ⟨⟨hs, hh⟩, hd⟩
      · exact .inr hc
    · rintro (⟨⟨hs, hh⟩, hd⟩ | hc)
      · exact ⟨.inl ⟨hs, hd⟩, hh⟩
      · exact ⟨.inr hc, (visible_of_mem_creates hc).2⟩

end Visible

/-! ## One term -/

section Term

variable {adapters : List String} {s : Holdings} {step : Step}

theorem term_fst : (term adapters s step).1 =
    plan step.desired (visible (forget s step.lost) step.hidden) adapters := rfl

theorem term_snd : (term adapters s step).2 =
    apply (forget s step.lost) (term adapters s step).1 := rfl

theorem known_forget {lost : List String} (h : Known adapters s) :
    Known adapters (forget s lost) := by
  intro a
  rw [keys_forget]
  exact h a

theorem known_term (h : Known adapters s) : Known adapters (term adapters s step).2 := by
  intro a
  rw [term_snd, term_fst, mem_keys_apply_visible]
  exact known_forget h a

theorem visible_term : visible (term adapters s step).2 step.hidden =
    apply (visible (forget s step.lost) step.hidden) (term adapters s step).1 :=
  visible_apply

/-- What a visible adapter holds after a term is desired. -/
theorem desired_of_holds_term {a : String} {b : Binding} (ha : a ∉ step.hidden)
    (h : (term adapters s step).2.holds a b = true) : b ∈ step.desired := by
  have hv := holds_visible.2 ⟨h, ha⟩
  rw [visible_term] at hv
  exact (holds_apply_plan.1 hv).1

/-- A term does not take a desired binding away from anyone. -/
theorem holds_term_of_desired {a : String} {b : Binding} (hb : b ∈ step.desired)
    (h : (forget s step.lost).holds a b = true) : (term adapters s step).2.holds a b = true := by
  rw [term_snd, holds_apply]
  refine .inl ⟨h, fun hd => ?_⟩
  rw [term_fst, mem_deletes_plan] at hd
  exact hd.2 hb

/-- The visible copies of a desired binding after a term. -/
theorem card_holders_term (hk : Known adapters s) {b : Binding} (hb : b ∈ step.desired) :
    min 2 (seen adapters step).card ≤
      ((term adapters s step).2.holders b ∩ seen adapters step).card := by
  have hk' : Known adapters (forget s step.lost) := known_forget hk
  rw [← holders_visible _ _ _ _ (known_term hk), visible_term, ← copies_eq_card, term_fst,
    copies_apply_plan hb, card_vacant (fun a ha => (hk' a).1 (mem_keys_visible.1 ha).1),
    reporting_visible step hk']
  omega

/-- If two visible adapters hold a binding no copy is created. -/
theorem not_mem_creates_term (hk : Known adapters s) {b : Binding}
    (h : 2 ≤ ((forget s step.lost).holders b ∩ seen adapters step).card) (a : String) :
    (a, b) ∉ (term adapters s step).1.creates := by
  intro hc
  have hl := length_targets (visible (forget s step.lost) step.hidden) adapters b
  rw [copies_eq_card, holders_visible _ _ _ _ (known_forget hk)] at hl
  have hnil : targets (ordered adapters) (visible (forget s step.lost) step.hidden) b = [] := by
    rw [← List.length_eq_zero_iff, hl]
    omega
  have ht := (mem_creates_plan.1 hc).2
  rw [hnil] at ht
  exact List.not_mem_nil ht

/-- A term plans nothing just if no visible adapter holds what is not desired, and each desired
binding is held by two visible adapters or by all of them. -/
theorem term_idle_iff (hk : Known adapters s) :
    (term adapters s step).1 = ⟨[], []⟩ ↔
      (∀ a b, a ∉ step.hidden → (forget s step.lost).holds a b = true → b ∈ step.desired) ∧
        ∀ b ∈ step.desired, 2 ≤ ((forget s step.lost).holders b ∩ seen adapters step).card ∨
          seen adapters step ⊆ (forget s step.lost).holders b := by
  have hk' : Known adapters (forget s step.lost) := known_forget hk
  rw [term_fst, plan_eq_nil_iff]
  refine and_congr ?_ (forall₂_congr fun b _ => or_congr ?_ ?_)
  · simp only [holds_visible]
    exact ⟨fun h a b ha hs => h a b ⟨hs, ha⟩, fun h a b hab => h a b hab.2 hab.1⟩
  · rw [copies_eq_card, holders_visible _ _ _ _ hk']
  · rw [vacant, reporting_visible step hk', holders_visible _ _ _ _ hk',
      Finset.filter_eq_empty_iff]
    simp only [Finset.mem_inter, not_not]
    exact ⟨fun h a ha => (h ha).1, fun h a ha => ⟨h ha, ha⟩⟩

end Term

/-! ## Copies that outlive an outage -/

theorem known_after {adapters : List String} {s : Holdings} (steps : List Step)
    (h : Known adapters s) : Known adapters (after adapters s steps) := by
  induction steps generalizing s with
  | nil => exact h
  | cons step steps ih =>
    rw [after_cons]
    exact ih (known_term h)

theorem known_start (adapters : List String) : Known adapters (start adapters) := by
  intro a
  rw [start, SortedMap.mem_keys_ofList, List.map_map]
  simp

/-- A term spares a copy that is not lost, if it is hidden or desired. -/
theorem holds_term_of_spared {adapters : List String} {s : Holdings} {step : Step} {a : String}
    {b : Binding} (h : s.holds a b = true) (hl : a ∉ step.lost)
    (hs : a ∈ step.hidden ∨ b ∈ step.desired) : (term adapters s step).2.holds a b = true := by
  have hf : (forget s step.lost).holds a b = true := holds_forget.2 ⟨h, hl⟩
  rcases hs with hh | hd
  · rw [term_snd, term_fst, holds_apply_of_hidden hh, hf]
  · exact holds_term_of_desired hd hf

theorem holds_after_of_spared {adapters : List String} {s : Holdings} {steps : List Step}
    {a : String} {b : Binding} (h : s.holds a b = true)
    (hs : ∀ step ∈ steps, a ∉ step.lost ∧ (a ∈ step.hidden ∨ b ∈ step.desired)) :
    (after adapters s steps).holds a b = true := by
  induction steps generalizing s with
  | nil => exact h
  | cons step steps ih =>
    obtain ⟨hl, hd⟩ := hs step List.mem_cons_self
    rw [after_cons]
    exact ih (holds_term_of_spared h hl hd) fun st hst => hs st (List.mem_cons_of_mem _ hst)

/-! ## Copies that stay where they are -/

/-- No copy of a desired binding is missing that could be created. -/
def Steady (adapters : List String) (s : Holdings) (b : Binding) : Prop :=
  2 ≤ s.copies b ∨ vacant s adapters b = ∅

theorem forget_eq_self {adapters lost : List String} {s : Holdings} (hk : Known adapters s)
    (h : ∀ a ∈ adapters, a ∉ lost) : forget s lost = s := by
  refine ext_holds (fun a => by rw [keys_forget]) fun a b => ?_
  rw [Bool.eq_iff_iff, holds_forget, and_iff_left_iff_imp]
  intro hs
  exact h a ((hk a).1 (mem_keys_of_holds hs))

theorem visible_congr {adapters hidden hidden' : List String} {s : Holdings}
    (hk : Known adapters s) (h : ∀ a ∈ adapters, (a ∈ hidden ↔ a ∈ hidden')) :
    visible s hidden = visible s hidden' := by
  refine ext_holds (fun a => ?_) fun a b => ?_
  · rw [mem_keys_visible, mem_keys_visible]
    refine and_congr_right fun ha => ?_
    rw [h a ((hk a).1 ha)]
  · rw [Bool.eq_iff_iff, holds_visible, holds_visible]
    refine and_congr_right fun hs => ?_
    rw [h a ((hk a).1 (mem_keys_of_holds hs))]

theorem visible_nil (s : Holdings) : visible s [] = s := by
  refine ext_holds (fun a => ?_) fun a b => ?_
  · rw [mem_keys_visible]
    simp
  · rw [Bool.eq_iff_iff, holds_visible]
    simp

/-- Without a disturbance a term is a plan for all that is held. -/
theorem term_of_undisturbed {adapters : List String} {s : Holdings} {step : Step}
    (hk : Known adapters s) (h : Undisturbed adapters step) :
    (term adapters s step).2 = apply s (plan step.desired s adapters) := by
  have hv : visible s step.hidden = visible s [] :=
    visible_congr hk fun a ha => by simp [(h a ha).1]
  rw [term_snd, term_fst, forget_eq_self hk fun a ha => (h a ha).2, hv, visible_nil]

theorem steady_term {adapters : List String} {s : Holdings} {step : Step} {b : Binding}
    (hk : Known adapters s) (h : Undisturbed adapters step) (hb : b ∈ step.desired) :
    Steady adapters (term adapters s step).2 b := by
  rw [term_of_undisturbed hk h]
  exact (plan_eq_nil_iff.1 (plan_apply_plan step.desired s adapters)).2 b hb

theorem holders_term_of_steady {adapters : List String} {s : Holdings} {step : Step} {b : Binding}
    (hk : Known adapters s) (h : Undisturbed adapters step) (hb : b ∈ step.desired)
    (hs : Steady adapters s b) : (term adapters s step).2.holders b = s.holders b := by
  have hnil : targets (ordered adapters) s b = [] := by
    rw [← List.length_eq_zero_iff, length_targets]
    rcases hs with hs | hs
    · omega
    · rw [hs, Finset.card_empty, Nat.min_zero]
  rw [term_of_undisturbed hk h, holders_apply_plan hb, hnil, List.toFinset_nil,
    Finset.union_empty]

theorem holders_after_of_steady {adapters : List String} {s : Holdings} {steps : List Step}
    {b : Binding} (hk : Known adapters s)
    (h : ∀ step ∈ steps, Undisturbed adapters step ∧ b ∈ step.desired)
    (hs : Steady adapters s b) : (after adapters s steps).holders b = s.holders b := by
  induction steps generalizing s with
  | nil => rfl
  | cons step steps ih =>
    obtain ⟨hu, hb⟩ := h step List.mem_cons_self
    rw [after_cons, ih (known_term hk) (fun st hst => h st (List.mem_cons_of_mem _ hst))
      (steady_term hk hu hb), holders_term_of_steady hk hu hb hs]

/-! ## Terms that change nothing -/

/-- A plan depends on the set of desired bindings only. -/
theorem plan_congr_desired {desired desired' : List Binding} (actual : Holdings)
    (adapters : List String) (h : ∀ b, b ∈ desired ↔ b ∈ desired') :
    plan desired actual adapters = plan desired' actual adapters := by
  have e : SortedSet.ofList desired = SortedSet.ofList desired' := by
    refine SortedSet.ext_mem fun b => ?_
    rw [SortedSet.mem_ofList, SortedSet.mem_ofList, h]
  rw [plan, plan, e]

/-- A term after one with the same desired bindings and the same hidden adapters does nothing, if
nothing was lost in between. -/
theorem term_again {adapters : List String} {s : Holdings} {step step' : Step}
    (hk : Known adapters s) (hd : ∀ b, b ∈ step'.desired ↔ b ∈ step.desired)
    (hh : ∀ a ∈ adapters, (a ∈ step'.hidden ↔ a ∈ step.hidden))
    (hl : ∀ a ∈ adapters, a ∉ step'.lost) :
    term adapters (term adapters s step).2 step' = (⟨[], []⟩, (term adapters s step).2) := by
  have hk' : Known adapters (term adapters s step).2 := known_term hk
  have hp : plan step'.desired (visible (term adapters s step).2 step'.hidden) adapters =
      ⟨[], []⟩ := by
    rw [visible_congr hk' hh, plan_congr_desired _ _ hd, visible_term, term_fst, plan_apply_plan]
  have hf := forget_eq_self hk' hl
  rw [term, hf]
  simp only [hp]
  rfl

/-! ## What every run keeps -/

/-- What a term has to do: `before` is what the adapters hold when it plans, after the losses. -/
structure TermSpec (adapters : List String) (before : Holdings) (step : Step) (p : Plan)
    (next : Holdings) : Prop where
  known : Known adapters next
  /-- A hidden adapter holds what it held, and nothing is planned for it. -/
  hidden_kept : ∀ a ∈ step.hidden, next.get? a = before.get? a
  hidden_unplanned : ∀ a ∈ step.hidden, ∀ b, (a, b) ∉ p.creates ∧ (a, b) ∉ p.deletes
  /-- A visible adapter holds desired bindings only; the others were deleted from it. -/
  desired_of_holds : ∀ a, a ∉ step.hidden → ∀ b, next.holds a b = true → b ∈ step.desired
  deleted : ∀ a, a ∉ step.hidden → ∀ b, before.holds a b = true → b ∉ step.desired →
    (a, b) ∈ p.deletes
  /-- Each desired binding has two visible copies, or as many as there are visible adapters. -/
  replicated : ∀ b ∈ step.desired,
    min 2 (seen adapters step).card ≤ (next.holders b ∩ seen adapters step).card
  /-- A desired binding is deleted nowhere, ... -/
  not_deleted : ∀ b ∈ step.desired, ∀ a, (a, b) ∉ p.deletes
  holders_mono : ∀ b ∈ step.desired, before.holders b ⊆ next.holders b
  /-- ... and not created if two visible adapters hold it. -/
  not_created : ∀ b, 2 ≤ (before.holders b ∩ seen adapters step).card → ∀ a, (a, b) ∉ p.creates
  /-- When a plan is empty. -/
  idle_iff : p = ⟨[], []⟩ ↔
    (∀ a b, a ∉ step.hidden → before.holds a b = true → b ∈ step.desired) ∧
      ∀ b ∈ step.desired, 2 ≤ (before.holders b ∩ seen adapters step).card ∨
        seen adapters step ⊆ before.holders b

theorem term_spec {adapters : List String} {s : Holdings} (hk : Known adapters s) (step : Step) :
    TermSpec adapters (forget s step.lost) step (term adapters s step).1
      (term adapters s step).2 where
  known := known_term hk
  hidden_kept a ha := by
    refine get?_congr ?_ fun b => ?_
    · rw [term_snd, term_fst, mem_keys_apply_visible]
    · rw [term_snd, term_fst, holds_apply_of_hidden ha]
  hidden_unplanned a ha b :=
    ⟨fun h => (visible_of_mem_creates h).2 ha, fun h => visible_of_mem_deletes h ha⟩
  desired_of_holds _ ha _ h := desired_of_holds_term ha h
  deleted a ha b h hb := mem_deletes_plan.2 ⟨holds_visible.2 ⟨h, ha⟩, hb⟩
  replicated _ hb := card_holders_term hk hb
  not_deleted b hb a h := (mem_deletes_plan.1 h).2 hb
  holders_mono b hb a ha := mem_holders.2 (holds_term_of_desired hb (mem_holders.1 ha))
  not_created _ h := not_mem_creates_term hk h
  idle_iff := term_idle_iff hk

theorem known_reached (adapters : List String) (steps : List Step) :
    Known adapters (reached adapters steps) :=
  known_after steps (known_start adapters)

theorem reached_append (adapters : List String) (front back : List Step) :
    reached adapters (front ++ back) = after adapters (reached adapters front) back :=
  after_append ..

theorem reached_snoc (adapters : List String) (front : List Step) (step : Step) :
    reached adapters (front ++ [step]) = (term adapters (reached adapters front) step).2 := by
  rw [reached_append, after_cons, after_nil]

/-- **What every run keeps.** A run from empty adapters consists of terms that do what they have
to. A copy that was hidden or desired in all terms of an interval is deleted by the next term in
which it is neither. In a segment without disturbances the holders of a binding that stays desired
are those that the first of its terms leaves. A term that repeats the one before it, with nothing
lost, does nothing. -/
theorem run_invariant (adapters : List String) :
    (∀ front step back,
      run adapters (start adapters) (front ++ step :: back) =
        run adapters (start adapters) front ++ term adapters (reached adapters front) step ::
          run adapters (reached adapters (front ++ [step])) back ∧
      TermSpec adapters (forget (reached adapters front) step.lost) step
        (term adapters (reached adapters front) step).1 (reached adapters (front ++ [step]))) ∧
    (∀ front mid step a b, (reached adapters front).holds a b = true →
      (∀ st ∈ mid, a ∉ st.lost ∧ (a ∈ st.hidden ∨ b ∈ st.desired)) →
      a ∉ step.lost → a ∉ step.hidden → b ∉ step.desired →
        (reached adapters (front ++ mid)).holds a b = true ∧
        (a, b) ∈ (term adapters (reached adapters (front ++ mid)) step).1.deletes ∧
        (reached adapters (front ++ mid ++ [step])).holds a b = false) ∧
    (∀ front first rest b,
      (∀ st ∈ first :: rest, Undisturbed adapters st ∧ b ∈ st.desired) →
        (reached adapters (front ++ first :: rest)).holders b =
          (reached adapters (front ++ [first])).holders b) ∧
    (∀ front step step', (∀ b, b ∈ step'.desired ↔ b ∈ step.desired) →
      (∀ a ∈ adapters, (a ∈ step'.hidden ↔ a ∈ step.hidden)) → (∀ a ∈ adapters, a ∉ step'.lost) →
        term adapters (reached adapters (front ++ [step])) step' =
          (⟨[], []⟩, reached adapters (front ++ [step]))) := by
  have hk := known_reached adapters
  refine ⟨?_, ?_, ?_, ?_⟩
  · intro front step back
    rw [run_append, run, reached_snoc]
    exact ⟨rfl, term_spec (hk front) step⟩
  · intro front mid step a b h hmid hl hh hd
    have hheld : (reached adapters (front ++ mid)).holds a b = true := by
      rw [reached_append]
      exact holds_after_of_spared h hmid
    have hspec := term_spec (hk (front ++ mid)) step
    refine ⟨hheld, hspec.deleted a hh b (holds_forget.2 ⟨hheld, hl⟩) hd, ?_⟩
    rw [reached_snoc, ← Bool.not_eq_true]
    exact fun hn => hd (hspec.desired_of_holds a hh b hn)
  · intro front first rest b h
    obtain ⟨hu, hb⟩ := h first List.mem_cons_self
    rw [reached_snoc, reached_append, after_cons]
    exact holders_after_of_steady (known_term (hk front))
      (fun st hst => h st (List.mem_cons_of_mem _ hst)) (steady_term (hk front) hu hb)
  · intro front step step' hd hh hl
    rw [reached_snoc]
    exact term_again (hk front) hd hh hl

/-- A binding is placed on both of two adapters. One is down when the binding is dropped, so its
copy outlives that term and is deleted by the next. Before that, a term that repeats the first one
does nothing, and another binding that comes in leaves the copies where they are. -/
theorem run_with_outage :
    let b : Binding := ⟨"app", "host", "drain"⟩
    let c : Binding := ⟨"app", "other", "drain"⟩
    let state := reached ["n", "m"]
    let placed : Step := ⟨[b], [], []⟩
    let more : Step := ⟨[c, b], [], []⟩
    let down : Step := ⟨[], ["m"], []⟩
    let up : Step := ⟨[], [], []⟩
    (state [placed]).holds "m" b = true ∧
      (("m", b) ∈ (term ["n", "m"] (state [placed, down]) up).1.deletes ∧
        (state [placed, down, up]).holds "m" b = false) ∧
      (state [placed, more]).holders b = (state [placed]).holders b ∧
      term ["n", "m"] (state [placed]) placed = (⟨[], []⟩, state [placed]) := by
  intro b c state placed more down up
  obtain ⟨-, hstale, hstay, hagain⟩ := run_invariant ["n", "m"]
  have hheld : (state [placed]).holds "m" b = true := by decide +kernel
  have hspared : ∀ st ∈ [down], "m" ∉ st.lost ∧ ("m" ∈ st.hidden ∨ b ∈ st.desired) := by decide
  have hcalm : ∀ st ∈ [placed, more], Undisturbed ["n", "m"] st ∧ b ∈ st.desired := by
    simp [placed, more, Undisturbed]
  refine ⟨hheld, ?_, hstay [] placed [more] b hcalm, ?_⟩
  · exact (hstale [placed] [down] up "m" b hheld hspared (by decide) (by decide) (by decide)).2
  · exact hagain [] placed placed (fun _ => Iff.rfl) (fun _ _ => Iff.rfl) (by simp [placed])

end LogEgress.Placement
