import LogEgress.Proofs.Egress.Retry
import Mathlib.Algebra.BigOperators.Intervals

set_option autoImplicit false

/-! # How often a write is repeated

A write is repeated until an attempt settles it, until no other attempt is allowed, or until the
writer is cancelled. Attempts last here, so that the cancellation may come before one of them,
during one, or in the wait after it (`attemptLasting`). Where they take no time this is the layer
that repeats failed writes (`run_eq_write`).

A `Trial` numbers the attempts that are made if nothing ends the write. It makes those up to the
first after which it does not go on, and the main theorem, `every_write_lawful`, says which one
that is and what comes of it.
-/

namespace LogEgress.Egress.Retry

variable {σ : Type}

/-- Makes an attempt, and up to `more` further ones; a call of the writer below, counted from 0,
lasts for the time that `took` says. -/
def attemptLasting (took : Nat → Nat) (policy : Policy) (inner : Writer σ) (e : Envelope) :
    Nat → Nat → Progress → σ → Outcome × Progress × σ
  | more, k, p, s =>
    let (result, s) := inner.write e s
    let p := { p with now := p.now + took p.calls, calls := p.calls + 1 }
    match result with
    | .ok () => (⟨.ok (), [], []⟩, p, s)
    | .error err =>
      if err.isPermanent || policy.cancellation.isDue p then (⟨.error err, [], []⟩, p, s)
      else match more with
        | 0 => (⟨.error err, [], [giveUpNotice policy.drain (k + 1) err]⟩, p, s)
        | more + 1 =>
          let wakeUp := p.now + policy.delay k
          match policy.cancellation.cutsWait? wakeUp with
          | some t => (⟨.error .cancelled, [k], []⟩, { p with now := t, wasCut := true }, s)
          | none =>
            let (o, p, s) :=
              attemptLasting took policy inner e more (k + 1) { p with now := wakeUp } s
            ({ o with asked := k :: o.asked }, p, s)

theorem attemptLasting_zero (policy : Policy) (inner : Writer σ) (e : Envelope) (more k : Nat)
    (p : Progress) (s : σ) :
    attemptLasting (fun _ => 0) policy inner e more k p s = attempt policy inner e more k p s := by
  induction more generalizing k p s with
  | zero =>
    unfold attemptLasting attempt
    rcases inner.write e s with ⟨_ | _, _⟩ <;> rfl
  | succ more ih =>
    unfold attemptLasting attempt
    rcases inner.write e s with ⟨err | _, i⟩
    · cases hcut : policy.cancellation.cutsWait? (p.now + policy.delay k) <;>
        simp only [ih, Nat.add_zero, hcut]
    · rfl

/-! ## The attempts of a write -/

/-- A write that is about to begin. -/
structure Trial (σ : Type) where
  policy : Policy
  /-- How long each call of the writer below lasts. -/
  took : Nat → Nat
  inner : Writer σ
  envelope : Envelope
  start : Progress
  below : σ

namespace Trial

variable (t : Trial σ)

/-- How many attempts may be made. -/
def allowed : Nat := max 1 t.policy.maxAttempts

/-- The writer below after a number of attempts, whatever came of them. -/
def stateAt : Nat → σ
  | 0 => t.below
  | i + 1 => (t.inner.write t.envelope (stateAt i)).2

/-- How an attempt ends. -/
def answer (i : Nat) : Result := (t.inner.write t.envelope (t.stateAt i)).1

/-- The progress when an attempt begins, if the waits before it were waited out. -/
def before (i : Nat) : Progress :=
  { t.start with
    now := t.start.now + ∑ j ∈ Finset.range i, (t.took (t.start.calls + j) + t.policy.delay j)
    calls := t.start.calls + i }

/-- The progress when an attempt ends. -/
def after (i : Nat) : Progress :=
  { t.before i with
    now := (t.before i).now + t.took (t.start.calls + i)
    calls := t.start.calls + i + 1 }

/-- An attempt fails, but another one may succeed. -/
def Fails (i : Nat) (err : Error) : Prop := t.answer i = .error err ∧ err.isPermanent = false

/-- The cancellation comes before an attempt or during it. -/
def CancelledBy (i : Nat) : Prop :=
  t.start.wasCut = true ∨ (∃ n, t.policy.cancellation.duringCall = some n ∧
    n ≤ t.start.calls + i + 1) ∨
      ∃ u, t.policy.cancellation.atTime = some u ∧ u < (t.after i).now

/-- The cancellation comes at a time in the wait after an attempt. -/
def CutAt (i u : Nat) : Prop :=
  t.policy.cancellation.atTime = some u ∧ (t.after i).now ≤ u ∧
    u < (t.after i).now + t.policy.delay i

/-- After an attempt another one is made. -/
def GoesOn (i : Nat) : Prop :=
  (∃ err, t.Fails i err) ∧ ¬ t.CancelledBy i ∧ i + 1 < t.allowed ∧ ∀ u, ¬ t.CutAt i u

/-- How a write ends after an attempt. -/
inductive EndsAfter (i : Nat) : Outcome → Progress → Prop where
  /-- The attempt succeeded, or there is no use in another one. -/
  | settled : (∀ err, ¬ t.Fails i err) → EndsAfter i ⟨t.answer i, List.range i, []⟩ (t.after i)
  /-- There is no time for another one. -/
  | cancelled {err : Error} : t.Fails i err → t.CancelledBy i →
      EndsAfter i ⟨t.answer i, List.range i, []⟩ (t.after i)
  | exhausted {err : Error} : t.Fails i err → ¬ t.CancelledBy i → i + 1 = t.allowed →
      EndsAfter i ⟨t.answer i, List.range i, [giveUpNotice t.policy.drain t.allowed err]⟩
        (t.after i)
  | cut {err : Error} {u : Nat} : t.Fails i err → ¬ t.CancelledBy i → i + 1 < t.allowed →
      t.CutAt i u → EndsAfter i ⟨.error .cancelled, List.range (i + 1), []⟩
        { t.after i with now := u, wasCut := true }

/-- An attempt, with up to `more` further ones, after the attempts before it. -/
def onward (more i : Nat) : Outcome × Progress × σ :=
  attemptLasting t.took t.policy t.inner t.envelope more i (t.before i) (t.stateAt i)

/-- The write. -/
def run : Outcome × Progress × σ :=
  attemptLasting t.took t.policy t.inner t.envelope (t.allowed - 1) 0 t.start t.below

theorem run_eq_write (policy : Policy) (inner : Writer σ) (e : Envelope) (p : Progress) (s : σ) :
    run ⟨policy, fun _ => 0, inner, e, p, s⟩ = write policy inner e p s :=
  attemptLasting_zero ..

/-! ## One attempt -/

section Attempt

variable {t} {more i : Nat} {err : Error}

theorem allowed_pos (t : Trial σ) : 0 < t.allowed := Nat.le_max_left _ _

theorem before_zero (t : Trial σ) : t.before 0 = t.start := by
  simp [before]

theorem before_succ (t : Trial σ) (i : Nat) :
    t.before (i + 1) = { t.after i with now := (t.after i).now + t.policy.delay i } := by
  simp only [before, after, Finset.sum_range_succ, Progress.mk.injEq, and_true]
  omega

theorem write_stateAt (t : Trial σ) (i : Nat) :
    t.inner.write t.envelope (t.stateAt i) = (t.answer i, t.stateAt (i + 1)) := rfl

theorem isDue_after (t : Trial σ) (i : Nat) :
    t.policy.cancellation.isDue (t.after i) = true ↔ t.CancelledBy i := by
  simp only [Cancellation.isDue, CancelledBy, Bool.or_eq_true, Option.any_eq_true,
    decide_eq_true_eq, or_assoc]
  rfl

instance (t : Trial σ) (i : Nat) : Decidable (t.CancelledBy i) :=
  decidable_of_iff _ (t.isDue_after i)

instance (t : Trial σ) (i u : Nat) : Decidable (t.CutAt i u) :=
  inferInstanceAs (Decidable (_ ∧ _ ∧ _))

theorem cutsWait?_after (h : ¬ t.CancelledBy i) (u : Nat) :
    t.policy.cancellation.cutsWait? ((t.after i).now + t.policy.delay i) = some u ↔
      t.CutAt i u := by
  simp only [Cancellation.cutsWait?, Option.filter_eq_some_iff, decide_eq_true_eq, CutAt]
  constructor
  · rintro ⟨hu, hlt⟩
    refine ⟨hu, ?_, hlt⟩
    -- A time that has passed would have cancelled the attempt.
    by_contra hnot
    exact h (.inr (.inr ⟨u, hu, by omega⟩))
  · rintro ⟨hu, -, hlt⟩
    exact ⟨hu, hlt⟩

theorem onward_of_ok (h : t.answer i = .ok ()) :
    t.onward more i = (⟨t.answer i, [], []⟩, t.after i, t.stateAt (i + 1)) := by
  unfold onward attemptLasting
  rw [write_stateAt, h]
  rfl

theorem onward_of_stops (h : t.answer i = .error err)
    (hstops : t.policy.cancellation.stops err (t.after i) = true) :
    t.onward more i = (⟨t.answer i, [], []⟩, t.after i, t.stateAt (i + 1)) := by
  unfold onward attemptLasting
  rw [write_stateAt, h]
  exact if_pos hstops

theorem onward_zero (h : t.answer i = .error err)
    (hstops : t.policy.cancellation.stops err (t.after i) = false) :
    t.onward 0 i = (⟨t.answer i, [], [giveUpNotice t.policy.drain (i + 1) err]⟩, t.after i,
      t.stateAt (i + 1)) := by
  unfold onward attemptLasting
  rw [write_stateAt, h]
  exact if_neg (Bool.eq_false_iff.1 hstops)

theorem onward_succ_of_cut {u : Nat} (h : t.answer i = .error err)
    (hstops : t.policy.cancellation.stops err (t.after i) = false)
    (hcut : t.policy.cancellation.cutsWait? ((t.after i).now + t.policy.delay i) = some u) :
    t.onward (more + 1) i = (⟨.error .cancelled, [i], []⟩,
      { t.after i with now := u, wasCut := true }, t.stateAt (i + 1)) := by
  unfold onward attemptLasting
  rw [write_stateAt, h]
  refine (if_neg (Bool.eq_false_iff.1 hstops)).trans ?_
  change (match t.policy.cancellation.cutsWait? ((t.after i).now + t.policy.delay i) with
    | some _ => _
    | none => _) = _
  rw [hcut]
  rfl

theorem onward_succ_of_wait (h : t.answer i = .error err)
    (hstops : t.policy.cancellation.stops err (t.after i) = false)
    (hcut : t.policy.cancellation.cutsWait? ((t.after i).now + t.policy.delay i) = none) :
    t.onward (more + 1) i =
      let (o, p, s) := t.onward more (i + 1)
      ({ o with asked := i :: o.asked }, p, s) := by
  unfold onward
  rw [attemptLasting, write_stateAt, h, before_succ]
  refine (if_neg (Bool.eq_false_iff.1 hstops)).trans ?_
  change (match t.policy.cancellation.cutsWait? ((t.after i).now + t.policy.delay i) with
    | some _ => _
    | none => _) = _
  rw [hcut]
  rfl

theorem Fails.unique {err' : Error} (h : t.Fails i err) (h' : t.Fails i err') : err = err' := by
  have heq := h.1.symm.trans h'.1
  simpa using heq

/-- An attempt settles the write, or it fails for the time being. -/
theorem settled_or_fails (t : Trial σ) (more i : Nat) :
    ((∀ err, ¬ t.Fails i err) ∧
      t.onward more i = (⟨t.answer i, [], []⟩, t.after i, t.stateAt (i + 1))) ∨
    ∃ err, t.Fails i err := by
  cases h : t.answer i with
  | ok u =>
    refine .inl ⟨fun err hf => ?_, h ▸ onward_of_ok h⟩
    have heq := h.symm.trans hf.1
    cases heq
  | error err =>
    by_cases hperm : err.isPermanent = true
    · refine .inl ⟨?_, h ▸ onward_of_stops h (by simp [Cancellation.stops, hperm])⟩
      rintro err' ⟨heq, htransient⟩
      obtain rfl : err = err' := by simpa [h] using heq
      simp [hperm] at htransient
    · exact .inr ⟨err, h, by simpa using hperm⟩

/-- Either the write ends after an attempt, or another one is made. -/
theorem onward_cases (t : Trial σ) (more i : Nat) (hmore : i + more + 1 = t.allowed) :
    (∃ o p, t.onward more i = (o, p, t.stateAt (i + 1)) ∧
      t.EndsAfter i { o with asked := List.range i ++ o.asked } p) ∨
    (t.GoesOn i ∧ ∃ rest, more = rest + 1 ∧ t.onward more i =
      let (o, p, s) := t.onward rest (i + 1)
      ({ o with asked := i :: o.asked }, p, s)) := by
  -- The cases come in the order in which an attempt asks for them.
  rcases t.settled_or_fails more i with ⟨hsettled, heq⟩ | ⟨err, hfails⟩
  · refine .inl ⟨_, _, heq, ?_⟩
    simpa using EndsAfter.settled hsettled
  · by_cases hcancelled : t.CancelledBy i
    · have hstops : t.policy.cancellation.stops err (t.after i) = true := by
        simp [Cancellation.stops, (t.isDue_after i).2 hcancelled]
      refine .inl ⟨_, _, onward_of_stops hfails.1 hstops, ?_⟩
      simpa using EndsAfter.cancelled hfails hcancelled
    · have hopen : t.policy.cancellation.stops err (t.after i) = false := by
        simpa [Cancellation.stops, hfails.2] using mt (t.isDue_after i).1 hcancelled
      cases more with
      | zero =>
        have hlast : i + 1 = t.allowed := by omega
        refine .inl ⟨_, _, onward_zero hfails.1 hopen, ?_⟩
        simpa [hlast] using EndsAfter.exhausted hfails hcancelled hlast
      | succ rest =>
        have hanother : i + 1 < t.allowed := by omega
        cases hcut : t.policy.cancellation.cutsWait? ((t.after i).now + t.policy.delay i) with
        | some u =>
          have hu := (cutsWait?_after hcancelled u).1 hcut
          refine .inl ⟨_, _, onward_succ_of_cut hfails.1 hopen hcut, ?_⟩
          simpa [List.range_succ] using EndsAfter.cut hfails hcancelled hanother hu
        | none =>
          have hnever : ∀ u, ¬ t.CutAt i u := fun u hu => by
            have hsome := (cutsWait?_after hcancelled u).2 hu
            simp [hcut] at hsome
          exact .inr ⟨⟨⟨err, hfails⟩, hcancelled, hanother, hnever⟩, rest, rfl,
            onward_succ_of_wait hfails.1 hopen hcut⟩

end Attempt

/-! ## The whole write -/

/-- The write goes on up to some attempt, after which it ends. The induction is on the attempts
that may still be made. -/
theorem exists_endsAfter (more i : Nat) (hmore : i + more + 1 = t.allowed) :
    ∃ m o p, t.onward more i = (o, p, t.stateAt (m + 1)) ∧
      i ≤ m ∧ m < t.allowed ∧ (∀ j, i ≤ j → j < m → t.GoesOn j) ∧
      t.EndsAfter m { o with asked := List.range i ++ o.asked } p := by
  induction more generalizing i with
  | zero =>
    rcases t.onward_cases 0 i hmore with ⟨o, p, heq, hends⟩ | ⟨-, rest, hrest, -⟩
    · exact ⟨i, o, p, heq, le_refl i, by omega, fun j _ _ => by omega, hends⟩
    · omega
  | succ more ih =>
    rcases t.onward_cases (more + 1) i hmore with ⟨o, p, heq, hends⟩ | ⟨hgoes, rest, hrest, heq⟩
    · exact ⟨i, o, p, heq, le_refl i, by omega, fun j _ _ => by omega, hends⟩
    · obtain rfl : more = rest := by omega
      obtain ⟨m, o, p, hrun, hle, hlt, hgo, hends⟩ := ih (i + 1) (by omega)
      refine ⟨m, { o with asked := i :: o.asked }, p, ?_, by omega, hlt, ?_, ?_⟩
      · rw [heq, hrun]
      · intro j hj hjm
        rcases Nat.eq_or_lt_of_le hj with rfl | hj
        · exact hgoes
        · exact hgo j hj hjm
      · simpa [List.range_succ] using hends

theorem exists_run_eq :
    ∃ m o p, t.run = (o, p, t.stateAt (m + 1)) ∧ m < t.allowed ∧ (∀ i < m, t.GoesOn i) ∧
      t.EndsAfter m o p := by
  have hmore : 0 + (t.allowed - 1) + 1 = t.allowed := by
    have hpos := t.allowed_pos
    omega
  obtain ⟨m, o, p, heq, -, hlt, hgo, hends⟩ := t.exists_endsAfter (t.allowed - 1) 0 hmore
  rw [onward, before_zero] at heq
  exact ⟨m, o, p, heq, hlt, fun i hi => hgo i (Nat.zero_le i) hi, by simpa using hends⟩

/-- The attempt after which a write ends is the first one after which it does not go on. -/
theorem eq_of_not_goesOn {t : Trial σ} {m i : Nat} (hm : ∀ j < m, t.GoesOn j)
    (hi : ∀ j < i, t.GoesOn j) (hnot : ¬ t.GoesOn m) (hnot' : ¬ t.GoesOn i) : m = i := by
  rcases Nat.lt_trichotomy m i with h | h | h
  · exact absurd (hi m h) hnot
  · exact h
  · exact absurd (hm i h) hnot'

theorem EndsAfter.not_goesOn {t : Trial σ} {m : Nat} {o : Outcome} {p : Progress}
    (h : t.EndsAfter m o p) : ¬ t.GoesOn m := by
  rintro ⟨⟨err, hfails⟩, hopen, hlt, hcut⟩
  cases h with
  | settled h => exact h err hfails
  | cancelled _ hc => exact hopen hc
  | exhausted _ _ hlast => omega
  | cut _ _ _ hu => exact hcut _ hu

theorem now_after (m : Nat) :
    (t.after m).now = t.start.now + (∑ j ∈ Finset.range (m + 1), t.took (t.start.calls + j)) +
      ∑ j ∈ Finset.range m, t.policy.delay j := by
  simp only [after, before, Finset.sum_add_distrib, Finset.sum_range_succ]
  omega

theorem EndsAfter.calls_eq {t : Trial σ} {m : Nat} {o : Outcome} {p : Progress}
    (h : t.EndsAfter m o p) : p.calls = t.start.calls + m + 1 := by
  cases h <;> rfl

/-! ## The law -/

/-- What a write comes to that makes the attempts from 0 to `m`. -/
structure Lawful (m : Nat) (o : Outcome) (p : Progress) : Prop where
  /-- There is at least one attempt, and there are no more than may be. -/
  calls_eq : p.calls = t.start.calls + m + 1
  lt_allowed : m < t.allowed
  /-- The number of an attempt fits wherever the greatest number of attempts does. -/
  number_lt : t.policy.maxAttempts < 2 ^ 32 → ∀ i ≤ m, i + 1 < 2 ^ 32
  goesOn : ∀ i < m, t.GoesOn i
  ends : t.EndsAfter m o p
  /-- If no cancellation comes, the last attempt is the first that settles the write, or the last
  that is allowed; its result is that of the write, and all waits are waited out. -/
  undisturbed : (∀ i ≤ m, ¬ t.CancelledBy i ∧ ∀ u, ¬ t.CutAt i u) →
    (∀ err, t.Fails m err → m + 1 = t.allowed) ∧ o.result = t.answer m ∧ o.asked = List.range m ∧
    p.now = t.start.now + (∑ j ∈ Finset.range (m + 1), t.took (t.start.calls + j)) +
      ∑ j ∈ Finset.range m, t.policy.delay j ∧
    (∀ err, t.Fails m err → o.notices = [giveUpNotice t.policy.drain t.allowed err]) ∧
    ((∀ err, ¬ t.Fails m err) → o.notices = [])
  /-- An attempt before or during which the cancellation comes is the last one, and nothing follows
  it. -/
  cancelled : ∀ i < t.allowed, (∀ j < i, t.GoesOn j) → t.CancelledBy i →
    m = i ∧ o = ⟨t.answer i, List.range i, []⟩ ∧ p = t.after i
  /-- A wait in which the cancellation comes ends with it. -/
  cut : ∀ i, i + 1 < t.allowed → (∀ j < i, t.GoesOn j) → ∀ err, t.Fails i err →
    ¬ t.CancelledBy i → ∀ u, t.CutAt i u →
    m = i ∧ o = ⟨.error .cancelled, List.range (i + 1), []⟩ ∧
      p = { t.after i with now := u, wasCut := true }

variable {t} {m : Nat} {o : Outcome} {p : Progress}

theorem EndsAfter.of_undisturbed (h : t.EndsAfter m o p) (hopen : ¬ t.CancelledBy m)
    (hcut : ∀ u, ¬ t.CutAt m u) :
    (∀ err, t.Fails m err → m + 1 = t.allowed) ∧ o.result = t.answer m ∧ o.asked = List.range m ∧
      p = t.after m ∧
      (∀ err, t.Fails m err → o.notices = [giveUpNotice t.policy.drain t.allowed err]) ∧
      ((∀ err, ¬ t.Fails m err) → o.notices = []) := by
  cases h with
  | settled hs =>
    exact ⟨fun err he => absurd he (hs err), rfl, rfl, rfl, fun err he => absurd he (hs err),
      fun _ => rfl⟩
  | cancelled _ hc => exact absurd hc hopen
  | @exhausted err hf _ hlast =>
    refine ⟨fun _ _ => hlast, rfl, rfl, rfl, fun err' he => ?_, fun hs => absurd hf (hs err)⟩
    rw [he.unique hf]
  | cut _ _ _ hu => exact absurd hu (hcut _)

theorem EndsAfter.of_cancelled (h : t.EndsAfter m o p) (hc : t.CancelledBy m) :
    o = ⟨t.answer m, List.range m, []⟩ ∧ p = t.after m := by
  cases h with
  | settled => exact ⟨rfl, rfl⟩
  | cancelled => exact ⟨rfl, rfl⟩
  | exhausted _ hopen => exact absurd hc hopen
  | cut _ hopen => exact absurd hc hopen

theorem EndsAfter.of_cut (h : t.EndsAfter m o p) {err : Error} {u : Nat} (hf : t.Fails m err)
    (hopen : ¬ t.CancelledBy m) (hlt : m + 1 < t.allowed) (hu : t.CutAt m u) :
    o = ⟨.error .cancelled, List.range (m + 1), []⟩ ∧
      p = { t.after m with now := u, wasCut := true } := by
  cases h with
  | settled hs => exact absurd hf (hs err)
  | cancelled _ hc => exact absurd hc hopen
  | exhausted _ _ hlast => omega
  | cut _ _ _ hu' =>
    -- There is one time of cancellation.
    obtain rfl := Option.some.inj (hu.1.symm.trans hu'.1)
    exact ⟨rfl, rfl⟩

theorem EndsAfter.lawful (h : t.EndsAfter m o p) (hlt : m < t.allowed)
    (hgo : ∀ i < m, t.GoesOn i) : t.Lawful m o p where
  calls_eq := h.calls_eq
  lt_allowed := hlt
  number_lt := by
    intro hfits i hi
    have hallowed : t.allowed < 2 ^ 32 := by
      simp only [allowed]
      omega
    omega
  goesOn := hgo
  ends := h
  undisturbed := by
    intro hnever
    obtain ⟨hopen, hcut⟩ := hnever m (le_refl m)
    obtain ⟨hlast, hresult, hasked, rfl, hnotice, hnone⟩ := h.of_undisturbed hopen hcut
    exact ⟨hlast, hresult, hasked, t.now_after m, hnotice, hnone⟩
  cancelled := by
    intro i hi hbefore hc
    obtain rfl : m = i := eq_of_not_goesOn hgo hbefore h.not_goesOn fun hg => hg.2.1 hc
    exact ⟨rfl, h.of_cancelled hc⟩
  cut := by
    intro i hi hbefore err hf hopen u hu
    obtain rfl : m = i := eq_of_not_goesOn hgo hbefore h.not_goesOn fun hg => hg.2.2.2 u hu
    exact ⟨rfl, h.of_cut hf hopen hi hu⟩

/-- **The law of repeated writes.** Whatever the answers of the writer below, the waits between
attempts, and the moment of the cancellation: a write makes attempts as long as each of them fails
for the time being, another is allowed, and no cancellation comes; and `Lawful` says what its last
attempt comes to. Where attempts take no time, this is the write of the layer itself. -/
theorem every_write_lawful (policy : Policy) (took : Nat → Nat) (inner : Writer σ) (e : Envelope)
    (p : Progress) (s : σ) :
    (∃ m o p', run ⟨policy, took, inner, e, p, s⟩ =
        (o, p', stateAt ⟨policy, took, inner, e, p, s⟩ (m + 1)) ∧
      Lawful ⟨policy, took, inner, e, p, s⟩ m o p') ∧
    run ⟨policy, fun _ => 0, inner, e, p, s⟩ = write policy inner e p s := by
  obtain ⟨m, o, p', heq, hlt, hgo, hends⟩ := exists_run_eq ⟨policy, took, inner, e, p, s⟩
  exact ⟨⟨m, o, p', heq, hends.lawful hlt hgo⟩, run_eq_write policy inner e p s⟩

/-- Attempts last four units and fail. Of three that are allowed two are made: the wait after the
second one is cut short at time 20. Told at time 16, during the second attempt, the write ends with
that attempt's own error. Undisturbed, it gives up after the third one at time 42. -/
theorem lawful_when_told_early_and_late :
    let trial (c : Cancellation) : Trial Script :=
      ⟨⟨3, fun k => 10 * (k + 1), c, "syslog://drain"⟩, fun _ => 4, Script.writer,
        ⟨"app", "0", 0, {}, some ⟨[104, 105], .out⟩⟩, {},
        .ofAnswers [.error .dialTimeout, .error .ioTimeout, .error .dialTimeout] (.ok ())⟩
    ((trial { atTime := some 20 }).run.1 = ⟨.error .cancelled, [0, 1], []⟩ ∧
      (trial { atTime := some 20 }).run.2.1 = ⟨20, 2, true⟩) ∧
    ((trial { atTime := some 16 }).run.1 = ⟨.error .ioTimeout, [0], []⟩ ∧
      (trial { atTime := some 16 }).run.2.1 = ⟨18, 2, false⟩) ∧
    (trial {}).run.1.asked = [0, 1] ∧ (trial {}).run.2.1.now = 42 := by
  intro trial
  have hlaw (c : Cancellation) : ∃ m o p, (trial c).run = (o, p, (trial c).stateAt (m + 1)) ∧
      (trial c).Lawful m o p := (every_write_lawful _ _ _ _ _ _).1
  have hgo (u : Nat) (hopen : ¬ (trial { atTime := some u }).CancelledBy 0) (hu : 14 ≤ u) :
      ∀ j < 1, (trial { atTime := some u }).GoesOn j := by
    intro j hj
    obtain rfl : j = 0 := by omega
    refine ⟨⟨.dialTimeout, rfl, rfl⟩, hopen, (by decide : 0 + 1 < 3), ?_⟩
    rintro v ⟨hv, -, hlt⟩
    obtain rfl : u = v := Option.some.inj hv
    have hend : u < 14 := hlt
    omega
  refine ⟨?_, ?_, ?_⟩
  · obtain ⟨m, o, p, hrun, h⟩ := hlaw { atTime := some 20 }
    obtain ⟨-, rfl, rfl⟩ := h.cut 1 (by decide) (hgo 20 (by decide) (by decide)) .ioTimeout
      ⟨rfl, rfl⟩ (by decide) 20 (by decide)
    rw [hrun]
    exact ⟨rfl, rfl⟩
  · obtain ⟨m, o, p, hrun, h⟩ := hlaw { atTime := some 16 }
    obtain ⟨-, rfl, rfl⟩ := h.cancelled 1 (by decide) (hgo 16 (by decide) (by decide)) (by decide)
    rw [hrun]
    exact ⟨rfl, rfl⟩
  · obtain ⟨m, o, p, hrun, h⟩ := hlaw {}
    have hnever : ∀ i ≤ m, ¬ (trial {}).CancelledBy i ∧ ∀ u, ¬ (trial {}).CutAt i u := by
      refine fun i _ => ⟨?_, fun u hu => nomatch hu.1⟩
      rintro (hcut | ⟨n, hn, -⟩ | ⟨u, hu, -⟩)
      · cases hcut
      · cases hn
      · cases hu
    obtain ⟨hlast, -, hasked, hnow, -⟩ := h.undisturbed hnever
    -- None of the three attempts settles the write.
    have hm : m = 2 := by
      have hlt : m < 3 := h.lt_allowed
      obtain rfl | rfl | rfl : m = 0 ∨ m = 1 ∨ m = 2 := by omega
      · exact absurd (hlast .dialTimeout ⟨rfl, rfl⟩) (by decide)
      · exact absurd (hlast .ioTimeout ⟨rfl, rfl⟩) (by decide)
      · rfl
    subst hm
    rw [hrun]
    exact ⟨hasked, hnow⟩

end Trial

end LogEgress.Egress.Retry
