import LogEgress.Proofs.Placement.Plan
import LogEgress.Proofs.Scheduler.Session
import Mathlib.Algebra.Order.BigOperators.Group.List
import Mathlib.Algebra.Order.Group.Nat
import Mathlib.Tactic.Push

set_option autoImplicit false

/-! # The course of a term

Under every schedule a term goes through its stages in their order, and each stage begins with what
the stage before it came to (`course_run`). From wherever a schedule has led it, a term can be led
to its end (`exists_ended`). What it creates is desired (`createsDesired_run`).
-/

namespace LogEgress.Scheduler

variable {σ : Type} {srv : Server σ} {deadlines : Deadlines}

/-! ## Stages -/

/-- The workers that ask the adapters what they hold. -/
def listers (fleet : Fleet σ) : List (Worker σ) := (Session.start fleet).workers

/-- The workers that carry out the deletions of a plan. -/
def deleters (srv : Server σ) (deadlines : Deadlines) (fleet : Fleet σ) (plan : Placement.Plan) :
    List (Worker σ) :=
  ((listers fleet).map (·.conclude srv deadlines)).map (·.assign .delete plan.deletes)

/-- The workers that carry out the creations of a plan after its deletions. -/
def creators (srv : Server σ) (deadlines : Deadlines) (fleet : Fleet σ) (plan : Placement.Plan) :
    List (Worker σ) :=
  ((deleters srv deadlines fleet plan).map (·.conclude srv deadlines)).map
    (·.assign .create plan.creates)

/-- The number of successes that workers come to. -/
def successes (srv : Server σ) (deadlines : Deadlines) (us : List (Worker σ)) : Nat :=
  (us.map fun u => (u.finish srv deadlines).succeeded).sum

/-- How far a term has come: each stage begins where the stage before it has ended for all
adapters. -/
inductive Course (srv : Server σ) (deadlines : Deadlines) (desired : List Binding)
    (fleet : Fleet σ) : Session σ → Prop where
  | listing {ws : List (Worker σ)} {t : List Event}
      (lists : Underway srv deadlines (listers fleet) ws t) :
      Course srv deadlines desired fleet ⟨ws, .listing, ⟨[], []⟩, 0, 0, t⟩
  | deleting {plan : Placement.Plan} {ws : List (Worker σ)} {t t' : List Event}
      (lists : Over srv deadlines (listers fleet) t)
      (planned : plan = Placement.plan desired (known t) (fleet.map Prod.fst))
      (deletes : Underway srv deadlines (deleters srv deadlines fleet plan) ws t') :
      Course srv deadlines desired fleet ⟨ws, .deleting, plan, 0, 0, t ++ t'⟩
  | creating {plan : Placement.Plan} {ws : List (Worker σ)} {t t' t'' : List Event}
      (lists : Over srv deadlines (listers fleet) t)
      (planned : plan = Placement.plan desired (known t) (fleet.map Prod.fst))
      (deletes : Over srv deadlines (deleters srv deadlines fleet plan) t')
      (creates : Underway srv deadlines (creators srv deadlines fleet plan) ws t'') :
      Course srv deadlines desired fleet ⟨ws, .creating, plan,
        successes srv deadlines (deleters srv deadlines fleet plan), 0, t ++ t' ++ t''⟩
  | ended {plan : Placement.Plan} {ws : List (Worker σ)} {t t' t'' : List Event}
      (lists : Over srv deadlines (listers fleet) t)
      (planned : plan = Placement.plan desired (known t) (fleet.map Prod.fst))
      (deletes : Over srv deadlines (deleters srv deadlines fleet plan) t')
      (creates : Underway srv deadlines (creators srv deadlines fleet plan) ws t'')
      (done : ∀ w ∈ ws, w.left = []) :
      Course srv deadlines desired fleet ⟨ws, .ended, plan,
        successes srv deadlines (deleters srv deadlines fleet plan),
        successes srv deadlines (creators srv deadlines fleet plan), t ++ t' ++ t''⟩

@[simp] theorem addrs_conclude (us : List (Worker σ)) :
    (us.map (·.conclude srv deadlines)).map (·.addr) = us.map (·.addr) := by
  rw [List.map_map]
  rfl

@[simp] theorem addrs_assign (c : Change) (changes : List (String × Binding))
    (us : List (Worker σ)) : (us.map (·.assign c changes)).map (·.addr) = us.map (·.addr) := by
  rw [List.map_map]
  rfl

@[simp] theorem addrs_listers (fleet : Fleet σ) :
    (listers fleet).map (·.addr) = fleet.map Prod.fst := by
  rw [listers, Session.start, List.map_map]
  rfl

@[simp] theorem addrs_deleters (fleet : Fleet σ) (plan : Placement.Plan) :
    (deleters srv deadlines fleet plan).map (·.addr) = fleet.map Prod.fst := by
  rw [deleters, addrs_assign, addrs_conclude, addrs_listers]

@[simp] theorem addrs_creators (fleet : Fleet σ) (plan : Placement.Plan) :
    (creators srv deadlines fleet plan).map (·.addr) = fleet.map Prod.fst := by
  rw [creators, addrs_assign, addrs_conclude, addrs_deleters]

theorem sound_of_mem_assign {c : Change} {changes : List (String × Binding)} {us : List (Worker σ)}
    {u : Worker σ} (h : u ∈ us.map (·.assign c changes)) : u.Sound := by
  obtain ⟨v, -, rfl⟩ := List.mem_map.1 h
  exact fun _ => rfl

theorem sound_of_mem_listers {fleet : Fleet σ} {u : Worker σ} (h : u ∈ listers fleet) :
    u.Sound := by
  obtain ⟨e, -, rfl⟩ := List.mem_map.1 h
  exact fun _ => rfl

theorem sum_conclude (us : List (Worker σ)) :
    ((us.map (·.conclude srv deadlines)).map (·.succeeded)).sum = successes srv deadlines us := by
  rw [List.map_map]
  rfl

theorem act_of_done {addr : String} {ws : List (Worker σ)} (hd : ∀ w ∈ ws, w.left = []) :
    ∀ w ∈ (act srv deadlines addr ws).1, w.left = [] := by
  intro v hv
  obtain ⟨w, hw, rfl⟩ := List.mem_map.1 hv
  split
  · rw [Worker.step, hd w hw]
    exact hd w hw
  · exact hd w hw

namespace Session

variable {desired : List Binding} {fleet : Fleet σ}

theorem course_start : Course srv deadlines desired fleet (start fleet) :=
  .listing (underway_refl fun _ hu => sound_of_mem_listers hu)

/-- A worker's turn leaves the term in its stage. -/
theorem course_worker {s : Session σ} (hn : (fleet.map Prod.fst).Nodup)
    (h : Course srv deadlines desired fleet s) (addr : String) :
    Course srv deadlines desired fleet (s.turn srv deadlines desired (.worker addr)) := by
  cases h with
  | listing lists => exact .listing (lists.act (by rwa [addrs_listers]) addr)
  | deleting lists planned deletes =>
    simp only [turn, List.append_assoc]
    exact .deleting lists planned (deletes.act (by rwa [addrs_deleters]) addr)
  | creating lists planned deletes creates =>
    have hc := creates.act (by rwa [addrs_creators]) addr
    simp only [turn]
    rw [List.append_assoc (_ ++ _)]
    exact .creating lists planned deletes hc
  | ended lists planned deletes creates done =>
    have hc := creates.act (by rwa [addrs_creators]) addr
    simp only [turn]
    rw [List.append_assoc (_ ++ _)]
    exact .ended lists planned deletes hc (act_of_done done)

/-- The scheduler's turn leads to the next stage if all workers are done. -/
theorem course_scheduler {s : Session σ} (h : Course srv deadlines desired fleet s) :
    Course srv deadlines desired fleet (s.turn srv deadlines desired .scheduler) := by
  rw [turn, join]
  split
  · rename_i hd
    cases h with
    | listing lists =>
      obtain ⟨hw, hover⟩ := lists.over hd
      have hnext : Course srv deadlines desired fleet _ := .deleting hover rfl
        (underway_refl fun _ hu => sound_of_mem_assign hu)
      rw [List.append_nil] at hnext
      simp only [lists.addrs_eq, addrs_listers]
      rw [hw]
      exact hnext
    | deleting lists planned deletes =>
      obtain ⟨hw, hover⟩ := deletes.over hd
      have hnext := Course.creating lists planned hover
        (underway_refl fun _ hu => sound_of_mem_assign hu)
      rw [List.append_nil] at hnext
      simp only
      rw [hw, sum_conclude]
      exact hnext
    | creating lists planned deletes creates =>
      have hs := congrArg (fun us => (us.map (·.succeeded)).sum) (creates.over hd).1
      have hnext := Course.ended lists planned deletes creates hd
      rw [← sum_conclude (creators srv deadlines fleet _), ← hs] at hnext
      exact hnext
    | ended lists planned deletes creates done =>
      exact .ended lists planned deletes creates done
  · exact h

theorem course_turn {s : Session σ} (hn : (fleet.map Prod.fst).Nodup)
    (h : Course srv deadlines desired fleet s) (who : Turn) :
    Course srv deadlines desired fleet (s.turn srv deadlines desired who) := by
  cases who with
  | worker addr => exact course_worker hn h addr
  | scheduler => exact course_scheduler h

/-- Every schedule keeps a term on its course. -/
theorem course_run {s : Session σ} (hn : (fleet.map Prod.fst).Nodup)
    (h : Course srv deadlines desired fleet s) (schedule : List Turn) :
    Course srv deadlines desired fleet (s.run srv deadlines desired schedule) := by
  induction schedule generalizing s with
  | nil => exact h
  | cons who schedule ih => exact ih (course_turn hn h who)

theorem run_append (s : Session σ) (front back : List Turn) :
    s.run srv deadlines desired (front ++ back) =
      (s.run srv deadlines desired front).run srv deadlines desired back :=
  List.foldl_append

theorem trace_turn (s : Session σ) (who : Turn) :
    s.trace <+: (s.turn srv deadlines desired who).trace := by
  cases who with
  | worker addr => exact List.prefix_append ..
  | scheduler =>
    rw [turn, join]
    split
    · split
      all_goals exact List.prefix_rfl
    · exact List.prefix_rfl

/-- What has been seen stays seen. -/
theorem trace_run (s : Session σ) (schedule : List Turn) :
    s.trace <+: (s.run srv deadlines desired schedule).trace := by
  induction schedule generalizing s with
  | nil => exact List.prefix_rfl
  | cons who schedule ih => exact (trace_turn s who).trans (ih _)

/-! ## What holds of the adapters at every moment -/

section Always

variable {P : String → σ → Prop}

theorem state_perform (hList : ∀ a d s, P a s → P a (srv.list d s).2)
    (hChange : ∀ a c b d s, P a s → P a (srv.change c b d s).2) {addr : String} {s : σ}
    (h : P addr s) (call : Call) : P addr (call.perform srv deadlines addr s).state := by
  cases call with
  | list => exact hList addr deadlines.list s h
  | change c b => exact hChange addr c b deadlines.change s h

theorem state_step (hList : ∀ a d s, P a s → P a (srv.list d s).2)
    (hChange : ∀ a c b d s, P a s → P a (srv.change c b d s).2) {w : Worker σ}
    (h : P w.addr w.state) : P w.addr (w.step srv deadlines).1.state := by
  obtain ⟨-, hw⟩ | ⟨call, rest, -, ⟨-, hw⟩ | ⟨-, -, hw⟩ | ⟨ok, -, -, hw⟩⟩ :=
    w.step_cases srv deadlines
  · rw [hw]
    exact h
  · rw [hw]
    exact h
  · rw [hw]
    exact state_perform hList hChange h call
  · rw [hw]
    exact state_perform hList hChange h call

theorem state_turn (hList : ∀ a d s, P a s → P a (srv.list d s).2)
    (hChange : ∀ a c b d s, P a s → P a (srv.change c b d s).2) {s : Session σ}
    (h : ∀ w ∈ s.workers, P w.addr w.state) (who : Turn) :
    ∀ w ∈ (s.turn srv deadlines desired who).workers, P w.addr w.state := by
  have hAssign : ∀ c changes, ∀ w ∈ s.workers.map (·.assign c changes), P w.addr w.state := by
    intro c changes w hw
    obtain ⟨v, hv, rfl⟩ := List.mem_map.1 hw
    exact h v hv
  cases who with
  | worker addr =>
    intro w hw
    obtain ⟨v, hv, rfl⟩ := List.mem_map.1 hw
    split
    · rw [addr_step]
      exact state_step hList hChange (h v hv)
    · exact h v hv
  | scheduler =>
    rw [turn, join]
    split
    · cases s.stage with
      | listing => exact hAssign _ _
      | deleting => exact hAssign _ _
      | creating => exact h
      | ended => exact h
    · exact h

/-- What no call to an adapter breaks holds of all adapters at every moment. -/
theorem state_run (hList : ∀ a d s, P a s → P a (srv.list d s).2)
    (hChange : ∀ a c b d s, P a s → P a (srv.change c b d s).2) {s : Session σ}
    (h : ∀ w ∈ s.workers, P w.addr w.state) (schedule : List Turn) :
    ∀ w ∈ (s.run srv deadlines desired schedule).workers, P w.addr w.state := by
  induction schedule generalizing s with
  | nil => exact h
  | cons who schedule ih => exact ih (state_turn hList hChange h who)

theorem addrs_turn (s : Session σ) (who : Turn) :
    (s.turn srv deadlines desired who).workers.map (·.addr) = s.workers.map (·.addr) := by
  cases who with
  | worker addr =>
    simp only [turn, act, List.map_map]
    refine List.map_congr_left fun w _ => ?_
    rw [Function.comp_apply]
    split
    · exact addr_step w
    · rfl
  | scheduler =>
    rw [turn, join]
    split
    · cases s.stage with
      | listing => exact addrs_assign ..
      | deleting => exact addrs_assign ..
      | creating => rfl
      | ended => rfl
    · rfl

/-- The adapters stay the same ones. -/
theorem addrs_run (s : Session σ) (schedule : List Turn) :
    (s.run srv deadlines desired schedule).workers.map (·.addr) = s.workers.map (·.addr) := by
  induction schedule generalizing s with
  | nil => rfl
  | cons who schedule ih => exact (ih _).trans (addrs_turn s who)

end Always

/-! ## Every term can end -/

variable (srv deadlines desired) in
/-- The workers of a stage can be led to their end. -/
theorem exists_done (s : Session σ) :
    ∃ schedule, (∀ w ∈ (s.run srv deadlines desired schedule).workers, w.left = []) ∧
      (s.run srv deadlines desired schedule).stage = s.stage := by
  induction hk : (s.workers.map (·.turnsLeft)).sum using Nat.strong_induction_on generalizing s with
  | _ k ih =>
    by_cases hd : ∀ w ∈ s.workers, w.left = []
    · exact ⟨[], hd, rfl⟩
    · push Not at hd
      obtain ⟨w, hw, hleft⟩ := hd
      -- By its turn a worker that is not done gets nearer to its end, and no other gets away.
      have hlt : ((s.turn srv deadlines desired (.worker w.addr)).workers.map (·.turnsLeft)).sum
          < k := by
        rw [← hk]
        simp only [turn, act, List.map_map]
        refine List.sum_lt_sum _ _ (fun v _ => ?_) ⟨w, hw, ?_⟩
        · rw [Function.comp_apply]
          split
          · exact turnsLeft_step_le v
          · exact Nat.le_refl _
        · rw [Function.comp_apply, if_pos rfl]
          exact turnsLeft_step_lt hleft
      obtain ⟨schedule, hdone, hstage⟩ := ih _ hlt _ rfl
      exact ⟨.worker w.addr :: schedule, hdone, hstage⟩

/-- The number of stages that a term has before it. -/
def stagesLeft (s : Session σ) : Nat :=
  match s.stage with
  | .listing => 3
  | .deleting => 2
  | .creating => 1
  | .ended => 0

theorem stagesLeft_scheduler {s : Session σ} (hd : ∀ w ∈ s.workers, w.left = []) :
    (s.turn srv deadlines desired .scheduler).stagesLeft = s.stagesLeft - 1 := by
  rw [turn, join, if_pos hd]
  cases h : s.stage with
  | listing => simp only [stagesLeft, h]
  | deleting => simp only [stagesLeft, h]
  | creating => simp only [stagesLeft, h]
  | ended => simp only [stagesLeft, h]

variable (srv deadlines desired) in
/-- After any turns a term can still be led to its end. -/
theorem exists_ended (s : Session σ) :
    ∃ schedule, (s.run srv deadlines desired schedule).stage = .ended := by
  induction hk : s.stagesLeft generalizing s with
  | zero =>
    refine ⟨[], ?_⟩
    show s.stage = .ended
    cases h : s.stage with
    | ended => rfl
    | _ => simp [stagesLeft, h] at hk
  | succ k ih =>
    obtain ⟨front, hd, hstage⟩ := exists_done srv deadlines desired s
    have hnext : (turn srv deadlines desired _ .scheduler).stagesLeft = _ :=
      stagesLeft_scheduler hd
    have hsame : (s.run srv deadlines desired front).stagesLeft = s.stagesLeft := by
      simp only [stagesLeft, hstage]
    rw [hsame, hk, Nat.add_sub_cancel] at hnext
    obtain ⟨back, hback⟩ := ih _ hnext
    refine ⟨front ++ .scheduler :: back, ?_⟩
    rw [run_append]
    exact hback

end Session

/-! ## What is created -/

/-- All that a term has created, or is about to create, is desired. -/
structure CreatesDesired (desired : List Binding) (s : Session σ) : Prop where
  left : ∀ w ∈ s.workers, ∀ b, Call.change .create b ∈ w.left → b ∈ desired
  called : ∀ a b, Event.called a (.change .create b) ∈ s.trace → b ∈ desired
  planned : ∀ p ∈ s.plan.creates, p.2 ∈ desired

section Creates

variable {desired : List Binding}

theorem createsDesired_start (fleet : Fleet σ) :
    CreatesDesired desired (Session.start fleet) where
  left := by
    intro w hw b hb
    obtain ⟨e, -, rfl⟩ := List.mem_map.1 hw
    cases List.mem_singleton.1 hb
  called _ _ h := absurd h List.not_mem_nil
  planned _ h := absurd h List.not_mem_nil

/-- A worker begins no call that was not before it, and gets no new ones. -/
theorem calls_step (w : Worker σ) :
    (w.step srv deadlines).1.left ⊆ w.left ∧
      ∀ a call, Event.called a call ∈ (w.step srv deadlines).2 → call ∈ w.left := by
  have hevent : ∀ (call : Call) (s : σ) a call',
      Event.called a call' ≠ (call.perform srv deadlines w.addr s).event := by
    intro call s a call' h
    cases call with
    | list => cases h
    | change c b => cases h
  obtain ⟨hl, hw⟩ | ⟨call, rest, hl, ⟨-, hw⟩ | ⟨-, -, hw⟩ | ⟨ok, -, -, hw⟩⟩ :=
    w.step_cases srv deadlines
  · rw [hw]
    exact ⟨List.Subset.refl _, fun a call h => absurd h List.not_mem_nil⟩
  · rw [hw]
    refine ⟨List.Subset.refl _, fun a call' h => ?_⟩
    obtain ⟨-, rfl⟩ := Event.called.inj (List.mem_singleton.1 h)
    rw [hl]
    exact List.mem_cons_self
  · rw [hw]
    exact ⟨List.nil_subset _, fun a call' h =>
      absurd (List.mem_singleton.1 h) (hevent call w.state a call')⟩
  · rw [hw, hl]
    exact ⟨List.subset_cons_self call rest, fun a call' h =>
      absurd (List.mem_singleton.1 h) (hevent call w.state a call')⟩

theorem createsDesired_worker {s : Session σ} (h : CreatesDesired desired s) (addr : String) :
    CreatesDesired desired (s.turn srv deadlines desired (.worker addr)) where
  left := by
    intro v hv b hb
    obtain ⟨w, hw, rfl⟩ := List.mem_map.1 hv
    split at hb
    · exact h.left w hw b ((calls_step w).1 hb)
    · exact h.left w hw b hb
  called := by
    intro a b hb
    rcases List.mem_append.1 hb with hb | hb
    · exact h.called a b hb
    · split at hb
      · rename_i w hw
        exact h.left w (List.mem_of_find?_eq_some hw) b ((calls_step w).2 a _ hb)
      · cases hb
  planned := h.planned

theorem createsDesired_scheduler {s : Session σ} (h : CreatesDesired desired s) :
    CreatesDesired desired (s.turn srv deadlines desired .scheduler) := by
  rw [Session.turn, Session.join]
  split
  · cases s.stage with
    | listing =>
      refine ⟨fun v hv b hb => ?_, h.called, fun p hp => ?_⟩
      · obtain ⟨w, -, rfl⟩ := List.mem_map.1 hv
        obtain ⟨p, -, hp⟩ := List.mem_map.1 hb
        cases hp
      · exact (Placement.mem_creates_plan.1 hp).1
    | deleting =>
      refine ⟨fun v hv b hb => ?_, h.called, h.planned⟩
      obtain ⟨w, -, rfl⟩ := List.mem_map.1 hv
      obtain ⟨p, hp, hpb⟩ := List.mem_map.1 hb
      cases hpb
      exact h.planned p (List.mem_of_mem_filter hp)
    | creating => exact ⟨h.left, h.called, h.planned⟩
    | ended => exact h
  · exact h

/-- A term creates copies of desired bindings only. -/
theorem createsDesired_run {s : Session σ} (h : CreatesDesired desired s) (schedule : List Turn) :
    CreatesDesired desired (s.run srv deadlines desired schedule) := by
  induction schedule generalizing s with
  | nil => exact h
  | cons who schedule ih =>
    refine ih ?_
    cases who with
    | worker addr => exact createsDesired_worker h addr
    | scheduler => exact createsDesired_scheduler h

end Creates

end LogEgress.Scheduler
