import LogEgress.Proofs.Scheduler.Course
import LogEgress.Proofs.Sorted
import Mathlib.Algebra.BigOperators.Group.List.Basic

set_option autoImplicit false

/-! # Interleaved terms and terms in a row

`carryOut` works on the adapters of each stage one after the other. Under every schedule a term
that lets them take turns ends with the same adapters and the same report (`ended_eq_carryOut`):
adapters with different addresses do not see each other, so all that could differ is the order in
which the answers to the first question come, and of that a map keeps nothing.
-/

namespace LogEgress.Scheduler

variable {σ : Type} {srv : Server σ} {deadlines : Deadlines}

/-! ## Orders that do not matter -/

open Classical in
/-- Events that are the same for each adapter differ in their order only. -/
theorem perm_of_eventsAt {t u : List Event} (h : ∀ addr, eventsAt addr t = eventsAt addr u) :
    t.Perm u := by
  rw [List.perm_iff_count]
  intro e
  have hc : ∀ v : List Event, v.count e = (eventsAt e.addr v).count e := by
    intro v
    rw [eventsAt, List.count_filter]
    exact decide_eq_true rfl
  rw [hc t, hc u, h]

theorem eventsAt_flatMap {us : List (Worker σ)} (hn : (us.map (·.addr)).Nodup)
    {f : Worker σ → List Event} (hf : ∀ u ∈ us, ∀ e ∈ f u, e.addr = u.addr) {u : Worker σ}
    (hu : u ∈ us) : eventsAt u.addr (us.flatMap f) = f u := by
  induction us with
  | nil => cases hu
  | cons v us ih =>
    rw [List.map_cons, List.nodup_cons] at hn
    rw [List.flatMap_cons, eventsAt_append]
    have hv : ∀ e ∈ f v, e.addr = v.addr := hf v List.mem_cons_self
    have htail : ∀ w ∈ us, ∀ e ∈ f w, e.addr = w.addr := fun w hw =>
      hf w (List.mem_cons_of_mem v hw)
    rcases List.mem_cons.1 hu with rfl | hu
    · have hnil : eventsAt u.addr (us.flatMap f) = [] := by
        refine eventsAt_eq_nil fun e he hea => hn.1 ?_
        obtain ⟨w, hw, hew⟩ := List.mem_flatMap.1 he
        rw [← hea, htail w hw e hew]
        exact List.mem_map_of_mem hw
      rw [eventsAt_eq_self hv, hnil, List.append_nil]
    · have hne : v.addr ≠ u.addr := fun e => hn.1 (e ▸ List.mem_map_of_mem hu)
      have hnil : eventsAt u.addr (f v) = [] :=
        eventsAt_eq_nil fun e he hea => hne ((hv e he).symm.trans hea)
      rw [hnil, List.nil_append, ih hn.2 htail hu]

theorem addr_of_mem_finish {u : Worker σ} {e : Event} (h : e ∈ (u.finish srv deadlines).events) :
    e.addr = u.addr := by
  simp only [Worker.finish] at h
  split at h
  · exact addr_of_mem_solo (List.mem_of_mem_tail h)
  · exact addr_of_mem_solo h

/-- What is seen in a stage is what is seen of its workers one after the other, in some order. -/
theorem Over.perm {us : List (Worker σ)} {t : List Event} (h : Over srv deadlines us t)
    (hn : (us.map (·.addr)).Nodup) :
    t.Perm (us.flatMap fun u => (u.finish srv deadlines).events) := by
  have hf : ∀ u ∈ us, ∀ e ∈ (u.finish srv deadlines).events, e.addr = u.addr :=
    fun _ _ _ he => addr_of_mem_finish he
  refine perm_of_eventsAt fun addr => ?_
  by_cases ha : addr ∈ us.map (·.addr)
  · obtain ⟨u, hu, rfl⟩ := List.mem_map.1 ha
    rw [h.events u hu, eventsAt_flatMap hn hf hu]
  · have hnil : eventsAt addr t = [] := by
      refine eventsAt_eq_nil fun e he hea => ha ?_
      rw [← hea]
      exact h.addrs e he
    rw [hnil]
    refine (eventsAt_eq_nil fun e he hea => ha ?_).symm
    obtain ⟨u, hu, heu⟩ := List.mem_flatMap.1 he
    rw [← hea, hf u hu e heu]
    exact List.mem_map_of_mem hu

/-! ## Listing -/

/-- What an adapter answers when it is asked what it holds, if it answers in time. -/
def reported (srv : Server σ) (deadlines : Deadlines) (e : String × σ) :
    Option (String × List Binding) :=
  (Call.list.perform srv deadlines e.1 e.2).event.answer?

/-- The answers of adapters with their sets. -/
def answers (srv : Server σ) (deadlines : Deadlines) (fleet : Fleet σ) :
    List (String × SortedSet Binding) :=
  (fleet.filterMap (reported srv deadlines)).map fun a => (a.1, SortedSet.ofList a.2)

theorem fst_of_reported {e : String × σ} {a : String × List Binding}
    (h : reported srv deadlines e = some a) : a.1 = e.1 := by
  simp only [reported, Call.perform] at h
  unfold Event.answer? at h
  split at h
  · rename_i heq
    obtain ⟨rfl, -⟩ := Event.listed.inj heq
    cases h
    rfl
  · cases h

theorem nodup_answers {fleet : Fleet σ} (hn : (fleet.map Prod.fst).Nodup) :
    ((answers srv deadlines fleet).map Prod.fst).Nodup := by
  refine hn.sublist ?_
  rw [answers, List.map_map]
  induction fleet with
  | nil => exact List.nil_sublist _
  | cons e fleet ih =>
    rw [List.map_cons, List.nodup_cons] at hn
    rw [List.filterMap_cons]
    split
    · exact (ih hn.2).cons _
    · rename_i a ha
      rw [List.map_cons, List.map_cons, Function.comp_apply, fst_of_reported ha]
      exact (ih hn.2).cons_cons _

theorem finish_lister (e : String × σ) :
    ((⟨e.1, e.2, [.list], false, 0⟩ : Worker σ).finish srv deadlines).state =
        (srv.list deadlines.list e.2).2 ∧
      ((⟨e.1, e.2, [.list], false, 0⟩ : Worker σ).finish srv deadlines).events =
        [.called e.1 .list, (Call.list.perform srv deadlines e.1 e.2).event] := by
  simp only [Worker.finish, solo_cons, Bool.false_eq_true, if_false]
  split
  · exact ⟨rfl, rfl⟩
  · exact ⟨rfl, rfl⟩

theorem answers_listers (fleet : Fleet σ) :
    (((listers fleet).flatMap fun u => (u.finish srv deadlines).events).filterMap Event.answer?) =
      fleet.filterMap (reported srv deadlines) := by
  rw [listers, Session.start, List.flatMap_map]
  induction fleet with
  | nil => rfl
  | cons e fleet ih =>
    have hcalled : (Event.called e.1 .list).answer? = none := rfl
    rw [List.flatMap_cons, (finish_lister e).2, List.filterMap_append, ih,
      List.filterMap_cons_none hcalled, List.filterMap_cons, List.filterMap_cons, reported]
    cases (Call.list.perform srv deadlines e.1 e.2).event.answer? with
    | none => rfl
    | some a => rfl

/-- What is known after the first stage does not depend on the order of the answers. -/
theorem known_of_over {fleet : Fleet σ} (hn : (fleet.map Prod.fst).Nodup) {t : List Event}
    (h : Over srv deadlines (listers fleet) t) :
    known t = SortedMap.ofList (answers srv deadlines fleet) := by
  have hp := ((h.perm (by rwa [addrs_listers])).filterMap Event.answer?).map fun a =>
    (a.1, SortedSet.ofList a.2)
  rw [answers_listers] at hp
  exact (SortedMap.ofList_perm hp.symm (nodup_answers hn)).symm

theorem listEach_snd (fleet : Fleet σ) :
    (listEach srv deadlines fleet).2 =
      fleetOf ((listers fleet).map (·.conclude srv deadlines)) := by
  rw [fleetOf, listers, Session.start, List.map_map, List.map_map]
  induction fleet with
  | nil => rfl
  | cons e fleet ih =>
    rw [List.map_cons, ← ih]
    exact congrArg (fun s => (e.1, s) :: _) (finish_lister e).1.symm

theorem answers_listEach (fleet : Fleet σ) :
    (listEach srv deadlines fleet).1.answers.map Prod.snd =
      fleet.filterMap (reported srv deadlines) := by
  induction fleet with
  | nil => rfl
  | cons e fleet ih =>
    rw [List.filterMap_cons, reported]
    simp only [listEach, Call.perform]
    rcases settle e.1 "list" deadlines.list (srv.list deadlines.list e.2).1 with
      ⟨_ | _ | bs, toll⟩
    · exact ih
    · exact ih
    · exact congrArg (List.cons (e.1, bs)) ih

/-- What the planner sees does not depend on the times of the answers. -/
theorem holdings_listEach {fleet : Fleet σ} (hn : (fleet.map Prod.fst).Nodup) :
    (listEach srv deadlines fleet).1.holdings = SortedMap.ofList (answers srv deadlines fleet) := by
  have hp := ((List.mergeSort_perm (listEach srv deadlines fleet).1.answers
    fun a b => a.1 ≤ b.1).map Prod.snd).map fun a => (a.1, SortedSet.ofList a.2)
  rw [answers_listEach, List.map_map] at hp
  exact (SortedMap.ofList_perm hp.symm (nodup_answers hn)).symm

/-! ## Changing -/

/-- Puts the adapter with an address into a state. -/
def putAt (addr : String) (s : σ) (fleet : Fleet σ) : Fleet σ :=
  fleet.map fun e => if e.1 = addr then (e.1, s) else e

@[simp] theorem addrs_putAt (addr : String) (s : σ) (fleet : Fleet σ) :
    (putAt addr s fleet).map Prod.fst = fleet.map Prod.fst := by
  rw [putAt, List.map_map]
  refine List.map_congr_left fun e _ => ?_
  rw [Function.comp_apply]
  split
  · rfl
  · rfl

theorem mem_putAt {addr : String} {s : σ} {fleet : Fleet σ} (h : addr ∈ fleet.map Prod.fst) :
    (addr, s) ∈ putAt addr s fleet := by
  obtain ⟨e, he, rfl⟩ := List.mem_map.1 h
  exact List.mem_map.2 ⟨e, he, if_pos rfl⟩

theorem putAt_putAt (addr : String) (s s' : σ) (fleet : Fleet σ) :
    putAt addr s' (putAt addr s fleet) = putAt addr s' fleet := by
  rw [putAt, putAt, putAt, List.map_map]
  refine List.map_congr_left fun e _ => ?_
  rw [Function.comp_apply]
  by_cases h : e.1 = addr
  · simp only [h, if_true]
  · simp only [h, if_false]

theorem putAt_self {fleet : Fleet σ} (hn : (fleet.map Prod.fst).Nodup) {addr : String} {s : σ}
    (h : (addr, s) ∈ fleet) : putAt addr s fleet = fleet := by
  refine (List.map_congr_left fun e he => ?_).trans (List.map_id fleet)
  split
  · rename_i heq
    exact (List.inj_on_of_nodup_map hn he h heq).symm ▸ rfl
  · rfl

/-- A change of a binding at a known address concerns the adapter there. -/
theorem change_eq {fleet : Fleet σ} (hn : (fleet.map Prod.fst).Nodup) {addr : String} {s : σ}
    (h : (addr, s) ∈ fleet) (c : Change) (b : Binding) :
    (change srv deadlines c addr b fleet).1 =
        (settle addr c.name deadlines.change (srv.change c b deadlines.change s).1).1 ∧
      (change srv deadlines c addr b fleet).2.2 =
        putAt addr (srv.change c b deadlines.change s).2 fleet := by
  induction fleet with
  | nil => cases h
  | cons e fleet ih =>
    obtain ⟨a, s'⟩ := e
    rw [List.map_cons, List.nodup_cons] at hn
    rcases List.mem_cons.1 h with he | h
    · obtain ⟨rfl, rfl⟩ := Prod.mk.inj he
      simp only [change, if_true, putAt, List.map_cons]
      refine ⟨trivial, congrArg (List.cons _) ?_⟩
      refine ((List.map_congr_left fun e he => ?_).trans (List.map_id fleet)).symm
      rw [if_neg fun heq => hn.1 (List.mem_map.2 ⟨e, he, heq⟩)]
      rfl
    · have hmem : addr ∈ fleet.map Prod.fst := List.mem_map.2 ⟨(addr, s), h, rfl⟩
      have hne : a ≠ addr := fun heq => hn.1 (heq ▸ hmem)
      obtain ⟨hr, hf⟩ := ih hn.2 h
      simp only [change, if_neg hne, putAt, List.map_cons]
      exact ⟨hr, congrArg (List.cons _) hf⟩

theorem changeInTurn_eq {fleet : Fleet σ} (hn : (fleet.map Prod.fst).Nodup) {addr : String}
    {s : σ} (h : (addr, s) ∈ fleet) (c : Change) (bs : List Binding) (n : Nat) :
    (changeInTurn srv deadlines c addr bs n fleet).1.succeeded =
        (solo srv deadlines addr (bs.map (.change c)) s n).succeeded ∧
      (changeInTurn srv deadlines c addr bs n fleet).2 =
        putAt addr (solo srv deadlines addr (bs.map (.change c)) s n).state fleet := by
  induction bs generalizing fleet s n with
  | nil => exact ⟨rfl, (putAt_self hn h).symm⟩
  | cons b bs ih =>
    obtain ⟨hr, hf⟩ : _ ∧ (change srv deadlines c addr b fleet).2.2 = _ := change_eq hn h c b
    have hv : ((Call.change c b).perform srv deadlines addr s).verdict =
        (change srv deadlines c addr b fleet).1.map Except.isOk := by
      rw [hr]
      rfl
    have hs : ((Call.change c b).perform srv deadlines addr s).state =
        (srv.change c b deadlines.change s).2 := rfl
    have hmem : addr ∈ fleet.map Prod.fst := List.mem_map.2 ⟨(addr, s), h, rfl⟩
    have hrest := @ih (putAt addr (srv.change c b deadlines.change s).2 fleet)
      (by rwa [addrs_putAt]) _ (mem_putAt hmem)
    rw [List.map_cons, solo_cons, hv, hs]
    simp only [changeInTurn, hf]
    cases (change srv deadlines c addr b fleet).1 with
    | none => exact ⟨rfl, rfl⟩
    | some r =>
      simp only [putAt_putAt] at hrest
      cases r with
      | error e => exact hrest n
      | ok u => exact hrest (n + 1)

/-- What a worker makes of the changes that concern its adapter. -/
def ownChanges (srv : Server σ) (deadlines : Deadlines) (c : Change)
    (changes : List (String × Binding)) (e : String × σ) : Solo σ :=
  solo srv deadlines e.1 ((changes.filter (·.1 = e.1)).map fun p => .change c p.2) e.2 0

/-- The bindings that changes concern at an address. -/
def ownOf (changes : List (String × Binding)) (addr : String) : List Binding :=
  (changes.filter (·.1 = addr)).map Prod.snd

theorem mem_ownOf {changes : List (String × Binding)} {addr : String} {b : Binding} :
    b ∈ ownOf changes addr ↔ (addr, b) ∈ changes := by
  simp only [ownOf, List.mem_map, List.mem_filter, decide_eq_true_eq]
  constructor
  · rintro ⟨⟨a, b⟩, ⟨hp, rfl⟩, rfl⟩
    exact hp
  · intro h
    exact ⟨(addr, b), ⟨h, rfl⟩, rfl⟩

theorem nodup_ownOf {changes : List (String × Binding)} (h : changes.Nodup) (addr : String) :
    (ownOf changes addr).Nodup := by
  refine (h.filter _).map_on fun p hp q hq heq => ?_
  have hpAddr : p.1 = addr := by simpa using (List.mem_filter.1 hp).2
  have hqAddr : q.1 = addr := by simpa using (List.mem_filter.1 hq).2
  exact Prod.ext (hpAddr.trans hqAddr.symm) heq

theorem ownChanges_eq (c : Change) (changes : List (String × Binding)) (e : String × σ) :
    ownChanges srv deadlines c changes e =
      solo srv deadlines e.1 ((ownOf changes e.1).map (.change c)) e.2 0 := by
  rw [ownChanges, ownOf, List.map_map]
  rfl

theorem sum_at {fleet : Fleet σ} (hn : (fleet.map Prod.fst).Nodup) {e : String × σ}
    (h : e ∈ fleet) (f : String × σ → Nat) :
    (fleet.map fun d => if d.1 = e.1 then f d else 0).sum = f e := by
  induction fleet with
  | nil => cases h
  | cons d fleet ih =>
    rw [List.map_cons, List.nodup_cons] at hn
    rw [List.map_cons, List.sum_cons]
    rcases List.mem_cons.1 h with rfl | h
    · have hzero : ∀ x ∈ fleet.map fun d => if d.1 = e.1 then f d else 0, x = 0 := by
        intro x hx
        obtain ⟨d, hd, rfl⟩ := List.mem_map.1 hx
        exact if_neg fun heq => hn.1 (List.mem_map.2 ⟨d, hd, heq⟩)
      rw [if_pos rfl, List.sum_eq_zero hzero, Nat.add_zero]
    · rw [if_neg fun heq => hn.1 (List.mem_map.2 ⟨e, h, heq.symm⟩), ih hn.2 h, Nat.zero_add]

theorem changeAt_eq {fleet : Fleet σ} (hn : (fleet.map Prod.fst).Nodup) (c : Change)
    (changes : List (String × Binding)) {addrs : List String} (ha : addrs.Nodup)
    (hk : ∀ a ∈ addrs, a ∈ fleet.map Prod.fst) :
    (changeAt srv deadlines c changes addrs fleet).1.succeeded = (fleet.map fun e =>
        if e.1 ∈ addrs then (ownChanges srv deadlines c changes e).succeeded else 0).sum ∧
      (changeAt srv deadlines c changes addrs fleet).2 = fleet.map fun e =>
        if e.1 ∈ addrs then (e.1, (ownChanges srv deadlines c changes e).state) else e := by
  induction addrs generalizing fleet with
  | nil => simp [changeAt]
  | cons addr addrs ih =>
    rw [List.nodup_cons] at ha
    obtain ⟨⟨a, s⟩, he, rfl⟩ := List.mem_map.1 (hk addr List.mem_cons_self)
    obtain ⟨hw, hf⟩ : _ ∧ (changeInTurn srv deadlines c a
        ((changes.filter (·.1 = a)).map (·.2)) 0 fleet).2 = _ := changeInTurn_eq hn he c _ 0
    have hown : solo srv deadlines a
        (((changes.filter (·.1 = a)).map (·.2)).map (.change c)) s 0 =
          ownChanges srv deadlines c changes (a, s) := by
      rw [List.map_map]
      rfl
    rw [hown] at hw hf
    obtain ⟨hv, hg⟩ := @ih (putAt a (ownChanges srv deadlines c changes (a, s)).state fleet)
      (by rwa [addrs_putAt]) ha.2 fun x hx => by
        rw [addrs_putAt]
        exact hk x (List.mem_cons_of_mem _ hx)
    simp only [changeAt]
    rw [hf, hw, hv, hg]
    constructor
    · rw [← sum_at hn he fun e => (ownChanges srv deadlines c changes e).succeeded, putAt,
        List.map_map, ← List.sum_map_add]
      refine congrArg List.sum (List.map_congr_left fun e _ => ?_)
      rw [Function.comp_apply]
      by_cases h : e.1 = a
      · simp [h, ha.1]
      · simp [h]
    · rw [putAt, List.map_map]
      refine List.map_congr_left fun e hm => ?_
      rw [Function.comp_apply]
      by_cases h : e.1 = a
      · have heq : e = (a, s) := List.inj_on_of_nodup_map hn hm he h
        simp [heq, ha.1]
      · simp [h]

/-- An adapter that no change concerns is left alone. -/
theorem ownChanges_of_notMem (c : Change) {changes : List (String × Binding)} {e : String × σ}
    (he : e.1 ∉ changes.map (·.1)) : ownChanges srv deadlines c changes e = ⟨e.2, 0, []⟩ := by
  have hnil : changes.filter (·.1 = e.1) = [] := by
    refine List.filter_eq_nil_iff.2 fun p hp => ?_
    rw [decide_eq_true_eq]
    exact fun heq => he (List.mem_map.2 ⟨p, hp, heq⟩)
  rw [ownChanges, hnil]
  rfl

/-- Changes at known addresses come to what the worker of each adapter makes of its own. -/
theorem changeAll_eq {fleet : Fleet σ} (hn : (fleet.map Prod.fst).Nodup) (c : Change)
    {changes : List (String × Binding)} (hk : ∀ p ∈ changes, p.1 ∈ fleet.map Prod.fst) :
    (changeAll srv deadlines c changes fleet).1.succeeded =
        (fleet.map fun e => (ownChanges srv deadlines c changes e).succeeded).sum ∧
      (changeAll srv deadlines c changes fleet).2 =
        fleet.map fun e => (e.1, (ownChanges srv deadlines c changes e).state) := by
  have hmem : ∀ a, a ∈ (SortedSet.ofList (changes.map (·.1))).toList ↔ a ∈ changes.map (·.1) :=
    fun a => SortedSet.mem_ofList
  obtain ⟨hs, hf⟩ : _ ∧ (changeAll srv deadlines c changes fleet).2 = _ :=
    changeAt_eq hn c changes (SortedSet.nodup_toList _) fun a ha => by
      obtain ⟨p, hp, rfl⟩ := List.mem_map.1 ((hmem a).1 ha)
      exact hk p hp
  constructor
  · refine hs.trans (congrArg List.sum (List.map_congr_left fun e _ => ?_))
    split
    · rfl
    · rename_i h
      rw [ownChanges_of_notMem c fun he => h ((hmem e.1).2 he)]
  · refine hf.trans (List.map_congr_left fun e _ => ?_)
    split
    · rfl
    · rename_i h
      rw [ownChanges_of_notMem c fun he => h ((hmem e.1).2 he)]

/-! ## Whole terms -/

theorem finish_assign (c : Change) (changes : List (String × Binding)) (w : Worker σ) :
    (w.assign c changes).finish srv deadlines =
      ownChanges srv deadlines c changes (w.addr, w.state) := rfl

@[simp] theorem addrs_fleetOf (ws : List (Worker σ)) :
    (fleetOf ws).map Prod.fst = ws.map (·.addr) := by
  rw [fleetOf, List.map_map]
  rfl

/-- The adapters at the end of a stage. -/
theorem fleetOf_assign (c : Change) (changes : List (String × Binding)) (ws : List (Worker σ)) :
    fleetOf ((ws.map (·.assign c changes)).map (·.conclude srv deadlines)) =
      (fleetOf ws).map fun e => (e.1, (ownChanges srv deadlines c changes e).state) := by
  rw [fleetOf, fleetOf, List.map_map, List.map_map, List.map_map]
  rfl

/-- Adapters that are not changed by being listed. -/
theorem fleetOf_conclude_listers {fleet : Fleet σ}
    (h : ∀ e ∈ fleet, (srv.list deadlines.list e.2).2 = e.2) :
    fleetOf ((listers fleet).map (·.conclude srv deadlines)) = fleet := by
  rw [fleetOf, listers, Session.start, List.map_map, List.map_map]
  refine (List.map_congr_left fun e he => ?_).trans (List.map_id fleet)
  exact congrArg (Prod.mk e.1) ((finish_lister e).1.trans (h e he))

theorem successes_assign (c : Change) (changes : List (String × Binding)) (ws : List (Worker σ)) :
    successes srv deadlines (ws.map (·.assign c changes)) =
      ((fleetOf ws).map fun e => (ownChanges srv deadlines c changes e).succeeded).sum := by
  rw [successes, fleetOf, List.map_map, List.map_map]
  rfl

/-- What the adapters come to one after the other, their workers come to in any order. -/
theorem changeAll_fleetOf {ws : List (Worker σ)} (hn : (ws.map (·.addr)).Nodup) (c : Change)
    {changes : List (String × Binding)} (hk : ∀ p ∈ changes, p.1 ∈ ws.map (·.addr)) :
    (changeAll srv deadlines c changes (fleetOf ws)).1.succeeded =
        successes srv deadlines (ws.map (·.assign c changes)) ∧
      (changeAll srv deadlines c changes (fleetOf ws)).2 =
        fleetOf ((ws.map (·.assign c changes)).map (·.conclude srv deadlines)) := by
  rw [← addrs_fleetOf] at hn hk
  obtain ⟨hs, hf⟩ : _ ∧ (changeAll srv deadlines c changes (fleetOf ws)).2 = _ :=
    changeAll_eq hn c hk
  exact ⟨hs.trans (successes_assign c changes ws).symm, hf.trans (fleetOf_assign c changes ws).symm⟩

theorem answer?_of_mem_ownChanges {c : Change} {changes : List (String × Binding)}
    {e : String × σ} {v : Event} (h : v ∈ (ownChanges srv deadlines c changes e).events) :
    v.answer? = none := by
  unfold ownChanges at h
  generalize changes.filter (·.1 = e.1) = own at h
  generalize 0 = n at h
  generalize e.2 = s at h
  induction own generalizing s n with
  | nil => cases h
  | cons p own ih =>
    rw [List.map_cons, solo_cons] at h
    cases hv : ((Call.change c p.2).perform srv deadlines e.1 s).verdict with
    | none =>
      simp only [hv, List.mem_cons, List.not_mem_nil, or_false] at h
      rcases h with rfl | rfl
      · rfl
      · rfl
    | some ok =>
      simp only [hv, List.mem_cons] at h
      rcases h with rfl | rfl | h
      · rfl
      · rfl
      · exact ih _ _ h

/-- Nothing is learned about what adapters hold while bindings are changed. -/
theorem known_append_of_over {c : Change} {changes : List (String × Binding)}
    {ws : List (Worker σ)} {t t' : List Event} (hn : (ws.map (·.addr)).Nodup)
    (h : Over srv deadlines (ws.map (·.assign c changes)) t') : known (t ++ t') = known t := by
  have hnil : t'.filterMap Event.answer? = [] := by
    refine List.filterMap_eq_nil_iff.2 fun v hv => ?_
    have hv' := (h.perm (by rwa [addrs_assign])).mem_iff.1 hv
    obtain ⟨u, hu, hvu⟩ := List.mem_flatMap.1 hv'
    obtain ⟨w, -, rfl⟩ := List.mem_map.1 hu
    rw [finish_assign] at hvu
    exact answer?_of_mem_ownChanges hvu
  rw [known, List.filterMap_append, hnil, List.append_nil, known]

/-- What is known at the end is what was known when the plan was made. -/
theorem known_trace {fleet : Fleet σ} (hn : (fleet.map Prod.fst).Nodup) {plan : Placement.Plan}
    {t t' t'' : List Event} (deletes : Over srv deadlines (deleters srv deadlines fleet plan) t')
    (creates : Over srv deadlines (creators srv deadlines fleet plan) t'') :
    known (t ++ t' ++ t'') = known t := by
  have hdeleted : (((deleters srv deadlines fleet plan).map
      (·.conclude srv deadlines)).map (·.addr)).Nodup := by
    rwa [addrs_conclude, addrs_deleters]
  have hlisted : (((listers fleet).map (·.conclude srv deadlines)).map (·.addr)).Nodup := by
    rwa [addrs_conclude, addrs_listers]
  rw [known_append_of_over hdeleted creates, known_append_of_over hlisted deletes]

theorem mem_keys_answers {fleet : Fleet σ} {a : String}
    (h : a ∈ (SortedMap.ofList (answers srv deadlines fleet)).keys) : a ∈ fleet.map Prod.fst := by
  rw [SortedMap.mem_keys_ofList, answers, List.map_map] at h
  obtain ⟨r, hr, rfl⟩ := List.mem_map.1 h
  obtain ⟨e, he, her⟩ := List.mem_filterMap.1 hr
  rw [Function.comp_apply, fst_of_reported her]
  exact List.mem_map_of_mem he

/-- A plan changes bindings at known adapters only. -/
theorem addr_of_mem_plan {desired : List Binding} {actual : Holdings} {addrs : List String}
    (h : ∀ a ∈ actual.keys, a ∈ addrs) :
    (∀ p ∈ (Placement.plan desired actual addrs).deletes, p.1 ∈ addrs) ∧
      ∀ p ∈ (Placement.plan desired actual addrs).creates, p.1 ∈ addrs := by
  constructor
  · intro p hp
    exact h _ (Holdings.mem_keys_of_holds (Placement.mem_deletes_plan.1 hp).1)
  · intro p hp
    have hv := Placement.mem_vacant_of_mem_targets (Placement.mem_creates_plan.1 hp).2
    exact (Placement.mem_vacant.1 hv).1.1

/-- **Every schedule of a term ends as the term in a row does**, with the same adapters and the
same report. -/
theorem ended_eq_carryOut {f : Fetched} {st : State σ} (hn : (st.fleet.map Prod.fst).Nodup)
    {s : Session σ} (h : Course srv deadlines f.bindings st.fleet s) (he : s.stage = .ended) :
    s.fleet = (carryOut srv deadlines f st).state.fleet ∧
      (carryOut srv deadlines f st).report = some (s.report f.bindings) := by
  cases h with
  | listing => cases he
  | deleting => cases he
  | creating => cases he
  | @ended plan ws t t' t'' lists planned deletes creates done =>
    have hknown : (listEach srv deadlines st.fleet).1.holdings = known t := by
      rw [known_of_over hn lists, holdings_listEach hn]
    have hlisted : ((listers st.fleet).map (·.conclude srv deadlines)).map (·.addr) =
        st.fleet.map Prod.fst := by
      rw [addrs_conclude, addrs_listers]
    have hdeleted : ((deleters srv deadlines st.fleet plan).map
        (·.conclude srv deadlines)).map (·.addr) = st.fleet.map Prod.fst := by
      rw [addrs_conclude, addrs_deleters]
    have hplan : Placement.plan f.bindings (listEach srv deadlines st.fleet).1.holdings
        ((listEach srv deadlines st.fleet).2.map Prod.fst) = plan := by
      rw [hknown, listEach_snd, addrs_fleetOf, hlisted, planned]
    have hkeys : ∀ a ∈ (known t).keys, a ∈ st.fleet.map Prod.fst := by
      rw [known_of_over hn lists]
      exact fun a ha => mem_keys_answers ha
    obtain ⟨hdel, hcre⟩ : (∀ p ∈ (Placement.plan f.bindings _ _).deletes, _) ∧ _ :=
      addr_of_mem_plan hkeys
    rw [← planned] at hdel hcre
    obtain ⟨hds, hdf⟩ : (changeAll srv deadlines .delete plan.deletes _).1.succeeded = _ ∧ _ :=
      changeAll_fleetOf (hlisted ▸ hn) .delete (by rwa [hlisted])
    obtain ⟨hcs, hcf⟩ : (changeAll srv deadlines .create plan.creates _).1.succeeded = _ ∧ _ :=
      changeAll_fleetOf (hdeleted ▸ hn) .create (by rwa [hdeleted])
    have hws := (creates.over done).1
    simp only [carryOut, hplan]
    rw [listEach_snd, hdf, hds, hknown]
    constructor
    · rw [Session.fleet, hws]
      exact hcf.symm
    · rw [Session.report, known_trace hn deletes (creates.over done).2]
      refine congrArg (fun n => some (Report.mk _ _ n _)) ?_
      exact hcs

end LogEgress.Scheduler
