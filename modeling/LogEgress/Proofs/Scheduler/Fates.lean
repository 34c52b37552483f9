import LogEgress.Proofs.Scheduler.Endpoint

set_option autoImplicit false

/-! # Terms with any failures

The main theorem is `term_under_every_schedule`: for every fate of every call, and for every order
of the turns, a term can be led to its end, and then it made just the calls of its plan, and the
adapters hold what they held less the deletions and with the creations that took effect.
-/

namespace LogEgress.Scheduler

variable {deadlines : Deadlines}

/-! ## Whole terms -/

/-- The changes of a kind that a plan asks for. -/
def Change.of (plan : Placement.Plan) : Change → List (String × Binding)
  | .create => plan.creates
  | .delete => plan.deletes

/-- What a term has to do when its calls have given fates. -/
structure Fulfilled (deadlines : Deadlines) (f : Fetched) (st : State Endpoint)
    (s : Session Endpoint) : Prop where
  /-- The planner knows just the adapters that answered in time, with the sets they reported. -/
  known_iff : ∀ a held, (known s.trace).get? a = some held ↔
    ∃ e bs, (a, e) ∈ st.fleet ∧ e.listing.outcome deadlines.list = .ok bs ∧
      SortedSet.ofList bs = held
  planned : s.plan = Placement.plan f.bindings (known s.trace) (st.fleet.map Prod.fst)
  /-- The calls that begin are those of the plan, each of them once. -/
  begun : ∀ c : Change, (s.trace.filterMap (Event.begun? c)).Perm (c.of s.plan)
  once : ∀ c : Change, (s.trace.filterMap (Event.begun? c)).Nodup
  /-- In each of the three stages an adapter sees its calls one at a time and in the order of the
  plan. -/
  stages : ∃ lists deletes creates, s.trace = lists ++ deletes ++ creates ∧
    (∀ v ∈ s.trace, v.addr ∈ st.fleet.map Prod.fst) ∧
    ∀ a e, (a, e) ∈ st.fleet →
      eventsAt a lists =
        [.called a .list, .listed a (some (e.listing.outcome deadlines.list))] ∧
      eventsAt a deletes = (ownOf s.plan.deletes a).flatMap (e.seen deadlines .delete a) ∧
      eventsAt a creates = (ownOf s.plan.creates a).flatMap (e.seen deadlines .create a)
  /-- Before the first creation begins all deletions have come back. -/
  barrier : ∀ front back a b, s.trace = front ++ .called a (.change .create b) :: back →
    ∀ p ∈ s.plan.deletes, ∃ r, .changed p.1 .delete p.2 r ∈ front
  /-- What an adapter holds has changed by the changes that took effect. -/
  held : ∀ a e, (a, e) ∈ st.fleet → ∃ e', (a, e') ∈ s.fleet ∧ ∀ b, b ∈ e'.held ↔
    (b ∈ e.held ∧
        ¬ ((a, b) ∈ s.plan.deletes ∧ (e.fate .delete b).lands deadlines.change = true)) ∨
      ((a, b) ∈ s.plan.creates ∧ (e.fate .create b).lands deadlines.change = true)
  /-- The order in which the changes took effect does not matter. -/
  any_order : ∀ effects : List (Change × String × Binding),
    (∀ (c : Change) (p : String × Binding), (c, p) ∈ effects ↔
      p ∈ c.of s.plan ∧ landsAt deadlines st.fleet c p = true) →
      heldBy s.fleet = effects.foldl Change.land (heldBy st.fleet)
  /-- If all of them did, the plan was applied. -/
  applied : (∀ c : Change, ∀ p ∈ c.of s.plan, landsAt deadlines st.fleet c p = true) →
    heldBy s.fleet = Placement.apply (heldBy st.fleet) s.plan
  /-- The calls that came back as successes, and their numbers. -/
  done : ∀ c : Change, (s.trace.filterMap (Event.done? c)).Perm
    ((c.of s.plan).filter (succeedsAt deadlines st.fleet c))
  /-- What the scheduler reports, and what it leaves, is what it would if each adapter were worked
  on after the one before it. -/
  report : (term endpoints deadlines (.ok f) st).report =
    some ⟨f.bindings.length,
      st.fleet.countP fun e => (e.2.listing.outcome deadlines.list).isOk,
      (s.trace.filterMap (Event.done? .create)).length,
      (s.trace.filterMap (Event.done? .delete)).length⟩
  gauges : (term endpoints deadlines (.ok f) st).state.gauges.drainCount = f.drainCount ∧
    (term endpoints deadlines (.ok f) st).state.gauges.invalidCount = f.invalid ∧
    (term endpoints deadlines (.ok f) st).state.gauges.adapters =
      st.fleet.countP fun e => (e.2.listing.outcome deadlines.list).isOk
  fleet : (term endpoints deadlines (.ok f) st).state.fleet = s.fleet
  /-- An adapter that does not say in time what it holds is left alone. -/
  unheard : ∀ a e, (a, e) ∈ st.fleet → (∀ bs, e.listing.outcome deadlines.list ≠ .ok bs) →
    (a, e) ∈ s.fleet ∧ ∀ (c : Change) (b : Binding), (a, b) ∉ c.of s.plan

section Ended

variable {f : Fetched} {st : State Endpoint} {plan : Placement.Plan} {t t' t'' : List Event}

theorem isPrefix_of_append {α : Type} {l m front back : List α} {x : α} (hx : x ∉ l)
    (h : l ++ m = front ++ x :: back) : l <+: front := by
  obtain ⟨m', hl, -⟩ | ⟨l', hl, hr⟩ := List.append_eq_append_iff.1 h
  · exact ⟨m', hl.symm⟩
  · cases l' with
    | nil => exact ⟨[], by rw [hl, List.append_nil, List.append_nil]⟩
    | cons y l' =>
      obtain ⟨rfl, -⟩ := List.cons.inj hr
      exact absurd (hl ▸ List.mem_append_right _ List.mem_cons_self) hx

theorem known_iff_of_over (hn : (st.fleet.map Prod.fst).Nodup)
    (lists : Over endpoints deadlines (listers st.fleet) t) (a : String)
    (held : SortedSet Binding) :
    (known t).get? a = some held ↔ ∃ e bs, (a, e) ∈ st.fleet ∧
      e.listing.outcome deadlines.list = .ok bs ∧ SortedSet.ofList bs = held := by
  rw [known_of_over hn lists, SortedMap.get?_ofList_eq_some_iff (nodup_answers hn), mem_answers]

variable (hn : (st.fleet.map Prod.fst).Nodup)
  (hk : ∀ c : Change, ∀ p ∈ c.of plan, p.1 ∈ st.fleet.map Prod.fst)
  (lists : Over endpoints deadlines (listers st.fleet) t)
  (deletes : Over endpoints deadlines (deleters endpoints deadlines st.fleet plan) t')
  (creates : Over endpoints deadlines (creators endpoints deadlines st.fleet plan) t'')

include hn in
theorem nodup_listers :
    (((listers st.fleet).map (·.conclude endpoints deadlines)).map (·.addr)).Nodup := by
  rwa [addrs_conclude, addrs_listers]

include hn in
theorem nodup_deleters :
    (((deleters endpoints deadlines st.fleet plan).map
      (·.conclude endpoints deadlines)).map (·.addr)).Nodup := by
  rwa [addrs_conclude, addrs_deleters]

include hn hk deletes in
theorem begun_deletes (c : Change) :
    (t'.filterMap (Event.begun? c)).Perm (if .delete = c then plan.deletes else []) := by
  refine begun_of_over (nodup_listers hn) (fun p hp => ?_) deletes c
  rw [addrs_conclude, addrs_listers]
  exact hk .delete p hp

include hn hk creates in
theorem begun_creates (c : Change) :
    (t''.filterMap (Event.begun? c)).Perm (if .create = c then plan.creates else []) := by
  refine begun_of_over (nodup_deleters hn) (fun p hp => ?_) creates c
  rw [addrs_conclude, addrs_deleters]
  exact hk .create p hp

include hn hk lists deletes creates in
/-- The calls of a term that begin are those of its plan. -/
theorem begun_trace (c : Change) :
    ((t ++ t' ++ t'').filterMap (Event.begun? c)).Perm (c.of plan) := by
  have hd := begun_deletes hn hk deletes c
  have hc := begun_creates hn hk creates c
  rw [List.filterMap_append, List.filterMap_append, (Event.picked_of_over hn lists c).1,
    List.nil_append]
  cases c with
  | create => exact hd.append hc
  | delete =>
    have hp := hd.append hc
    rwa [if_pos rfl, if_neg (by decide), List.append_nil] at hp

include hn hk lists deletes creates in
/-- The calls of a term that come back as successes. -/
theorem done_trace (c : Change) :
    ((t ++ t' ++ t'').filterMap (Event.done? c)).Perm
        ((c.of plan).filter (succeedsAt deadlines st.fleet c)) ∧
      (t ++ t' ++ t'').filterMap (Event.done? .create) = t''.filterMap (Event.done? .create) ∧
      (t ++ t' ++ t'').filterMap (Event.done? .delete) = t'.filterMap (Event.done? .delete) := by
  have hd : ∀ c, (t'.filterMap (Event.done? c)).Perm (if .delete = c then
      plan.deletes.filter (succeedsAt deadlines st.fleet .delete) else []) := by
    intro c
    have hp := done_of_over (nodup_listers hn) (fun p hp => ?_) deletes c
    · rwa [fleetOf_listers] at hp
    · rw [addrs_conclude, addrs_listers]
      exact hk .delete p hp
  have hc : ∀ c, (t''.filterMap (Event.done? c)).Perm (if .create = c then
      plan.creates.filter (succeedsAt deadlines st.fleet .create) else []) := by
    intro c
    have hp := done_of_over (nodup_deleters hn) (fun p hp => ?_) creates c
    · rwa [fleetOf_deleters, succeedsAt_changed] at hp
    · rw [addrs_conclude, addrs_deleters]
      exact hk .create p hp
  have hsplit : ∀ c, (t ++ t' ++ t'').filterMap (Event.done? c) =
      t'.filterMap (Event.done? c) ++ t''.filterMap (Event.done? c) := by
    intro c
    rw [List.filterMap_append, List.filterMap_append, (Event.picked_of_over hn lists c).2,
      List.nil_append]
  have hdc := (hd .create).eq_nil
  have hcd := (hc .delete).eq_nil
  refine ⟨?_, ?_, ?_⟩
  · rw [hsplit]
    cases c with
    | create =>
      rw [hdc]
      exact hc .create
    | delete =>
      rw [hcd, List.append_nil]
      exact hd .delete
  · rw [hsplit, hdc, List.nil_append]
  · rw [hsplit, hcd, List.append_nil]

include lists in
theorem eventsAt_lists {a : String} {e : Endpoint} (he : (a, e) ∈ st.fleet) :
    eventsAt a t = [.called a .list, .listed a (some (e.listing.outcome deadlines.list))] := by
  have hu : (⟨a, e, [.list], false, 0⟩ : Worker Endpoint) ∈ listers st.fleet :=
    List.mem_map.2 ⟨(a, e), he, rfl⟩
  rw [lists.events _ hu, (finish_lister (a, e)).2]
  simp only [Call.perform, endpoints, Answer.settle_reply]

include deletes in
theorem eventsAt_deletes {a : String} {e : Endpoint} (he : (a, e) ∈ st.fleet) :
    eventsAt a t' = (ownOf plan.deletes a).flatMap (e.seen deadlines .delete a) :=
  eventsAt_of_over deletes (by rwa [fleetOf_listers])

include creates in
theorem eventsAt_creates {a : String} {e : Endpoint} (he : (a, e) ∈ st.fleet) :
    eventsAt a t'' = (ownOf plan.creates a).flatMap (e.seen deadlines .create a) := by
  have hm : (a, e.changed deadlines .delete (ownOf plan.deletes a)) ∈
      fleetOf ((deleters endpoints deadlines st.fleet plan).map
        (·.conclude endpoints deadlines)) := by
    rw [fleetOf_deleters]
    exact List.mem_map.2 ⟨(a, e), he, rfl⟩
  have hev := eventsAt_of_over creates hm
  exact hev

include hn hk lists deletes in
/-- Before the first creation begins all deletions have come back. -/
theorem barrier_trace {front back : List Event} {a : String} {b : Binding}
    (h : t ++ t' ++ t'' = front ++ .called a (.change .create b) :: back) :
    ∀ p ∈ plan.deletes, ∃ r, .changed p.1 .delete p.2 r ∈ front := by
  intro p hp
  have hbegun : (t ++ t').filterMap (Event.begun? .create) = [] := by
    rw [List.filterMap_append, (Event.picked_of_over hn lists _).1, List.nil_append]
    exact (begun_deletes hn hk deletes .create).eq_nil
  have hnot : Event.called a (.change .create b) ∉ t ++ t' := by
    intro hm
    have hnone := List.filterMap_eq_nil_iff.1 hbegun _ hm
    simp [Event.begun?] at hnone
  obtain ⟨⟨a', e⟩, he, ha⟩ := List.mem_map.1 (hk .delete p hp)
  have hev := eventsAt_deletes deletes he
  obtain rfl : a' = p.1 := ha
  refine ⟨some ((e.fate .delete p.2).answer.outcome deadlines.change), ?_⟩
  refine (isPrefix_of_append hnot h).subset (List.mem_append_right t ?_)
  refine List.mem_of_mem_filter (p := fun v => v.addr = p.1) ?_
  show _ ∈ eventsAt p.1 t'
  rw [hev]
  exact List.mem_flatMap.2 ⟨p.2, mem_ownOf.2 hp, List.mem_cons_of_mem _ List.mem_cons_self⟩

include lists deletes creates in
theorem addrs_trace : ∀ v ∈ t ++ t' ++ t'', v.addr ∈ st.fleet.map Prod.fst := by
  intro v hv
  rcases List.mem_append.1 hv with hv | hv
  · rcases List.mem_append.1 hv with hv | hv
    · exact addrs_listers st.fleet ▸ lists.addrs v hv
    · exact addrs_deleters st.fleet plan ▸ deletes.addrs v hv
  · exact addrs_creators st.fleet plan ▸ creates.addrs v hv

/-- What the adapters hold at the end of a term. -/
def heldAfter (deadlines : Deadlines) (fleet : Fleet Endpoint) (plan : Placement.Plan) :
    Fleet Endpoint :=
  fleet.map fun e => (e.1, (e.2.changed deadlines .delete (ownOf plan.deletes e.1)).changed
    deadlines .create (ownOf plan.creates e.1))

theorem mem_heldAfter {a : String} {e : Endpoint} {b : Binding} :
    b ∈ ((e.changed deadlines .delete (ownOf plan.deletes a)).changed deadlines .create
        (ownOf plan.creates a)).held ↔
      (b ∈ e.held ∧
          ¬ ((a, b) ∈ plan.deletes ∧ (e.fate .delete b).lands deadlines.change = true)) ∨
        ((a, b) ∈ plan.creates ∧ (e.fate .create b).lands deadlines.change = true) := by
  rw [mem_changed_create, mem_changed_delete, mem_ownOf, mem_ownOf]
  rfl

include hn hk in
/-- Effects come to the same in any order, since a plan does not delete what it creates. -/
theorem heldBy_heldAfter (hd : ∀ p ∈ plan.creates, p ∉ plan.deletes)
    {effects : List (Change × String × Binding)}
    (he : ∀ (c : Change) (p : String × Binding), (c, p) ∈ effects ↔
      p ∈ c.of plan ∧ landsAt deadlines st.fleet c p = true) :
    heldBy (heldAfter deadlines st.fleet plan) = effects.foldl Change.land (heldBy st.fleet) := by
  have haddrs : (heldAfter deadlines st.fleet plan).map Prod.fst = st.fleet.map Prod.fst := by
    rw [heldAfter, List.map_map]
    rfl
  have hdisj : ∀ p, (Change.create, p) ∈ effects → (Change.delete, p) ∉ effects :=
    fun p hc hd' => hd p ((he _ _).1 hc).1 ((he _ _).1 hd').1
  have hkeys : ∀ p, (Change.create, p) ∈ effects → p.1 ∈ (heldBy st.fleet).keys :=
    fun p hc => mem_keys_heldBy.2 (hk .create p ((he _ _).1 hc).1)
  refine Holdings.ext_holds (fun a => ?_) fun a b => ?_
  · rw [mem_keys_heldBy, haddrs, keys_foldl_land hkeys, mem_keys_heldBy]
  · rw [Bool.eq_iff_iff, holds_foldl_land hdisj, he, he]
    by_cases ha : a ∈ st.fleet.map Prod.fst
    · obtain ⟨⟨a, e⟩, hm, rfl⟩ := List.mem_map.1 ha
      have hlands : ∀ c, landsAt deadlines st.fleet c (a, b) =
          (e.fate c b).lands deadlines.change := fun c =>
        any_at hn hm fun e => (e.fate c b).lands deadlines.change
      have hm' : (a, _) ∈ heldAfter deadlines st.fleet plan := List.mem_map.2 ⟨(a, e), hm, rfl⟩
      rw [holds_heldBy (haddrs ▸ hn) hm', mem_heldAfter, holds_heldBy hn hm, hlands, hlands]
      rfl
    · constructor
      · intro h
        rw [← haddrs, ← mem_keys_heldBy] at ha
        exact absurd (Holdings.mem_keys_of_holds h) ha
      · rintro (⟨h, -⟩ | ⟨h, -⟩)
        · exact absurd (mem_keys_heldBy.1 (Holdings.mem_keys_of_holds h)) ha
        · exact absurd (hk .create _ h) ha

include hn hk in
/-- If all changes take effect the plan is applied. -/
theorem heldBy_heldAfter_of_lands (hd : ∀ p ∈ plan.creates, p ∉ plan.deletes)
    (hall : ∀ c : Change, ∀ p ∈ c.of plan, landsAt deadlines st.fleet c p = true) :
    heldBy (heldAfter deadlines st.fleet plan) = Placement.apply (heldBy st.fleet) plan := by
  have he : ∀ (c : Change) (p : String × Binding),
      (c, p) ∈ plan.deletes.map (Prod.mk .delete) ++ plan.creates.map (Prod.mk .create) ↔
        p ∈ c.of plan ∧ landsAt deadlines st.fleet c p = true := by
    intro c p
    rw [and_iff_left_of_imp (hall c p), List.mem_append]
    cases c with
    | create => simp [Change.of]
    | delete => simp [Change.of]
  rw [heldBy_heldAfter hn hk hd he, List.foldl_append, List.foldl_map, List.foldl_map]
  rfl

theorem ownOf_eq_nil {changes : List (String × Binding)} {a : String}
    (h : ∀ b, (a, b) ∉ changes) : ownOf changes a = [] :=
  List.eq_nil_iff_forall_not_mem.2 fun b hb => h b (mem_ownOf.1 hb)

/-- No change is planned at an adapter of which nothing is known. -/
theorem not_mem_of_unknown {desired : List Binding} {actual : Holdings} {addrs : List String}
    {a : String} (h : a ∉ actual.keys) (c : Change) (b : Binding) :
    (a, b) ∉ c.of (Placement.plan desired actual addrs) := by
  intro hp
  cases c with
  | create =>
    have hv := Placement.mem_vacant_of_mem_targets (Placement.mem_creates_plan.1 hp).2
    exact h (Placement.mem_vacant.1 hv).1.2
  | delete => exact h (Holdings.mem_keys_of_holds (Placement.mem_deletes_plan.1 hp).1)

include hn lists in
/-- Nothing is known of an adapter that does not say in time what it holds. -/
theorem not_mem_keys_known {a : String} {e : Endpoint} (hm : (a, e) ∈ st.fleet)
    (hfail : ∀ bs, e.listing.outcome deadlines.list ≠ .ok bs) : a ∉ (known t).keys := by
  rw [known_of_over hn lists, SortedMap.mem_keys_ofList]
  intro ha
  obtain ⟨⟨a', held⟩, hr, rfl⟩ := List.mem_map.1 ha
  obtain ⟨e', bs, hm', hok, -⟩ := mem_answers.1 hr
  obtain rfl : e' = e := congrArg Prod.snd (List.inj_on_of_nodup_map hn hm' hm rfl)
  exact hfail bs hok

/-- An adapter at which no change is planned stays as it is. -/
theorem mem_heldAfter_of_unplanned {a : String} {e : Endpoint} (hm : (a, e) ∈ st.fleet)
    (h : ∀ (c : Change) (b : Binding), (a, b) ∉ c.of plan) :
    (a, e) ∈ heldAfter deadlines st.fleet plan := by
  refine List.mem_map.2 ⟨(a, e), hm, ?_⟩
  have hcreates : ownOf plan.creates a = [] := ownOf_eq_nil (h .create)
  have hdeletes : ownOf plan.deletes a = [] := ownOf_eq_nil (h .delete)
  simp only [hcreates, hdeletes]
  rfl

include hn lists in
/-- All that is planned is planned at adapters of the fleet, ... -/
theorem addr_of_mem_of (planned : plan =
    Placement.plan f.bindings (known t) (st.fleet.map Prod.fst)) :
    ∀ c : Change, ∀ p ∈ c.of plan, p.1 ∈ st.fleet.map Prod.fst := by
  have hkeys : ∀ a ∈ (known t).keys, a ∈ st.fleet.map Prod.fst := by
    rw [known_of_over hn lists]
    exact fun a ha => mem_keys_answers ha
  obtain ⟨hdel, hcre⟩ : (∀ p ∈ (Placement.plan f.bindings _ _).deletes, _) ∧ _ :=
    addr_of_mem_plan hkeys
  rw [← planned] at hdel hcre
  intro c
  cases c with
  | create => exact hcre
  | delete => exact hdel

/-- ... once, ... -/
theorem nodup_of (desired : List Binding) (actual : Holdings) (addrs : List String) (c : Change) :
    (c.of (Placement.plan desired actual addrs)).Nodup := by
  cases c with
  | create => exact Placement.nodup_creates_plan ..
  | delete => exact Placement.nodup_deletes_plan ..

/-- ... and what is created is not deleted. -/
theorem not_mem_deletes_of_mem_creates {desired : List Binding} {actual : Holdings}
    {addrs : List String} {p : String × Binding}
    (h : p ∈ (Placement.plan desired actual addrs).creates) :
    p ∉ (Placement.plan desired actual addrs).deletes :=
  fun hd => (Placement.mem_deletes_plan.1 hd).2 (Placement.mem_creates_plan.1 h).1

end Ended

/-- A term that has ended, under whatever schedule, did what it had to. -/
theorem fulfilled_of_course {f : Fetched} {st : State Endpoint} (hn : (st.fleet.map Prod.fst).Nodup)
    {s : Session Endpoint} (h : Course endpoints deadlines f.bindings st.fleet s)
    (he : s.stage = .ended) : Fulfilled deadlines f st s := by
  have hrow := ended_eq_carryOut hn h he
  cases h with
  | listing => cases he
  | deleting => cases he
  | creating => cases he
  | @ended plan ws t t' t'' lists planned deletes underway done =>
    obtain ⟨hws, creates⟩ := underway.over done
    have hknown : known (t ++ t' ++ t'') = known t := known_trace hn deletes creates
    have hk := addr_of_mem_of hn lists planned
    have hd : ∀ p ∈ plan.creates, p ∉ plan.deletes := by
      rw [planned]
      exact fun p hp => not_mem_deletes_of_mem_creates hp
    have hfleet : fleetOf ws = heldAfter deadlines st.fleet plan := by
      rw [hws, fleetOf_creators]
      rfl
    exact {
      known_iff := by
        intro a held
        rw [hknown]
        exact known_iff_of_over hn lists a held
      planned := by rw [hknown]; exact planned
      begun := begun_trace hn hk lists deletes creates
      once := by
        intro c
        refine (begun_trace hn hk lists deletes creates c).nodup_iff.2 ?_
        rw [planned]
        exact nodup_of ..
      stages := by
        exact ⟨t, t', t'', rfl, addrs_trace lists deletes creates, fun a e hm =>
          ⟨eventsAt_lists lists hm, eventsAt_deletes deletes hm, eventsAt_creates creates hm⟩⟩
      barrier := fun front back a b htrace => barrier_trace hn hk lists deletes htrace
      held := by
        intro a e hm
        refine ⟨_, ?_, fun b => mem_heldAfter⟩
        rw [Session.fleet, hfleet]
        exact List.mem_map.2 ⟨(a, e), hm, rfl⟩
      any_order := by
        intro effects heffects
        rw [Session.fleet, hfleet]
        exact heldBy_heldAfter hn hk hd heffects
      applied := by
        intro hall
        rw [Session.fleet, hfleet]
        exact heldBy_heldAfter_of_lands hn hk hd hall
      done := fun c => (done_trace hn hk lists deletes creates c).1
      report := by
        obtain ⟨-, hc, hdel⟩ := done_trace hn hk lists deletes creates .create
        have hcreated := successes_of_over (nodup_deleters hn) creates
        have hdeleted := successes_of_over (nodup_listers hn) deletes
        refine hrow.2.trans (congrArg some ?_)
        rw [Session.report, hc, hdel, ← hcreated, ← hdeleted, ← length_answers,
          ← SortedMap.size_ofList (nodup_answers hn), ← known_of_over hn lists, ← hknown]
        rfl
      gauges := by
        refine ⟨rfl, rfl, ?_⟩
        show (listEach endpoints deadlines st.fleet).1.holdings.size = _
        rw [holdings_listEach hn, SortedMap.size_ofList (nodup_answers hn), length_answers]
      fleet := hrow.1.symm
      unheard := by
        intro a e hm hfail
        have hnone : ∀ (c : Change) (b : Binding), (a, b) ∉ c.of plan := by
          rw [planned]
          exact not_mem_of_unknown (not_mem_keys_known hn lists hm hfail)
        refine ⟨?_, hnone⟩
        rw [Session.fleet, hfleet]
        exact mem_heldAfter_of_unplanned hm hnone }

/-- **A term under every schedule.** However the calls of a term to its adapters are interleaved,
and whatever becomes of each of them, the term can be led to its end, and when it has ended it did
what it had to. -/
theorem term_under_every_schedule (deadlines : Deadlines) (f : Fetched) (st : State Endpoint)
    (hn : (st.fleet.map Prod.fst).Nodup) (schedule : List Turn) :
    let after := (Session.start st.fleet).run endpoints deadlines f.bindings
    (∃ rest, (after (schedule ++ rest)).stage = .ended ∧
      (after schedule).trace <+: (after (schedule ++ rest)).trace) ∧
    ((after schedule).stage = .ended → Fulfilled deadlines f st (after schedule)) := by
  intro after
  constructor
  · obtain ⟨rest, hrest⟩ := Session.exists_ended endpoints deadlines f.bindings (after schedule)
    have happend : after (schedule ++ rest) = (after schedule).run _ _ _ rest :=
      Session.run_append ..
    refine ⟨rest, ?_, ?_⟩
    · rw [happend]
      exact hrest
    · rw [happend]
      exact Session.trace_run _ rest
  · intro he
    exact fulfilled_of_course hn (Session.course_run hn Session.course_start schedule) he

/-- One adapter gives up a binding and makes a copy of another without a word, a second one refuses
its copy, and a third one is too late with what it holds: one deletion is reported and no creation,
yet the first adapter holds the copy. -/
theorem term_with_failures :
    let b : Binding := ⟨"app", "host", "drain"⟩
    let c : Binding := ⟨"app", "other", "drain"⟩
    let silent : Fate := ⟨⟨2000, .ok ()⟩, true⟩
    let prompt : Fate := ⟨⟨5, .ok ()⟩, false⟩
    let full : Fate := ⟨⟨5, .error .resourceExhausted⟩, false⟩
    let n : Endpoint := ⟨SortedSet.ofList [c], ⟨5, .ok [c]⟩, fun ch _ =>
      match ch with
      | .create => silent
      | .delete => prompt⟩
    let m : Endpoint := ⟨∅, ⟨7, .ok []⟩, fun _ _ => full⟩
    let o : Endpoint := ⟨∅, ⟨4000, .ok []⟩, fun _ _ => prompt⟩
    let f : Fetched := ⟨[b], 0, 1⟩
    let st : State Endpoint := ⟨[("n", n), ("m", m), ("o", o)], {}⟩
    let turns : List Turn := [.worker "m", .worker "n", .worker "o", .worker "n", .scheduler,
      .worker "o", .worker "m", .scheduler, .worker "n", .worker "n", .scheduler, .worker "n",
      .worker "m", .worker "m", .worker "n", .scheduler]
    let s := (Session.start st.fleet).run endpoints {} f.bindings turns
    (term endpoints {} (.ok f) st).report = some ⟨1, 2, 0, 1⟩ ∧
      ("o", o) ∈ s.fleet ∧ ∃ e, ("n", e) ∈ s.fleet ∧ b ∈ e.held ∧ c ∉ e.held := by
  intro b c silent prompt full n m o f st turns s
  have hended : s.stage = .ended := by decide +kernel
  have hdone : Fulfilled {} f st s := (term_under_every_schedule {} f st (by decide) turns).2 hended
  have hcreate : ("n", b) ∈ s.plan.creates := by decide +kernel
  have hdelete : ("n", c) ∈ s.plan.deletes := by decide +kernel
  have hstays : ("n", c) ∉ s.plan.creates := by decide +kernel
  have hanswered : (st.fleet.countP fun e => (e.2.listing.outcome 3000).isOk) = 2 := by decide
  have hcreated : (s.trace.filterMap (Event.done? .create)).length = 0 := by decide +kernel
  have hdeleted : (s.trace.filterMap (Event.done? .delete)).length = 1 := by decide +kernel
  have hn : ("n", n) ∈ st.fleet := List.mem_cons_self
  have ho : ("o", o) ∈ st.fleet := by simp [st]
  refine ⟨?_, ?_, ?_⟩
  · rw [hdone.report, hcreated, hdeleted, hanswered]
    rfl
  · exact (hdone.unheard "o" o ho fun bs h => by cases h).1
  · obtain ⟨e, he, hheld⟩ := hdone.held "n" n hn
    refine ⟨e, he, (hheld b).2 (.inr ⟨hcreate, rfl⟩), fun hc => ?_⟩
    rcases (hheld c).1 hc with ⟨-, hnot⟩ | ⟨hin, -⟩
    · exact hnot ⟨hdelete, rfl⟩
    · exact hstays hin

end LogEgress.Scheduler
