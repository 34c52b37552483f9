import LogEgress.Proofs.Placement.Holders
import LogEgress.Proofs.Scheduler.Serial

set_option autoImplicit false

/-! # Adapters of any fate

Each call to an adapter has its own fate: the adapter may answer, with a success or with an error,
or say nothing until the deadline has passed, and a change that was not acknowledged may still have
been made. A plan names each change once, so a fate for each change of a binding is one for each
call. The calls of a stage to such adapters are found in what is seen of it in any order
(`filterMap_of_over`), and the effects of changes on different bindings come to the same in any
order (`holds_foldl_land`).
-/

namespace LogEgress.Scheduler

/-! ## Adapters of any fate -/

/-- An answer that takes its time. -/
structure Answer (α : Type) where
  delay : Nat
  result : Except Rpc.Error α

namespace Answer

variable {α : Type}

/-- What a caller with a deadline sees. -/
def reply (deadline : Nat) (x : Answer α) : Reply α :=
  if x.delay ≤ deadline then .answered x.delay x.result else .late

/-- What a caller with a deadline makes of it. -/
def outcome (deadline : Nat) (x : Answer α) : Except Rpc.Error α :=
  if x.delay ≤ deadline then x.result else .error .timeout

theorem settle_reply (addr op : String) (deadline : Nat) (x : Answer α) :
    (settle addr op deadline (x.reply deadline)).1 = some (x.outcome deadline) := by
  obtain ⟨delay, result⟩ := x
  by_cases h : delay ≤ deadline
  · cases result with
    | ok y => simp only [reply, outcome, h, if_true, settle]
    | error e => simp only [reply, outcome, h, if_true, settle]
  · simp only [reply, outcome, h, if_false, settle]

end Answer

/-- What becomes of a change: the answer, and whether a change that is not acknowledged is made
nevertheless. -/
structure Fate where
  answer : Answer Unit
  anyway : Bool

namespace Fate

/-- Whether the caller hears of a success. -/
def succeeds (deadline : Nat) (x : Fate) : Bool := (x.answer.outcome deadline).isOk

/-- Whether the change is made. -/
def lands (deadline : Nat) (x : Fate) : Bool := x.anyway || x.succeeds deadline

end Fate

/-- An adapter: what it holds, how it will answer when it is asked for that, and what will become
of each change. -/
structure Endpoint where
  held : SortedSet Binding
  listing : Answer (List Binding)
  fate : Change → Binding → Fate

/-- Makes a change. -/
def Change.make : Change → SortedSet Binding → Binding → SortedSet Binding
  | .create, held, b => held.insert b
  | .delete, held, b => held.erase b

/-- How adapters answer. -/
def endpoints : Server Endpoint where
  list d e := (e.listing.reply d, e)
  change c b d e := ((e.fate c b).answer.reply d,
    if (e.fate c b).lands d then { e with held := c.make e.held b } else e)

variable {deadlines : Deadlines}

namespace Endpoint

/-- The adapter after some changes. -/
def changed (deadlines : Deadlines) (c : Change) (bs : List Binding) (e : Endpoint) : Endpoint :=
  { e with held :=
    (bs.filter fun b => (e.fate c b).lands deadlines.change).foldl c.make e.held }

/-- What is seen of a change. -/
def seen (deadlines : Deadlines) (c : Change) (addr : String) (e : Endpoint) (b : Binding) :
    List Event :=
  [.called addr (.change c b),
    .changed addr c b (some ((e.fate c b).answer.outcome deadlines.change))]

end Endpoint

/-- Changes at one adapter, one after the other. -/
theorem solo_changes (c : Change) (addr : String) (bs : List Binding) (e : Endpoint) (n : Nat) :
    solo endpoints deadlines addr (bs.map (.change c)) e n =
      ⟨e.changed deadlines c bs, n + bs.countP fun b => (e.fate c b).succeeds deadlines.change,
        bs.flatMap (e.seen deadlines c addr)⟩ := by
  induction bs generalizing e n with
  | nil => rfl
  | cons b bs ih =>
    have hv : ((Call.change c b).perform endpoints deadlines addr e).verdict =
        some ((e.fate c b).succeeds deadlines.change) := by
      simp only [Call.perform, endpoints, Answer.settle_reply, Option.map_some, Fate.succeeds]
    have he : ((Call.change c b).perform endpoints deadlines addr e).event =
        .changed addr c b (some ((e.fate c b).answer.outcome deadlines.change)) := by
      simp only [Call.perform, endpoints, Answer.settle_reply]
    have hs : ((Call.change c b).perform endpoints deadlines addr e).state =
        if (e.fate c b).lands deadlines.change then { e with held := c.make e.held b } else e := rfl
    have hn : (if (e.fate c b).succeeds deadlines.change then n + 1 else n) +
        bs.countP (fun b => (e.fate c b).succeeds deadlines.change) =
          n + (b :: bs).countP fun b => (e.fate c b).succeeds deadlines.change := by
      rw [List.countP_cons]
      split
      · omega
      · omega
    rw [List.map_cons, solo_cons, hv, he, hs, ← hn]
    -- What becomes of the other changes does not depend on what is held.
    by_cases hl : (e.fate c b).lands deadlines.change = true
    · have hchanged : Endpoint.changed deadlines c bs { e with held := c.make e.held b } =
          e.changed deadlines c (b :: bs) := by
        simp only [Endpoint.changed, List.filter_cons, hl, if_true, List.foldl_cons]
      rw [if_pos hl]
      simp only [ih, hchanged]
      rfl
    · have hchanged : e.changed deadlines c bs = e.changed deadlines c (b :: bs) := by
        simp only [Endpoint.changed, List.filter_cons, hl, if_false, Bool.false_eq_true]
      rw [if_neg hl]
      simp only [ih, hchanged]
      rfl

/-! ## The changes of a stage -/

theorem ownChanges_endpoints (c : Change) (changes : List (String × Binding))
    (e : String × Endpoint) :
    ownChanges endpoints deadlines c changes e =
      ⟨e.2.changed deadlines c (ownOf changes e.1),
        (ownOf changes e.1).countP fun b => (e.2.fate c b).succeeds deadlines.change,
        (ownOf changes e.1).flatMap (e.2.seen deadlines c e.1)⟩ := by
  rw [ownChanges_eq, solo_changes, Nat.zero_add]

/-- The change that begins with an event, if it is of a kind. -/
def Event.begun? (c : Change) : Event → Option (String × Binding)
  | .called addr (.change c' b) => if c' = c then some (addr, b) else none
  | _ => none

/-- The change that an event reports as successful, if it is of a kind. -/
def Event.done? (c : Change) : Event → Option (String × Binding)
  | .changed addr c' b (some (.ok _)) => if c' = c then some (addr, b) else none
  | _ => none

theorem filterMap_seen_begun (c c' : Change) (addr : String) (e : Endpoint) (b : Binding) :
    (e.seen deadlines c addr b).filterMap (Event.begun? c') =
      if c = c' then [(addr, b)] else [] := by
  by_cases h : c = c'
  · simp [Endpoint.seen, Event.begun?, h]
  · simp [Endpoint.seen, Event.begun?, h]

theorem filterMap_seen_done (c c' : Change) (addr : String) (e : Endpoint) (b : Binding) :
    (e.seen deadlines c addr b).filterMap (Event.done? c') =
      if c = c' ∧ (e.fate c b).succeeds deadlines.change = true then [(addr, b)] else [] := by
  unfold Endpoint.seen Fate.succeeds
  cases (e.fate c b).answer.outcome deadlines.change with
  | error x => simp [Event.done?, Except.isOk, Except.toBool]
  | ok u =>
    by_cases h : c = c'
    · simp [Event.done?, Except.isOk, Except.toBool, List.filterMap_cons, h]
    · simp [Event.done?, List.filterMap_cons, h]

/-- Changes at known addresses, sorted by their addresses. -/
theorem flatMap_filter_perm {σ : Type} {fleet : Fleet σ} (hn : (fleet.map Prod.fst).Nodup)
    {changes : List (String × Binding)} (hk : ∀ p ∈ changes, p.1 ∈ fleet.map Prod.fst) :
    (fleet.flatMap fun e => changes.filter (·.1 = e.1)).Perm changes := by
  rw [List.perm_iff_count]
  intro p
  rw [List.count_flatMap]
  by_cases hp : p ∈ changes
  · obtain ⟨e, he, hep⟩ := List.mem_map.1 (hk p hp)
    rw [← sum_at hn he fun _ => changes.count p]
    refine congrArg List.sum (List.map_congr_left fun d _ => ?_)
    rw [Function.comp_apply]
    by_cases h : d.1 = e.1
    · rw [if_pos h, List.count_filter]
      exact decide_eq_true (hep.symm.trans h.symm)
    · rw [if_neg h, List.count_eq_zero]
      intro hm
      have hd : p.1 = d.1 := by simpa using (List.mem_filter.1 hm).2
      exact h (hd.symm.trans hep.symm)
  · rw [List.count_eq_zero.2 hp]
    refine List.sum_eq_zero fun x hx => ?_
    obtain ⟨d, -, rfl⟩ := List.mem_map.1 hx
    exact List.count_eq_zero.2 fun hm => hp (List.mem_of_mem_filter hm)

/-- Whether a change at an address is acknowledged. -/
def succeedsAt (deadlines : Deadlines) (fleet : Fleet Endpoint) (c : Change)
    (p : String × Binding) : Bool :=
  fleet.any fun e => e.1 = p.1 && (e.2.fate c p.2).succeeds deadlines.change

/-- Whether a change at an address takes effect. -/
def landsAt (deadlines : Deadlines) (fleet : Fleet Endpoint) (c : Change)
    (p : String × Binding) : Bool :=
  fleet.any fun e => e.1 = p.1 && (e.2.fate c p.2).lands deadlines.change

theorem any_at {σ : Type} {fleet : Fleet σ} (hn : (fleet.map Prod.fst).Nodup) {e : String × σ}
    (he : e ∈ fleet) (f : σ → Bool) : (fleet.any fun d => d.1 = e.1 && f d.2) = f e.2 := by
  rw [Bool.eq_iff_iff, List.any_eq_true]
  constructor
  · rintro ⟨d, hd, h⟩
    rw [Bool.and_eq_true, decide_eq_true_eq] at h
    rw [← List.inj_on_of_nodup_map hn hd he h.1]
    exact h.2
  · intro h
    refine ⟨e, he, ?_⟩
    rw [h, decide_eq_true rfl, Bool.and_self]

theorem succeedsAt_changed (c c' : Change) (bs : String → List Binding) (fleet : Fleet Endpoint) :
    succeedsAt deadlines (fleet.map fun e => (e.1, e.2.changed deadlines c' (bs e.1))) c =
      succeedsAt deadlines fleet c := by
  funext p
  rw [succeedsAt, List.any_map]
  rfl

section Stage

variable {c : Change} {changes : List (String × Binding)} {ws : List (Worker Endpoint)}
  {t : List Event}

/-- What is seen of the changes of a stage at one adapter. -/
theorem eventsAt_of_over (h : Over endpoints deadlines (ws.map (·.assign c changes)) t)
    {a : String} {e : Endpoint} (he : (a, e) ∈ fleetOf ws) :
    eventsAt a t = (ownOf changes a).flatMap (e.seen deadlines c a) := by
  obtain ⟨w, hw, hwe⟩ := List.mem_map.1 he
  have hev := h.events _ (List.mem_map_of_mem hw)
  rw [finish_assign, hwe, ownChanges_endpoints] at hev
  obtain ⟨rfl, rfl⟩ := Prod.mk.inj hwe
  exact hev

/-- The events of a stage are those of its adapters, in some order. -/
theorem perm_of_over (hn : (ws.map (·.addr)).Nodup)
    (h : Over endpoints deadlines (ws.map (·.assign c changes)) t) :
    t.Perm ((fleetOf ws).flatMap fun e =>
      (ownOf changes e.1).flatMap (e.2.seen deadlines c e.1)) := by
  have hp := h.perm (by rwa [addrs_assign])
  rw [List.flatMap_map] at hp
  rw [fleetOf, List.flatMap_map]
  refine hp.trans (List.Perm.of_eq ?_)
  refine congrArg (ws.flatMap ·) (funext fun w => ?_)
  rw [finish_assign, ownChanges_endpoints]

/-- What is picked from the events at one adapter. -/
theorem filterMap_ownOf {pick : Event → Option (String × Binding)} {q : String × Binding → Bool}
    {a : String} {e : Endpoint} (changes : List (String × Binding))
    (hpick : ∀ b, (e.seen deadlines c a b).filterMap pick = if q (a, b) then [(a, b)] else []) :
    ((ownOf changes a).flatMap (e.seen deadlines c a)).filterMap pick =
      (changes.filter (·.1 = a)).filter q := by
  induction changes with
  | nil => rfl
  | cons p changes ih =>
    obtain ⟨a', b⟩ := p
    by_cases ha : a' = a
    · subst ha
      have hown : ownOf ((a', b) :: changes) a' = b :: ownOf changes a' := by simp [ownOf]
      have hfilter : ((a', b) :: changes).filter (·.1 = a') =
          (a', b) :: changes.filter (·.1 = a') := List.filter_cons_of_pos (by simp)
      rw [hown, List.flatMap_cons, List.filterMap_append, hpick, ih, hfilter, List.filter_cons]
      split
      · rfl
      · rfl
    · have hown : ownOf ((a', b) :: changes) a = ownOf changes a := by simp [ownOf, ha]
      have hfilter : ((a', b) :: changes).filter (·.1 = a) = changes.filter (·.1 = a) :=
        List.filter_cons_of_neg (by simpa using ha)
      rw [hown, ih, hfilter]

/-- What is picked from the events of a stage, if so much is picked from those of each change. -/
theorem filterMap_of_over (hn : (ws.map (·.addr)).Nodup)
    (hk : ∀ p ∈ changes, p.1 ∈ ws.map (·.addr))
    (h : Over endpoints deadlines (ws.map (·.assign c changes)) t)
    (pick : Event → Option (String × Binding)) (q : String × Binding → Bool)
    (hpick : ∀ a e, (a, e) ∈ fleetOf ws → ∀ b,
      (e.seen deadlines c a b).filterMap pick = if q (a, b) then [(a, b)] else []) :
    (t.filterMap pick).Perm (changes.filter q) := by
  rw [← addrs_fleetOf] at hn hk
  have hp := (perm_of_over (by rwa [← addrs_fleetOf]) h).filterMap pick
  rw [List.filterMap_flatMap] at hp
  refine hp.trans ?_
  have hsort := (flatMap_filter_perm hn hk).filter q
  rw [List.filter_flatMap] at hsort
  refine (List.Perm.of_eq ?_).trans hsort
  exact List.flatMap_congr fun e he => filterMap_ownOf changes (hpick e.1 e.2 he)

theorem begun_of_over (hn : (ws.map (·.addr)).Nodup) (hk : ∀ p ∈ changes, p.1 ∈ ws.map (·.addr))
    (h : Over endpoints deadlines (ws.map (·.assign c changes)) t) (c' : Change) :
    (t.filterMap (Event.begun? c')).Perm (if c = c' then changes else []) := by
  have hp := filterMap_of_over hn hk h (Event.begun? c') (fun _ => c = c') fun a e _ b => by
    rw [filterMap_seen_begun]
    simp only [decide_eq_true_eq]
  refine hp.trans (List.Perm.of_eq ?_)
  split
  · rename_i hc
    simp [hc]
  · rename_i hc
    simp [hc]

theorem done_of_over (hn : (ws.map (·.addr)).Nodup) (hk : ∀ p ∈ changes, p.1 ∈ ws.map (·.addr))
    (h : Over endpoints deadlines (ws.map (·.assign c changes)) t) (c' : Change) :
    (t.filterMap (Event.done? c')).Perm
      (if c = c' then changes.filter (succeedsAt deadlines (fleetOf ws) c) else []) := by
  have hp := filterMap_of_over hn hk h (Event.done? c')
    (fun p => c = c' && succeedsAt deadlines (fleetOf ws) c p) fun a e he b => by
      have hat := any_at (by rwa [addrs_fleetOf]) he
        fun e => (e.fate c b).succeeds deadlines.change
      rw [filterMap_seen_done, succeedsAt, hat]
      simp only [Bool.and_eq_true, decide_eq_true_eq]
  refine hp.trans (List.Perm.of_eq ?_)
  split
  · rename_i hc
    simp [hc]
  · rename_i hc
    simp [hc]

end Stage

theorem Event.picked_of_over {fleet : Fleet Endpoint} (hn : (fleet.map Prod.fst).Nodup)
    {t : List Event} (h : Over endpoints deadlines (listers fleet) t) (c : Change) :
    t.filterMap (Event.begun? c) = [] ∧ t.filterMap (Event.done? c) = [] := by
  have hv : ∀ v ∈ t, v.begun? c = none ∧ v.done? c = none := by
    intro v hv
    obtain ⟨u, hu, hvu⟩ := List.mem_flatMap.1
      ((h.perm (by rwa [addrs_listers])).mem_iff.1 hv)
    obtain ⟨e, -, rfl⟩ := List.mem_map.1 hu
    rw [(finish_lister e).2] at hvu
    rcases List.mem_cons.1 hvu with rfl | hvu
    · exact ⟨rfl, rfl⟩
    · rw [List.mem_singleton.1 hvu]
      exact ⟨rfl, rfl⟩
  exact ⟨List.filterMap_eq_nil_iff.2 fun v h => (hv v h).1,
    List.filterMap_eq_nil_iff.2 fun v h => (hv v h).2⟩

/-! ## What adapters hold -/

/-- What the adapters hold, by their addresses. -/
def heldBy (fleet : Fleet Endpoint) : Holdings :=
  SortedMap.ofList (fleet.map fun e => (e.1, e.2.held))

/-- The effect of a change on what is held. -/
def Change.land (s : Holdings) : Change × String × Binding → Holdings
  | (.create, p) => Placement.applyCreate s p
  | (.delete, p) => Placement.applyDelete s p

theorem mem_keys_heldBy {fleet : Fleet Endpoint} {a : String} :
    a ∈ (heldBy fleet).keys ↔ a ∈ fleet.map Prod.fst := by
  rw [heldBy, SortedMap.mem_keys_ofList, List.map_map]
  rfl

theorem holds_heldBy {fleet : Fleet Endpoint} (hn : (fleet.map Prod.fst).Nodup) {a : String}
    {e : Endpoint} (he : (a, e) ∈ fleet) {b : Binding} :
    (heldBy fleet).holds a b = true ↔ b ∈ e.held := by
  have hget : (heldBy fleet).get? a = some e.held := by
    rw [heldBy, SortedMap.get?_ofList_eq_some_iff]
    · exact List.mem_map.2 ⟨(a, e), he, rfl⟩
    · rwa [List.map_map]
  rw [Holdings.holds_iff, hget]
  simp

theorem mem_changed_delete {bs : List Binding} {e : Endpoint} {b : Binding} :
    b ∈ (e.changed deadlines .delete bs).held ↔
      b ∈ e.held ∧ ¬ (b ∈ bs ∧ (e.fate .delete b).lands deadlines.change = true) := by
  rw [← List.mem_filter (p := fun b => (e.fate .delete b).lands deadlines.change)]
  simp only [Endpoint.changed]
  generalize bs.filter _ = landed
  generalize e.held = held
  induction landed generalizing held with
  | nil => simp
  | cons b' landed ih =>
    rw [List.foldl_cons, ih, Change.make, SortedSet.mem_erase, List.mem_cons]
    tauto

theorem mem_changed_create {bs : List Binding} {e : Endpoint} {b : Binding} :
    b ∈ (e.changed deadlines .create bs).held ↔
      b ∈ e.held ∨ b ∈ bs ∧ (e.fate .create b).lands deadlines.change = true := by
  rw [← List.mem_filter (p := fun b => (e.fate .create b).lands deadlines.change)]
  simp only [Endpoint.changed]
  generalize bs.filter _ = landed
  generalize e.held = held
  induction landed generalizing held with
  | nil => simp
  | cons b' landed ih =>
    rw [List.foldl_cons, ih, Change.make, SortedSet.mem_insert, List.mem_cons]
    tauto

/-- Effects on different bindings come to the same in any order. -/
theorem holds_foldl_land {effects : List (Change × String × Binding)}
    (h : ∀ p, (Change.create, p) ∈ effects → (Change.delete, p) ∉ effects) (s : Holdings)
    (a : String) (b : Binding) :
    (effects.foldl Change.land s).holds a b = true ↔
      s.holds a b = true ∧ (Change.delete, a, b) ∉ effects ∨ (Change.create, a, b) ∈ effects := by
  induction effects generalizing s with
  | nil => simp
  | cons x effects ih =>
    have hrest : ∀ p, (Change.create, p) ∈ effects → (Change.delete, p) ∉ effects :=
      fun p hc hd => h p (List.mem_cons_of_mem _ hc) (List.mem_cons_of_mem _ hd)
    rw [List.foldl_cons, ih hrest]
    obtain ⟨c, p⟩ := x
    cases c with
    | create =>
      rw [Change.land, Placement.holds_applyCreate]
      by_cases hp : (a, b) = p
      · have hd : (Change.delete, a, b) ∉ effects := fun hd =>
          h p List.mem_cons_self (hp ▸ List.mem_cons_of_mem _ hd)
        simp [hp, hp ▸ hd]
      · simp [hp]
    | delete =>
      rw [Change.land, Placement.holds_applyDelete]
      simp only [List.mem_cons, Prod.mk.injEq, true_and, reduceCtorEq, false_and, false_or]
      tauto

theorem keys_foldl_land {effects : List (Change × String × Binding)} {s : Holdings}
    (h : ∀ p, (Change.create, p) ∈ effects → p.1 ∈ s.keys) (a : String) :
    a ∈ (effects.foldl Change.land s).keys ↔ a ∈ s.keys := by
  induction effects generalizing s with
  | nil => rfl
  | cons x effects ih =>
    have hx : ∀ a, a ∈ (Change.land s x).keys ↔ a ∈ s.keys := by
      intro a
      obtain ⟨c, p⟩ := x
      cases c with
      | create =>
        rw [Change.land, Placement.mem_keys_applyCreate, or_iff_right_iff_imp]
        rintro rfl
        exact h p List.mem_cons_self
      | delete => rw [Change.land, Placement.keys_applyDelete]
    rw [List.foldl_cons, ih fun p hp => (hx p.1).2 (h p (List.mem_cons_of_mem _ hp)), hx]

/-! ## The stages of a term -/

theorem fleetOf_listers {fleet : Fleet Endpoint} :
    fleetOf ((listers fleet).map (·.conclude endpoints deadlines)) = fleet :=
  fleetOf_conclude_listers fun _ _ => rfl

theorem fleetOf_changed (c : Change) (changes : List (String × Binding))
    (ws : List (Worker Endpoint)) :
    fleetOf ((ws.map (·.assign c changes)).map (·.conclude endpoints deadlines)) =
      (fleetOf ws).map fun e => (e.1, e.2.changed deadlines c (ownOf changes e.1)) := by
  rw [fleetOf_assign]
  refine List.map_congr_left fun e _ => ?_
  rw [ownChanges_endpoints]

theorem fleetOf_deleters {fleet : Fleet Endpoint} (plan : Placement.Plan) :
    fleetOf ((deleters endpoints deadlines fleet plan).map (·.conclude endpoints deadlines)) =
      fleet.map fun e => (e.1, e.2.changed deadlines .delete (ownOf plan.deletes e.1)) := by
  rw [deleters, fleetOf_changed, fleetOf_listers]

theorem fleetOf_creators {fleet : Fleet Endpoint} (plan : Placement.Plan) :
    fleetOf ((creators endpoints deadlines fleet plan).map (·.conclude endpoints deadlines)) =
      fleet.map fun e => (e.1, (e.2.changed deadlines .delete (ownOf plan.deletes e.1)).changed
        deadlines .create (ownOf plan.creates e.1)) := by
  rw [creators, fleetOf_changed, fleetOf_deleters, List.map_map]
  rfl

theorem reported_endpoints (e : String × Endpoint) :
    reported endpoints deadlines e =
      (e.2.listing.outcome deadlines.list).toOption.map (Prod.mk e.1) := by
  simp only [reported, Call.perform, endpoints, Answer.settle_reply]
  cases e.2.listing.outcome deadlines.list with
  | error x => rfl
  | ok bs => rfl

theorem mem_answers {fleet : Fleet Endpoint} {a : String} {held : SortedSet Binding} :
    (a, held) ∈ answers endpoints deadlines fleet ↔
      ∃ e bs, (a, e) ∈ fleet ∧ e.listing.outcome deadlines.list = .ok bs ∧
        SortedSet.ofList bs = held := by
  simp only [answers, List.mem_map, List.mem_filterMap, reported_endpoints]
  constructor
  · rintro ⟨r, ⟨⟨a', e⟩, he, hr⟩, hh⟩
    cases ho : e.listing.outcome deadlines.list with
    | error x =>
      rw [ho] at hr
      cases hr
    | ok bs =>
      rw [ho] at hr
      obtain rfl : (a', bs) = r := Option.some.inj hr
      obtain ⟨rfl, rfl⟩ := Prod.mk.inj hh
      exact ⟨e, bs, he, ho, rfl⟩
  · rintro ⟨e, bs, he, ho, rfl⟩
    refine ⟨(a, bs), ⟨(a, e), he, ?_⟩, rfl⟩
    rw [ho]
    rfl

theorem length_answers (fleet : Fleet Endpoint) :
    (answers endpoints deadlines fleet).length =
      fleet.countP fun e => (e.2.listing.outcome deadlines.list).isOk := by
  rw [answers, List.length_map, List.length_filterMap_eq_countP]
  refine List.countP_congr fun e _ => ?_
  rw [reported_endpoints]
  cases e.2.listing.outcome deadlines.list with
  | error x => rfl
  | ok bs => rfl

/-- The successes of a stage are the calls that came back as such. -/
theorem successes_of_over {c : Change} {changes : List (String × Binding)}
    {ws : List (Worker Endpoint)} {t : List Event} (hn : (ws.map (·.addr)).Nodup)
    (h : Over endpoints deadlines (ws.map (·.assign c changes)) t) :
    successes endpoints deadlines (ws.map (·.assign c changes)) =
      (t.filterMap (Event.done? c)).length := by
  rw [((perm_of_over hn h).filterMap _).length_eq, List.filterMap_flatMap, List.length_flatMap,
    successes, fleetOf, List.map_map, List.map_map]
  refine congrArg List.sum (List.map_congr_left fun w _ => ?_)
  rw [Function.comp_apply, finish_assign, ownChanges_endpoints]
  simp only [Function.comp_apply]
  induction ownOf changes w.addr with
  | nil => rfl
  | cons b own ih =>
    rw [List.countP_cons, ih, List.flatMap_cons, List.filterMap_append, List.length_append,
      filterMap_seen_done]
    cases (w.state.fate c b).succeeds deadlines.change with
    | true =>
      rw [if_pos rfl, if_pos ⟨rfl, rfl⟩, List.length_singleton]
      omega
    | false =>
      rw [if_neg Bool.false_ne_true, if_neg fun h => Bool.false_ne_true h.2, List.length_nil]
      omega

end LogEgress.Scheduler
