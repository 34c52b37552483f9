import LogEgress.Proofs.Adapter.Subscriptions
import LogEgress.Proofs.Scheduler.Endpoint

set_option autoImplicit false

/-! # Removals make room

The adapters of a term are taken as they are: each holds no more bindings than its limit, and
refuses a new one when it is full. All deletions of a term come before its creations, so what
counts at an adapter is the room that is left beside the bindings that stay. If all adapters answer
in time, each of them takes the first creations planned for it as far as this room goes, and refuses
the rest (`removals_make_room`); and under no schedule is there a moment at which one of them holds
more than it may.
-/

namespace LogEgress

/-! ## Room at an adapter -/

namespace Adapter.Subscriptions

/-- How many of some new bindings there is room for, beside a number of others. -/
def roomFor (limit : Option Nat) (others new : Nat) : Nat :=
  match limit with
  | none => new
  | some max => min new (max - others)

/-- The bindings held that are desired. -/
def kept (desired : List Binding) (s : Subscriptions) : List Binding :=
  s.list.filter fun b => b ∈ desired

/-- The bindings held that are not desired. -/
def undesired (desired : List Binding) (s : Subscriptions) : List Binding :=
  s.list.filter fun b => b ∉ desired

theorem roomFor_of_full {s : Subscriptions} (h : s.Full) (n : Nat) :
    roomFor s.limit s.list.length n = 0 := by
  obtain ⟨max, hmax, hle⟩ := h
  simp only [roomFor, hmax]
  omega

/-- A binding that finds room takes it from the others. -/
theorem roomFor_start {s : Subscriptions} (hroom : ¬ s.Full) {b : Binding} (hb : b ∉ s.list)
    (n : Nat) : roomFor s.limit s.list.length (n + 1) =
      roomFor (s.start b).limit (s.start b).list.length n + 1 := by
  have hlimit : (s.start b).limit = s.limit := rfl
  rw [hlimit, length_list_start hb]
  cases hmax : s.limit with
  | none => rfl
  | some max =>
    have hlt : s.list.length < max := by
      by_contra hle
      exact hroom ⟨max, hmax, Nat.le_of_not_lt hle⟩
    simp only [roomFor]
    omega

/-- All new bindings find room if they and the others are not too many. -/
theorem roomFor_eq_self {limit : Option Nat} {others new : Nat}
    (h : ∀ max, limit = some max → others + new ≤ max) : roomFor limit others new = new := by
  cases limit with
  | none => rfl
  | some max =>
    have := h max rfl
    simp only [roomFor]
    omega

theorem roomFor_le (limit : Option Nat) (others new : Nat) : roomFor limit others new ≤ new := by
  cases limit with
  | none => exact Nat.le_refl _
  | some max => exact Nat.min_le_left _ _

end Adapter.Subscriptions

namespace Scheduler

open Adapter (Subscriptions)
open Adapter.Subscriptions (roomFor)

/-! ## Adapters that answer in time -/

/-- An adapter as it is, how long each call to it takes, and what its clock shows when a binding is
added. -/
structure Host where
  adapter : Subscriptions
  delay : Call → Nat
  clock : Binding → Int64

/-- How they answer. -/
def hosts : Server Host where
  list d h := (Answer.reply d ⟨h.delay .list, .ok h.adapter.list⟩, h)
  change c b d h := match c with
    | .create =>
      let (a, s) := h.adapter.add b (h.clock b)
      (Answer.reply d ⟨h.delay (.change .create b), a.result.mapError fun _ => .resourceExhausted⟩,
        { h with adapter := s })
    | .delete => (Answer.reply d ⟨h.delay (.change .delete b), .ok ()⟩,
        { h with adapter := (h.adapter.delete b).2 })

namespace Host

/-- Every call is answered before its deadline. -/
structure Prompt (deadlines : Deadlines) (h : Host) : Prop where
  list : h.delay .list ≤ deadlines.list
  change : ∀ c b, h.delay (.change c b) ≤ deadlines.change

/-- One adapter at two times. -/
structure Later (h h' : Host) : Prop where
  limit_eq : h'.adapter.limit = h.adapter.limit
  delay_eq : h'.delay = h.delay

theorem Later.prompt {deadlines : Deadlines} {h h' : Host} (hl : Later h h')
    (hp : h.Prompt deadlines) : h'.Prompt deadlines := by
  obtain ⟨hList, hChange⟩ := hp
  rw [← hl.delay_eq] at hList hChange
  exact ⟨hList, hChange⟩

end Host

variable {deadlines : Deadlines}

theorem Answer.settle_of_le {α : Type} (addr op : String) {deadline : Nat} {x : Answer α}
    (h : x.delay ≤ deadline) : (settle addr op deadline (x.reply deadline)).1 = some x.result := by
  rw [settle_reply, outcome, if_pos h]

theorem perform_list {h : Host} (hp : h.Prompt deadlines) (addr : String) :
    (Call.list.perform hosts deadlines addr h).event =
      .listed addr (some (.ok h.adapter.list)) := by
  simp only [Call.perform, hosts]
  rw [Answer.settle_of_le addr "list" hp.list]

theorem perform_delete {h : Host} (hp : h.Prompt deadlines) (addr : String) (b : Binding) :
    ((Call.change .delete b).perform hosts deadlines addr h).verdict = some true ∧
      ((Call.change .delete b).perform hosts deadlines addr h).state =
        { h with adapter := (h.adapter.delete b).2 } := by
  simp only [Call.perform, hosts]
  rw [Answer.settle_of_le addr _ (hp.change .delete b)]
  exact ⟨rfl, trivial⟩

theorem perform_create {h : Host} (hp : h.Prompt deadlines) (addr : String) (b : Binding) :
    ((Call.change .create b).perform hosts deadlines addr h).verdict =
        some (h.adapter.add b (h.clock b)).1.result.isOk ∧
      ((Call.change .create b).perform hosts deadlines addr h).state =
        { h with adapter := (h.adapter.add b (h.clock b)).2 } := by
  simp only [Call.perform, hosts]
  rw [Answer.settle_of_le addr _ (hp.change .create b)]
  refine ⟨?_, trivial⟩
  cases (h.adapter.add b (h.clock b)).1.result <;> rfl

/-- Deletions at one adapter, one after the other: all succeed. -/
theorem solo_deletes {h : Host} (hp : h.Prompt deadlines) (addr : String) (bs : List Binding)
    (n : Nat) :
    let o := solo hosts deadlines addr (bs.map (.change .delete)) h n
    o.succeeded = n + bs.length ∧ Host.Later h o.state ∧
      o.state.adapter.refusedCount = h.adapter.refusedCount ∧
      ∀ x, x ∈ o.state.adapter.list ↔ x ∈ h.adapter.list ∧ x ∉ bs := by
  induction bs generalizing h n with
  | nil => exact ⟨rfl, ⟨rfl, rfl⟩, rfl, fun x => by simp [solo]⟩
  | cons b bs ih =>
    obtain ⟨hVerdict, hState⟩ := perform_delete hp addr b
    obtain ⟨hCount, hEnd⟩ := solo_cons_of_verdict hVerdict (bs.map (.change .delete)) n
    obtain ⟨hLimit, hSame⟩ := Subscriptions.delete_frame b h.adapter
    have hLater : Host.Later h { h with adapter := (h.adapter.delete b).2 } := ⟨hLimit, rfl⟩
    obtain ⟨hSucceeded, hRest, hRefused, hList⟩ := ih (hLater.prompt hp) (n + 1)
    rw [hState, if_pos rfl] at hCount hEnd
    simp only [List.map_cons, hCount, hEnd]
    refine ⟨?_, ⟨hRest.limit_eq.trans hLimit, hRest.delay_eq⟩, hRefused.trans hSame, fun x => ?_⟩
    · rw [hSucceeded, List.length_cons]
      omega
    · refine (hList x).trans ?_
      rw [Subscriptions.mem_list_delete, List.mem_cons]
      tauto

/-- Creations of new bindings at one adapter, one after the other: the first ones succeed, as many
as there is room for, and the others are refused. -/
theorem solo_creates {h : Host} (hp : h.Prompt deadlines) (addr : String) {bs : List Binding}
    (hn : bs.Nodup) (hNew : ∀ b ∈ bs, b ∉ h.adapter.list) (n : Nat) :
    let o := solo hosts deadlines addr (bs.map (.change .create)) h n
    let k := roomFor h.adapter.limit h.adapter.list.length bs.length
    o.succeeded = n + k ∧
      o.state.adapter.refusedCount = h.adapter.refusedCount + (bs.length - k) ∧
      ∀ x, x ∈ o.state.adapter.list ↔ x ∈ h.adapter.list ∨ x ∈ bs.take k := by
  induction bs generalizing h n with
  | nil =>
    have hNone : roomFor h.adapter.limit h.adapter.list.length ([] : List Binding).length = 0 :=
      Nat.le_zero.1 (Subscriptions.roomFor_le ..)
    simp only [hNone]
    exact ⟨rfl, rfl, fun x => by simp [solo]⟩
  | cons b bs ih =>
    obtain ⟨hb, hn⟩ := List.nodup_cons.1 hn
    have hAbsent : b ∉ h.adapter.list := hNew b List.mem_cons_self
    have hOthers : ∀ x ∈ bs, x ∉ h.adapter.list := fun x hx => hNew x (List.mem_cons_of_mem b hx)
    obtain ⟨hVerdict, hState⟩ := perform_create hp addr b
    obtain ⟨hCount, hEnd⟩ := solo_cons_of_verdict hVerdict (bs.map (.change .create)) n
    simp only [List.map_cons, hCount, hEnd, hState]
    rcases Subscriptions.add_cases b (h.clock b) h.adapter with
      ⟨hMem, -⟩ | ⟨-, hFull, hResult, -, hAdd⟩ | ⟨-, hRoom, hResult, -, hAdd⟩
    · exact absurd hMem hAbsent
    · -- A full adapter counts the refusal and stays full.
      rw [hResult, hAdd]
      obtain ⟨hSucceeded, hRefused, hList⟩ := @ih
        { h with adapter := { h.adapter with refusedCount := h.adapter.refusedCount + 1 } }
        ⟨hp.list, hp.change⟩ hn hOthers n
      have hZero : ∀ m, roomFor h.adapter.limit h.adapter.list.length m = 0 :=
        Subscriptions.roomFor_of_full hFull
      refine ⟨?_, ?_, fun x => (hList x).trans ?_⟩
      · exact hSucceeded.trans (by rw [hZero]; exact congrArg _ (hZero _))
      · refine hRefused.trans ?_
        show h.adapter.refusedCount + 1 + (bs.length - roomFor _ h.adapter.list.length _) = _
        rw [hZero, hZero, List.length_cons]
        omega
      · show x ∈ h.adapter.list ∨ x ∈ bs.take (roomFor _ h.adapter.list.length _) ↔ _
        rw [hZero, hZero, List.take_zero, List.take_zero]
    · rw [hResult, hAdd]
      have hFresh : ∀ x ∈ bs, x ∉ (h.adapter.start b).list := by
        intro x hx hMem
        rcases Subscriptions.mem_list_start.1 hMem with rfl | hOld
        · exact hb hx
        · exact hOthers x hx hOld
      obtain ⟨hSucceeded, hRefused, hList⟩ := @ih { h with adapter := h.adapter.start b }
        ⟨hp.list, hp.change⟩ hn hFresh (n + 1)
      rw [List.length_cons, Subscriptions.roomFor_start hRoom hAbsent bs.length]
      refine ⟨hSucceeded.trans (Nat.add_right_comm ..), hRefused.trans ?_,
        fun x => (hList x).trans ?_⟩
      · rw [Nat.add_sub_add_right]
        rfl
      · rw [Subscriptions.mem_list_start, List.take_succ_cons, List.mem_cons]
        tauto

/-! ## What a term finds -/

/-- What the adapters hold before the term. -/
def standing (fleet : Fleet Host) : Holdings :=
  SortedMap.ofList (fleet.map fun e => (e.1, SortedSet.ofList e.2.adapter.list))

theorem answers_hosts {fleet : Fleet Host} (hp : ∀ e ∈ fleet, e.2.Prompt deadlines) :
    answers hosts deadlines fleet =
      fleet.map fun e => (e.1, SortedSet.ofList e.2.adapter.list) := by
  have hReported : fleet.filterMap (reported hosts deadlines) =
      fleet.map fun e => (e.1, e.2.adapter.list) := by
    rw [← List.filterMap_eq_map]
    refine List.filterMap_congr fun e he => ?_
    rw [reported, perform_list (hp e he)]
    rfl
  rw [answers, hReported, List.map_map]
  rfl

section Fleet

variable {fleet : Fleet Host} (hn : (fleet.map Prod.fst).Nodup)

theorem nodup_addrs_standing {fleet : Fleet Host} (hn : (fleet.map Prod.fst).Nodup) :
    ((fleet.map fun e => (e.1, SortedSet.ofList e.2.adapter.list)).map Prod.fst).Nodup := by
  rwa [List.map_map]

include hn in
theorem holds_standing {a : String} {h : Host} (he : (a, h) ∈ fleet) (b : Binding) :
    (standing fleet).holds a b = true ↔ b ∈ h.adapter.list := by
  have hget : (standing fleet).get? a = some (SortedSet.ofList h.adapter.list) := by
    rw [standing, SortedMap.get?_ofList_eq_some_iff (nodup_addrs_standing hn)]
    exact List.mem_map.2 ⟨(a, h), he, rfl⟩
  rw [Holdings.holds_iff, hget]
  simp [SortedSet.mem_ofList]

/-! ## What a term does at one adapter -/

/-- How many of the bindings planned for an adapter there is room for, beside those that stay. -/
def Host.room (desired planned : List Binding) (h : Host) : Nat :=
  roomFor h.adapter.limit (h.adapter.kept desired).length planned.length

/-- An adapter before and after a term: it holds what it held and is desired, and the first
bindings planned for it as far as there is room; the others it refuses. -/
structure Host.Filled (desired planned : List Binding) (h h' : Host) : Prop where
  list_iff : ∀ b, b ∈ h'.adapter.list ↔
    b ∈ h.adapter.kept desired ∨ b ∈ planned.take (h.room desired planned)
  refusedCount_eq : h'.adapter.refusedCount =
    h.adapter.refusedCount + (planned.length - h.room desired planned)

variable {desired : List Binding} {addrs : List String} {a : String} {h : Host}
  (he : (a, h) ∈ fleet) (hp : h.Prompt deadlines)

include hn he in
theorem mem_ownOf_deletes (b : Binding) :
    b ∈ ownOf (Placement.plan desired (standing fleet) addrs).deletes a ↔
      b ∈ h.adapter.list ∧ b ∉ desired := by
  rw [mem_ownOf, Placement.mem_deletes_plan, holds_standing hn he]

include hn he in
/-- What is deleted at an adapter is what it holds and is not desired. -/
theorem length_ownOf_deletes :
    (ownOf (Placement.plan desired (standing fleet) addrs).deletes a).length =
      (h.adapter.undesired desired).length := by
  refine List.Perm.length_eq ((List.perm_ext_iff_of_nodup
    (nodup_ownOf (Placement.nodup_deletes_plan ..) a) (h.adapter.nodup_list.filter _)).2 ?_)
  intro b
  rw [mem_ownOf_deletes hn he, List.mem_filter, decide_eq_true_eq]

include hn he in
/-- What is created at an adapter is new there. -/
theorem not_mem_list_of_mem_creates {b : Binding}
    (hb : b ∈ ownOf (Placement.plan desired (standing fleet) addrs).creates a) :
    b ∉ h.adapter.list := by
  have hTarget := (Placement.mem_creates_plan.1 (mem_ownOf.1 hb)).2
  have hVacant := Placement.mem_vacant.1 (Placement.mem_vacant_of_mem_targets hTarget)
  rw [holds_standing hn he] at hVacant
  exact hVacant.2

variable (desired addrs) in
include hn he hp in
/-- The deletions of a plan leave the desired bindings. -/
theorem ownChanges_deletes :
    let o := ownChanges hosts deadlines .delete
      (Placement.plan desired (standing fleet) addrs).deletes (a, h)
    o.succeeded = (h.adapter.undesired desired).length ∧ Host.Later h o.state ∧
      o.state.adapter.refusedCount = h.adapter.refusedCount ∧
      o.state.adapter.list.Perm (h.adapter.kept desired) := by
  intro o
  have hOwn : o = _ := ownChanges_eq .delete _ (a, h)
  obtain ⟨hSucceeded, hLater, hRefused, hList⟩ := solo_deletes hp a
    (ownOf (Placement.plan desired (standing fleet) addrs).deletes a) 0
  rw [← hOwn] at hSucceeded hLater hRefused hList
  refine ⟨?_, hLater, hRefused, ?_⟩
  · rw [hSucceeded, Nat.zero_add, length_ownOf_deletes hn he]
  · refine (List.perm_ext_iff_of_nodup (Subscriptions.nodup_list _)
      (h.adapter.nodup_list.filter _)).2 fun b => ?_
    rw [hList, mem_ownOf_deletes hn he, List.mem_filter, decide_eq_true_eq]
    tauto

include hn he hp in
/-- The creations of a plan fill the room that its deletions left. -/
theorem ownChanges_creates :
    let plan := Placement.plan desired (standing fleet) addrs
    let o := ownChanges hosts deadlines .create plan.creates
      (a, (ownChanges hosts deadlines .delete plan.deletes (a, h)).state)
    o.succeeded = h.room desired (ownOf plan.creates a) ∧
      h.Filled desired (ownOf plan.creates a) o.state := by
  intro plan
  obtain ⟨-, hLater, hSame, hPerm⟩ := ownChanges_deletes hn desired addrs he hp
  have hNew : ∀ b ∈ ownOf plan.creates a,
      b ∉ (ownChanges hosts deadlines .delete plan.deletes (a, h)).state.adapter.list := by
    intro b hb hMem
    have hKept := hPerm.mem_iff.1 hMem
    exact not_mem_list_of_mem_creates hn he hb (List.mem_of_mem_filter hKept)
  have hCreates := solo_creates (hLater.prompt hp) a
    (nodup_ownOf (Placement.nodup_creates_plan ..) a) hNew 0
  rw [hLater.limit_eq, hPerm.length_eq, hSame] at hCreates
  obtain ⟨hSucceeded, hRefused, hList⟩ := hCreates
  rw [Nat.zero_add] at hSucceeded
  rw [ownChanges_eq]
  refine ⟨hSucceeded, fun b => (hList b).trans ?_, hRefused⟩
  rw [hPerm.mem_iff]
  rfl

end Fleet

/-! ## Whole terms -/

/-- An adapter of a term under way: it is in order, and its limit is that of the adapter with its
address before the term. -/
def Bounded (fleet : Fleet Host) (a : String) (h' : Host) : Prop :=
  h'.adapter.Tidy ∧ ∃ h, (a, h) ∈ fleet ∧ h'.adapter.limit = h.adapter.limit

/-- No call breaks the limit of an adapter. -/
theorem bounded_run {fleet : Fleet Host} (ht : ∀ e ∈ fleet, e.2.adapter.Tidy)
    (desired : List Binding) (schedule : List Turn) :
    ∀ w ∈ ((Session.start fleet).run hosts deadlines desired schedule).workers,
      Bounded fleet w.addr w.state := by
  refine Session.state_run (fun _ _ _ h => h) ?_ ?_ schedule
  · rintro a c b d h ⟨hTidy, h₀, hMem, hLimit⟩
    cases c with
    | create =>
      exact ⟨hTidy.add b (h.clock b), h₀, hMem, (Subscriptions.limit_add ..).trans hLimit⟩
    | delete =>
      exact ⟨hTidy.delete b, h₀, hMem, (Subscriptions.delete_frame b _).1.trans hLimit⟩
  · intro w hw
    obtain ⟨⟨a, h⟩, he, rfl⟩ := List.mem_map.1 hw
    exact ⟨ht _ he, h, he, rfl⟩

/-- What has come of a term whose adapters all answer in time. -/
structure Accommodated (deadlines : Deadlines) (f : Fetched) (st : State Host)
    (s : Session Host) : Prop where
  /-- The plan is made from what the adapters hold. -/
  planned : s.plan = Placement.plan f.bindings (standing st.fleet) (st.fleet.map Prod.fst)
  /-- Each adapter is filled up in the order of the plan. -/
  filled : ∀ a h, (a, h) ∈ st.fleet →
    ∃ h', (a, h') ∈ s.fleet ∧ h.Filled f.bindings (ownOf s.plan.creates a) h'
  /-- An adapter refuses nothing if what it is to hold at the end fits, even one that was full. -/
  fits : ∀ a h, (a, h) ∈ st.fleet →
    (∀ max, h.adapter.limit = some max →
      (h.adapter.kept f.bindings).length + (ownOf s.plan.creates a).length ≤ max) →
    ∃ h', (a, h') ∈ s.fleet ∧ h'.adapter.refusedCount = h.adapter.refusedCount ∧
      ∀ b, b ∈ h'.adapter.list ↔ b ∈ h.adapter.kept f.bindings ∨ (a, b) ∈ s.plan.creates
  /-- The report counts what was undesired, and what there was room for. -/
  report : (term hosts deadlines (.ok f) st).report = some ⟨f.bindings.length, st.fleet.length,
    (st.fleet.map fun e => e.2.room f.bindings (ownOf s.plan.creates e.1)).sum,
    (st.fleet.map fun e => (e.2.adapter.undesired f.bindings).length).sum⟩
  /-- The adapters are those of the term in a row. -/
  fleet : s.fleet = (term hosts deadlines (.ok f) st).state.fleet

theorem Host.Filled.of_fits {desired planned : List Binding} {h h' : Host}
    (hf : h.Filled desired planned h') (hFits : ∀ max, h.adapter.limit = some max →
      (h.adapter.kept desired).length + planned.length ≤ max) :
    h'.adapter.refusedCount = h.adapter.refusedCount ∧
      ∀ b, b ∈ h'.adapter.list ↔ b ∈ h.adapter.kept desired ∨ b ∈ planned := by
  have hRoom : h.room desired planned = planned.length := Subscriptions.roomFor_eq_self hFits
  obtain ⟨hList, hRefused⟩ := hf
  rw [hRoom] at hList hRefused
  rw [List.take_length] at hList
  exact ⟨hRefused.trans (by omega), hList⟩

theorem accommodated_of_course {f : Fetched} {st : State Host}
    (hn : (st.fleet.map Prod.fst).Nodup) (hp : ∀ e ∈ st.fleet, e.2.Prompt deadlines)
    {s : Session Host} (h : Course hosts deadlines f.bindings st.fleet s)
    (he : s.stage = .ended) : Accommodated deadlines f st s := by
  obtain ⟨hRowFleet, hRowReport⟩ := ended_eq_carryOut hn h he
  cases h with
  | listing => cases he
  | deleting => cases he
  | creating => cases he
  | @ended plan ws t t' t'' lists planned deletes underway done =>
    obtain ⟨hws, creates⟩ := underway.over done
    have hKnown : known t = standing st.fleet := by
      rw [known_of_over hn lists, answers_hosts hp]
      rfl
    have hPlan : plan = Placement.plan f.bindings (standing st.fleet) (st.fleet.map Prod.fst) := by
      rw [planned, hKnown]
    have hSize : (known (t ++ t' ++ t'')).size = st.fleet.length := by
      rw [known_trace hn deletes creates, hKnown, standing,
        SortedMap.size_ofList (nodup_addrs_standing hn), List.length_map]
    have hListed : fleetOf ((listers st.fleet).map (·.conclude hosts deadlines)) = st.fleet :=
      fleetOf_conclude_listers fun _ _ => rfl
    have hFleet : fleetOf ws = st.fleet.map fun e =>
        (e.1, (ownChanges hosts deadlines .create plan.creates
          (e.1, (ownChanges hosts deadlines .delete plan.deletes e).state)).state) := by
      rw [hws, creators, fleetOf_assign, deleters, fleetOf_assign, hListed, List.map_map]
      rfl
    have hDeleted : successes hosts deadlines (deleters hosts deadlines st.fleet plan) =
        (st.fleet.map fun e => (e.2.adapter.undesired f.bindings).length).sum := by
      rw [deleters, successes_assign, hListed, hPlan]
      exact congrArg List.sum (List.map_congr_left fun e hm =>
        (ownChanges_deletes hn _ _ hm (hp e hm)).1)
    have hCreated : successes hosts deadlines (creators hosts deadlines st.fleet plan) =
        (st.fleet.map fun e => e.2.room f.bindings (ownOf plan.creates e.1)).sum := by
      rw [creators, successes_assign, deleters, fleetOf_assign, hListed, List.map_map, hPlan]
      exact congrArg List.sum (List.map_congr_left fun e hm =>
        (ownChanges_creates hn hm (hp e hm)).1)
    have hFilled : ∀ a h, (a, h) ∈ st.fleet →
        ∃ h', (a, h') ∈ fleetOf ws ∧ h.Filled f.bindings (ownOf plan.creates a) h' := by
      intro a h hm
      rw [hFleet]
      refine ⟨_, List.mem_map.2 ⟨(a, h), hm, rfl⟩, ?_⟩
      rw [hPlan]
      exact (ownChanges_creates hn hm (hp _ hm)).2
    refine ⟨hPlan, hFilled, fun a h hm hFits => ?_, ?_, hRowFleet⟩
    · obtain ⟨h', hm', hf⟩ := hFilled a h hm
      obtain ⟨hRefused, hList⟩ := hf.of_fits hFits
      exact ⟨h', hm', hRefused, fun b => (hList b).trans (by rw [mem_ownOf])⟩
    · refine hRowReport.trans (congrArg some ?_)
      rw [Session.report, hSize, hDeleted, hCreated]

/-- **Removals make room.** If the adapters of a term have different addresses and all answer in
time, then under every schedule the term can end; at no moment does an adapter hold more than it
may; and at the end each adapter holds what it held and is desired, and the first bindings planned
for it as far as there is room beside these. -/
theorem removals_make_room (deadlines : Deadlines) (f : Fetched) (st : State Host)
    (hn : (st.fleet.map Prod.fst).Nodup) (hp : ∀ e ∈ st.fleet, e.2.Prompt deadlines)
    (ht : ∀ e ∈ st.fleet, e.2.adapter.Tidy) (schedule : List Turn) :
    let after := (Session.start st.fleet).run hosts deadlines f.bindings
    (∃ rest, (after (schedule ++ rest)).stage = .ended) ∧
    ((after schedule).fleet.map Prod.fst = st.fleet.map Prod.fst ∧
      ∀ a h', (a, h') ∈ (after schedule).fleet → ∃ h, (a, h) ∈ st.fleet ∧
        h'.adapter.limit = h.adapter.limit ∧
        ∀ max, h.adapter.limit = some max → h'.adapter.list.length ≤ max) ∧
    ((after schedule).stage = .ended → Accommodated deadlines f st (after schedule)) := by
  intro after
  refine ⟨?_, ⟨?_, ?_⟩, fun he => ?_⟩
  · obtain ⟨rest, hrest⟩ := Session.exists_ended hosts deadlines f.bindings (after schedule)
    refine ⟨rest, ?_⟩
    have happend : after (schedule ++ rest) = (after schedule).run _ _ _ rest :=
      Session.run_append ..
    rw [happend]
    exact hrest
  · rw [Session.fleet, addrs_fleetOf, Session.addrs_run]
    exact addrs_listers st.fleet
  · intro a h' hm
    obtain ⟨w, hw, hwe⟩ := List.mem_map.1 hm
    obtain ⟨rfl, rfl⟩ := Prod.mk.inj hwe
    obtain ⟨hTidy, h, he, hLimit⟩ := bounded_run ht f.bindings schedule w hw
    exact ⟨h, he, hLimit, fun max hmax => hTidy.length_le max (hLimit.trans hmax)⟩
  · exact accommodated_of_course hn hp (Session.course_run hn Session.course_start schedule) he

/-- An adapter for one binding is full before the term. It gives up the binding that is not desired,
takes the first of two that are, and refuses the second; an adapter for two takes both. -/
theorem room_after_removal :
    let old : Binding := ⟨"app", "host", "old"⟩
    let b : Binding := ⟨"app", "host", "new"⟩
    let c : Binding := ⟨"app", "host", "newer"⟩
    let m : Host :=
      ⟨(Subscriptions.add old 0 { limit := some 1, index := "0" }).2, fun _ => 5, fun _ => 0⟩
    let n : Host := ⟨{ limit := some 2, index := "1" }, fun _ => 900, fun _ => 0⟩
    let f : Fetched := ⟨[c, b], 0, 2⟩
    let st : State Host := ⟨[("m", m), ("n", n)], {}⟩
    let after := (term hosts {} (.ok f) st).state.fleet
    m.adapter.Full ∧ (term hosts {} (.ok f) st).report = some ⟨2, 2, 3, 1⟩ ∧
      (∃ h, ("m", h) ∈ after ∧ h.adapter.refusedCount = 1 ∧ ∀ x, x ∈ h.adapter.list ↔ x = b) ∧
      ∃ h, ("n", h) ∈ after ∧ h.adapter.refusedCount = 0 ∧ c ∈ h.adapter.list := by
  intro old b c m n f st after
  have hFull : m.adapter.Full := ⟨1, rfl, by decide +kernel⟩
  have hNames : (st.fleet.map Prod.fst).Nodup := by decide
  have hPrompt : ∀ e ∈ st.fleet, e.2.Prompt {} := by
    intro e he
    simp only [st, List.mem_cons, List.not_mem_nil, or_false] at he
    rcases he with rfl | rfl
    · exact ⟨by decide, fun _ _ => show 5 ≤ 1000 by decide⟩
    · exact ⟨by decide, fun _ _ => show 900 ≤ 1000 by decide⟩
  have hTidy : ∀ e ∈ st.fleet, e.2.adapter.Tidy := by
    intro e he
    simp only [st, List.mem_cons, List.not_mem_nil, or_false] at he
    rcases he with rfl | rfl
    · exact (Subscriptions.tidy_new (some 1) "0").add old 0
    · exact Subscriptions.tidy_new (some 2) "1"
  -- Some schedule leads the term to its end.
  obtain ⟨rest, hEnded⟩ := (removals_make_room {} f st hNames hPrompt hTidy []).1
  have hDone : Accommodated {} f st _ :=
    (removals_make_room {} f st hNames hPrompt hTidy ([] ++ rest)).2.2 hEnded
  have hPlan : Placement.plan f.bindings (standing st.fleet) (st.fleet.map Prod.fst) =
      ⟨[("m", b), ("n", b), ("n", c), ("m", c)], [("m", old)]⟩ := by decide +kernel
  refine ⟨hFull, ?_, ?_, ?_⟩
  · rw [hDone.report, hDone.planned, hPlan]
    decide +kernel
  · have hRoom : m.room f.bindings [b, c] = 1 := by decide +kernel
    have hKept : m.adapter.kept f.bindings = [] := by decide +kernel
    obtain ⟨h, hm, hf⟩ := hDone.filled "m" m List.mem_cons_self
    rw [hDone.planned, hPlan] at hf
    rw [hDone.fleet] at hm
    refine ⟨h, hm, ?_, fun x => (hf.list_iff x).trans ?_⟩
    · rw [hf.refusedCount_eq]
      exact congrArg _ (congrArg (2 - ·) hRoom)
    · show x ∈ m.adapter.kept f.bindings ∨ x ∈ [b, c].take (m.room f.bindings [b, c]) ↔ x = b
      rw [hRoom, hKept]
      simp
  · have hCreate : ("n", c) ∈ Placement.Plan.creates
        (Placement.plan f.bindings (standing st.fleet) (st.fleet.map Prod.fst)) := by
      rw [hPlan]
      decide
    obtain ⟨h, hm, hRefused, hList⟩ := hDone.fits "n" n (List.mem_cons_of_mem _ (by simp)) (by
      rw [hDone.planned, hPlan]
      rintro max ⟨⟩
      decide +kernel)
    rw [hDone.fleet] at hm
    refine ⟨h, hm, hRefused, (hList c).2 (.inr ?_)⟩
    rw [hDone.planned]
    exact hCreate

end Scheduler

end LogEgress
