import LogEgress.Adapter.Subscriptions
import LogEgress.Proofs.Sorted

set_option autoImplicit false

/-! # The subscriptions of an adapter over its whole life

An adapter is told to add bindings, to delete them and to stop, in any order and any number of
times. At every moment just one subscription lives for each binding that it holds, and none for any
other: the invariant `Tidy` ties the places of the subscriptions that were not cancelled to the
places noted for the bindings held. What an operation can do is said once, in `add_cases` and
`delete_cases`. The main theorem is `every_history_orderly`.
-/

namespace LogEgress.Adapter

namespace Subscriptions

/-! ## What the operations do -/

/-- As many bindings are held as may be. -/
def Full (s : Subscriptions) : Prop := ∃ max, s.limit = some max ∧ max ≤ s.list.length

theorem size_held (s : Subscriptions) : s.held.size = s.list.length := by
  rw [list, SortedMap.keys, List.length_map, SortedMap.size]

theorem isFull_iff {s : Subscriptions} : s.isFull = true ↔ s.Full := by
  unfold isFull Full
  rw [size_held]
  cases s.limit with
  | none => simp
  | some max => simp

/-- An addition finds the binding held, or is refused for want of room, or starts a subscription. -/
theorem add_cases (b : Binding) (now : Int64) (s : Subscriptions) :
    (b ∈ s.list ∧ s.add b now = (⟨.ok (), none, []⟩, s)) ∨
      (b ∉ s.list ∧ s.Full ∧ (s.add b now).1.result = .error .full ∧
        (s.add b now).1.rejection = some (s.rejectionMessage b now) ∧
        (s.add b now).2 = { s with refusedCount := s.refusedCount + 1 }) ∨
      (b ∉ s.list ∧ ¬ s.Full ∧ (s.add b now).1.result = .ok () ∧
        (s.add b now).1.rejection = none ∧ (s.add b now).2 = s.start b) := by
  have hheld : s.held.contains b = true ↔ b ∈ s.list := SortedMap.contains_iff
  unfold add
  by_cases hb : b ∈ s.list
  · rw [if_pos (hheld.2 hb)]
    exact .inl ⟨hb, rfl⟩
  · rw [if_neg fun h => hb (hheld.1 h)]
    by_cases hfull : s.Full
    · rw [if_pos (isFull_iff.2 hfull)]
      exact .inr (.inl ⟨hb, hfull, rfl, rfl, rfl⟩)
    · rw [if_neg fun h => hfull (isFull_iff.1 h)]
      exact .inr (.inr ⟨hb, hfull, rfl, rfl, rfl⟩)

/-- The adapter after the subscription at a place was told to end and its binding forgotten. -/
def drop (b : Binding) (n : Nat) (s : Subscriptions) : Subscriptions :=
  { s with
    held := s.held.erase b
    started := cancel s.started n
    reportedCount := (s.held.erase b).size }

/-- A deletion finds the binding missing, or drops it. -/
theorem delete_cases (b : Binding) (s : Subscriptions) :
    (b ∉ s.list ∧ s.delete b = ([], s)) ∨
      ∃ n, s.held.get? b = some n ∧ (s.delete b).2 = s.drop b n := by
  unfold delete
  cases h : s.held.get? b with
  | none => exact .inl ⟨SortedMap.get?_eq_none_iff.1 h, rfl⟩
  | some n => exact .inr ⟨n, rfl, rfl⟩

theorem limit_add (b : Binding) (now : Int64) (s : Subscriptions) :
    (s.add b now).2.limit = s.limit := by
  rcases add_cases b now s with ⟨-, h⟩ | ⟨-, -, -, -, h⟩ | ⟨-, -, -, -, h⟩
  · rw [h]
  · rw [h]
  · rw [h, start]

/-- A deletion changes neither the limit nor the number of refusals. -/
theorem delete_frame (b : Binding) (s : Subscriptions) :
    (s.delete b).2.limit = s.limit ∧ (s.delete b).2.refusedCount = s.refusedCount := by
  rcases delete_cases b s with ⟨-, h⟩ | ⟨n, -, h⟩
  · rw [h]
    exact ⟨rfl, rfl⟩
  · rw [h]
    exact ⟨rfl, rfl⟩

/-! ## Which bindings are held -/

theorem mem_list_iff {s : Subscriptions} {b : Binding} : b ∈ s.list ↔ ∃ n, s.held.get? b = some n := by
  rw [list, SortedMap.mem_keys_iff]
  simp only [SortedMap.get?_eq_some_iff]

theorem mem_list_start {s : Subscriptions} {b x : Binding} :
    x ∈ (s.start b).list ↔ x = b ∨ x ∈ s.list :=
  SortedMap.mem_keys_insert

theorem get?_held_drop {s : Subscriptions} {b x : Binding} {n : Nat} :
    (s.drop b n).held.get? x = if x = b then none else s.held.get? x :=
  SortedMap.get?_erase b x s.held

theorem mem_list_drop {s : Subscriptions} {b x : Binding} {n : Nat} :
    x ∈ (s.drop b n).list ↔ x ≠ b ∧ x ∈ s.list := by
  simp only [mem_list_iff, get?_held_drop]
  by_cases h : x = b
  · simp [h]
  · simp [h]

theorem nodup_list (s : Subscriptions) : s.list.Nodup := s.held.nodup_keys

/-- A new binding makes the list longer by one. -/
theorem length_list_start {s : Subscriptions} {b : Binding} (h : b ∉ s.list) :
    (s.start b).list.length = s.list.length + 1 := by
  have hperm : (s.start b).list.Perm (b :: s.list) :=
    (List.perm_ext_iff_of_nodup (nodup_list _) (List.nodup_cons.2 ⟨h, nodup_list s⟩)).2
      fun x => mem_list_start.trans List.mem_cons.symm
  exact hperm.length_eq

theorem length_list_drop_le (s : Subscriptions) (b : Binding) (n : Nat) :
    (s.drop b n).list.length ≤ s.list.length :=
  ((List.subperm_of_subset (nodup_list _)) fun _ hx => (mem_list_drop.1 hx).2).length_le

/-! ## Cancelled subscriptions -/

theorem getElem?_cancel (l : List Subscription) (n i : Nat) :
    (cancel l n)[i]? = l[i]?.map fun t => if i = n then { t with cancelled := true } else t := by
  rw [cancel, List.getElem?_modify]
  by_cases h : n = i
  · simp [h]
  · simp [h, Ne.symm h]

theorem getElem?_foldl_cancel (ns : List Nat) (l : List Subscription) (i : Nat) :
    (ns.foldl cancel l)[i]? =
      l[i]?.map fun t => if i ∈ ns then { t with cancelled := true } else t := by
  induction ns generalizing l with
  | nil => simp
  | cons n ns ih =>
    rw [List.foldl_cons, ih, getElem?_cancel, Option.map_map]
    refine congrArg (Option.map · l[i]?) (funext fun t => ?_)
    by_cases hn : i = n
    · by_cases hi : i ∈ ns
      · simp [hn]
      · simp [hn]
    · simp [hn]

/-! ## The invariant -/

/-- What holds of an adapter at every moment: it keeps its limit, reports how many bindings it
holds, and notes for each the place of the one subscription that lives for it. -/
structure Tidy (s : Subscriptions) : Prop where
  length_le : ∀ max, s.limit = some max → s.list.length ≤ max
  reportedCount_eq : s.reportedCount = s.list.length
  live_iff : ∀ n b, s.started[n]? = some ⟨b, false⟩ ↔ s.held.get? b = some n

theorem tidy_new (limit : Option Nat) (index : String) :
    Tidy { limit := limit, index := index } where
  length_le _ _ := Nat.zero_le _
  reportedCount_eq := rfl
  live_iff n b := by simp

/-- A subscription that is noted lives, and is the only one to be noted at its place. -/
theorem Tidy.eq_of_place {s : Subscriptions} (h : Tidy s) {b x : Binding} {n : Nat}
    (hb : s.held.get? b = some n) (hx : s.held.get? x = some n) : b = x := by
  have hlive := (h.live_iff n b).2 hb
  rw [(h.live_iff n x).2 hx] at hlive
  cases hlive
  rfl

theorem Tidy.start {s : Subscriptions} (h : Tidy s) {b : Binding} (hroom : ¬ s.Full)
    (hb : b ∉ s.list) : Tidy (s.start b) := by
  constructor
  · intro max hmax
    rw [length_list_start hb]
    by_contra hlt
    exact hroom ⟨max, hmax, by omega⟩
  · exact size_held (s.start b)
  · intro n x
    have hnone : s.held.get? b = none := SortedMap.get?_eq_none_iff.2 hb
    have hplace : ∀ m, s.held.get? x = some m → m < s.started.length := by
      intro m hm
      exact (List.getElem?_eq_some_iff.1 ((h.live_iff m x).2 hm)).1
    rw [Subscriptions.start, SortedMap.get?_insert]
    by_cases hx : x = b
    · subst hx
      rw [if_pos rfl, Option.some.injEq]
      constructor
      · intro hlive
        by_contra hn
        rcases Nat.lt_or_gt_of_ne hn with hgt | hlt
        · rw [List.getElem?_eq_none (by simp; omega)] at hlive
          cases hlive
        · rw [List.getElem?_append_left hlt, h.live_iff, hnone] at hlive
          cases hlive
      · rintro rfl
        exact List.getElem?_concat_length
    · rw [if_neg hx, ← h.live_iff]
      rcases Nat.lt_trichotomy n s.started.length with hlt | rfl | hgt
      · rw [List.getElem?_append_left hlt]
      · rw [List.getElem?_concat_length, List.getElem?_eq_none (Nat.le_refl _)]
        simp [Ne.symm hx]
      · rw [List.getElem?_eq_none (by simp; omega), List.getElem?_eq_none (by omega)]

theorem Tidy.drop {s : Subscriptions} (h : Tidy s) {b : Binding} {n : Nat}
    (hb : s.held.get? b = some n) : Tidy (s.drop b n) := by
  constructor
  · intro max hmax
    exact Nat.le_trans (length_list_drop_le s b n) (h.length_le max hmax)
  · exact size_held (s.drop b n)
  · intro i x
    rw [get?_held_drop, Subscriptions.drop, getElem?_cancel]
    by_cases hi : i = n
    · -- The subscription at this place was told to end, and was noted for no other binding.
      subst hi
      have hx : ∀ hne : x ≠ b, s.held.get? x ≠ some i := fun hne h' => hne (h.eq_of_place h' hb)
      constructor
      · intro hlive
        obtain ⟨t, -, ht⟩ := Option.map_eq_some_iff.1 hlive
        simp at ht
      · intro hnoted
        split at hnoted
        · cases hnoted
        · next hne => exact absurd hnoted (hx hne)
    · simp only [if_neg hi, Option.map_id']
      rw [h.live_iff]
      by_cases hx : x = b
      · subst hx
        rw [if_pos rfl, hb]
        simp [Ne.symm hi]
      · rw [if_neg hx]

theorem Tidy.stopAll {s : Subscriptions} (h : Tidy s) : Tidy s.stopAll := by
  refine ⟨fun _ _ => Nat.zero_le _, rfl, fun n b => ?_⟩
  refine iff_of_false ?_ (by simp [Subscriptions.stopAll])
  rw [Subscriptions.stopAll, getElem?_foldl_cancel]
  intro hlive
  obtain ⟨t, ht, hcancelled⟩ := Option.map_eq_some_iff.1 hlive
  by_cases hn : n ∈ s.held.values
  · simp [hn] at hcancelled
  · rw [if_neg hn] at hcancelled
    subst hcancelled
    -- What lives is noted, so its place is among those that were told to end.
    have hentry := SortedMap.get?_eq_some_iff.1 ((h.live_iff n b).1 ht)
    exact hn (List.mem_map.2 ⟨(b, n), hentry, rfl⟩)

/-- The refusal of a binding changes a count only. -/
theorem Tidy.refuse {s : Subscriptions} (h : Tidy s) (n : Nat) :
    Tidy { s with refusedCount := n } :=
  ⟨h.length_le, h.reportedCount_eq, h.live_iff⟩

theorem Tidy.add {s : Subscriptions} (h : Tidy s) (b : Binding) (now : Int64) :
    Tidy (s.add b now).2 := by
  rcases add_cases b now s with ⟨-, hadd⟩ | ⟨-, -, -, -, hadd⟩ | ⟨hb, hroom, -, -, hadd⟩
  · rw [hadd]
    exact h
  · rw [hadd]
    exact h.refuse _
  · rw [hadd]
    exact h.start hroom hb

theorem Tidy.delete {s : Subscriptions} (h : Tidy s) (b : Binding) : Tidy (s.delete b).2 := by
  rcases delete_cases b s with ⟨-, hdel⟩ | ⟨n, hn, hdel⟩
  · rw [hdel]
    exact h
  · rw [hdel]
    exact h.drop hn

/-- An element that stands at one place only is counted once. -/
theorem count_eq_one_of_unique {α : Type} [DecidableEq α] {l : List α} {t : α} {n : Nat}
    (hn : l[n]? = some t) (h : ∀ m, l[m]? = some t → m = n) : l.count t = 1 := by
  induction l generalizing n with
  | nil => cases hn
  | cons u l ih =>
    cases n with
    | zero =>
      obtain rfl : u = t := by simpa using hn
      have hrest : u ∉ l := by
        intro hmem
        obtain ⟨m, hm⟩ := List.mem_iff_getElem?.1 hmem
        have := h (m + 1) hm
        omega
      rw [List.count_cons_self, List.count_eq_zero.2 hrest]
    | succ n =>
      have hne : u ≠ t := fun hut => by
        have := h 0 (by simp [hut])
        omega
      rw [List.count_cons_of_ne hne]
      exact ih hn fun m hm => Nat.succ_inj.1 (h (m + 1) hm)

/-- One subscription lives for each binding held, and none for another. -/
theorem Tidy.count_live {s : Subscriptions} (h : Tidy s) (b : Binding) :
    s.started.count ⟨b, false⟩ = if b ∈ s.list then 1 else 0 := by
  by_cases hb : b ∈ s.list
  · obtain ⟨n, hn⟩ := mem_list_iff.1 hb
    rw [if_pos hb]
    refine count_eq_one_of_unique ((h.live_iff n b).2 hn) fun m hm => ?_
    have hnoted := (h.live_iff m b).1 hm
    rw [hn] at hnoted
    exact (Option.some.inj hnoted).symm
  · rw [if_neg hb, List.count_eq_zero]
    intro hmem
    obtain ⟨n, hn⟩ := List.mem_iff_getElem?.1 hmem
    exact hb (mem_list_iff.2 ⟨n, (h.live_iff n b).1 hn⟩)

end Subscriptions

/-! ## Histories -/

/-- What an adapter may be told to do. -/
inductive Operation where
  | add (binding : Binding) (now : Int64)
  | delete (binding : Binding)
  | stopAll

/-- What comes of an operation: its result, the message that the log client is given, and what is
reported. -/
structure Outcome where
  result : Except Refusal Unit
  message : Option Envelope
  notices : List Notice

namespace Operation

/-- Does what the adapter is told. -/
def perform (client : AppLog.Client) (s : Subscriptions) : Operation → Outcome × Subscriptions
  | .add b now =>
    let (a, s) := s.add b now
    (⟨a.result, a.rejection, a.notices ++ a.notify client⟩, s)
  | .delete b =>
    let (notices, s) := s.delete b
    (⟨.ok (), none, notices⟩, s)
  | .stopAll => (⟨.ok (), none, []⟩, s.stopAll)

/-- Does one thing after the other. -/
def performAll (client : AppLog.Client) :
    Subscriptions → List Operation → List Outcome × Subscriptions
  | s, [] => ([], s)
  | s, op :: ops =>
    let (o, s) := op.perform client s
    let (os, s) := performAll client s ops
    (o :: os, s)

end Operation

/-- Whether the operation was an addition that was refused. -/
def Outcome.refused (o : Outcome) : Bool := o.result matches .error .full

namespace Subscriptions

theorem Tidy.perform {s : Subscriptions} (h : Tidy s) (client : AppLog.Client) (op : Operation) :
    Tidy (op.perform client s).2 := by
  cases op with
  | add b now => exact h.add b now
  | delete b => exact h.delete b
  | stopAll => exact h.stopAll

theorem Tidy.performAll {s : Subscriptions} (h : Tidy s) (client : AppLog.Client)
    (ops : List Operation) : Tidy (Operation.performAll client s ops).2 := by
  induction ops generalizing s with
  | nil => exact h
  | cons op ops ih => exact ih (h.perform client op)

/-- What is true of an adapter with a limit after operations with some outcomes. -/
structure Orderly (limit : Option Nat) (outcomes : List Outcome) (s : Subscriptions) : Prop where
  /-- The bindings held are listed in ascending order, each once, and are no more than may be. -/
  ascending : s.list.Pairwise (· < ·)
  nodup : s.list.Nodup
  length_le : ∀ max, limit = some max → s.list.length ≤ max
  reportedCount_eq : s.reportedCount = s.list.length
  /-- Of the subscriptions that were ever started for a binding one lives, the noted one, if the
  binding is held, and none if it is not. -/
  count_live : ∀ b, s.started.count ⟨b, false⟩ = if b ∈ s.list then 1 else 0
  noted_live : ∀ b n, s.held.get? b = some n → s.started[n]? = some ⟨b, false⟩
  /-- Refused additions, messages about them and their count agree. -/
  refusedCount_eq : s.refusedCount = (outcomes.filter Outcome.refused).length
  messages_eq : (outcomes.filterMap Outcome.message).length = s.refusedCount

theorem mem_list_delete {s : Subscriptions} {b x : Binding} :
    x ∈ (s.delete b).2.list ↔ x ≠ b ∧ x ∈ s.list := by
  rcases delete_cases b s with ⟨hb, hdel⟩ | ⟨n, hn, hdel⟩
  · rw [hdel]
    refine ⟨fun hx => ⟨?_, hx⟩, And.right⟩
    rintro rfl
    exact hb hx
  · rw [hdel]
    exact mem_list_drop

end Subscriptions

end LogEgress.Adapter
