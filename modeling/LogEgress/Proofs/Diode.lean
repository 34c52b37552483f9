import LogEgress.Diode
import Mathlib.Algebra.BigOperators.Group.List.Basic
import Mathlib.Algebra.GroupWithZero.Nat
import Mathlib.Data.List.Infix
import Mathlib.Data.List.Range

set_option autoImplicit false

/-! # The diode between its two parties

The producer writes entries in two steps, the consumer looks at the ring in one, and the steps of
the two come in any order (`Session.run`). What the ring holds is settled by two numbers, how many
entries were stored and where the reader is: the next look gives the latest stored entry that
belongs into the reader's bucket (`latest`), or nothing if all stored entries were read or passed
over. Entries left over from earlier laps make no difference.

The invariant `Holds` says that the latest entries are in their buckets. It is kept by each step of
either party (`Holds.claim`, `Holds.store`, `Holds.tryNext`), and the main theorem
`every_interleaving_lawful` says what follows for whole runs.
-/

namespace LogEgress.Diode

variable {α : Type}

/-! ## Numbers and their buckets -/

/-- The greatest number below `stored` that has the bucket of the number `read`, in a ring of `n`
buckets. -/
def latest (n read stored : Nat) : Nat := read + n * ((stored - 1 - read) / n)

theorem le_latest (n read stored : Nat) : read ≤ latest n read stored :=
  Nat.le_add_right _ _

theorem latest_lt {n read stored : Nat} (h : read < stored) : latest n read stored < stored := by
  have hmul : n * ((stored - 1 - read) / n) ≤ stored - 1 - read := Nat.mul_div_le _ _
  unfold latest
  omega

/-- No later number below `stored` has the same bucket. -/
theorem le_latest_add {n read stored : Nat} (hn : 0 < n) (h : read < stored) :
    stored ≤ latest n read stored + n := by
  have hlt : stored - 1 - read < n * ((stored - 1 - read) / n + 1) := Nat.lt_mul_div_succ _ hn
  rw [Nat.mul_succ] at hlt
  unfold latest
  omega

theorem latest_mod (n read stored : Nat) : latest n read stored % n = read % n :=
  Nat.add_mul_mod_self_left _ _ _

theorem dvd_latest_sub (n read stored : Nat) : n ∣ latest n read stored - read := by
  rw [latest, Nat.add_sub_cancel_left]
  exact Nat.dvd_mul_right _ _

/-- A reader that is not a lap behind is at the latest entry of its bucket. -/
theorem latest_eq_read {n read stored : Nat} (h : read < stored) (hn : stored ≤ read + n) :
    latest n read stored = read := by
  have hzero : (stored - 1 - read) / n = 0 := Nat.div_eq_of_lt (by omega)
  rw [latest, hzero, Nat.mul_zero, Nat.add_zero]

/-- Different numbers that are less than a lap apart have different buckets. -/
theorem mod_ne_mod {n a b : Nat} (hab : a < b) (hb : b < a + n) : a % n ≠ b % n := by
  intro h
  have hdvd : n ∣ b - a := Nat.dvd_of_mod_eq_zero (Nat.sub_mod_eq_zero_of_mod_eq h.symm)
  have hle : n ≤ b - a := Nat.le_of_dvd (by omega) hdvd
  omega

/-! ## One look -/

/-- The entry that the next look takes, with its number: what is in the reader's bucket, unless it
is left over from an earlier lap. -/
def ready? (d : Diode α) : Option (Nat × α) :=
  d.buckets[d.readIndex % d.capacity]?.join.filter fun e => d.readIndex ≤ e.1

/-- A look that finds an entry. -/
theorem tryNext_of_ready {d : Diode α} {seq : Nat} {x : α} (h : d.ready? = some (seq, x)) :
    d.tryNext = (⟨some x, if d.readIndex < seq then some (seq - d.readIndex) else none⟩,
      { d with buckets := d.buckets.set (d.readIndex % d.capacity) none, readIndex := seq + 1 }) := by
  obtain ⟨hjoin, hle⟩ := Option.filter_eq_some_iff.1 h
  have hbucket := Option.join_eq_some_iff.1 hjoin
  have hnot : ¬ seq < d.readIndex := Nat.not_lt.2 (of_decide_eq_true hle)
  simp only [tryNext, hbucket, if_neg hnot]

/-- Emptying a bucket that is empty changes nothing. -/
theorem set_none_eq_self {buckets : List (Option (Nat × α))} {i : Nat}
    (h : buckets[i]?.join = none) : buckets.set i none = buckets := by
  refine List.ext_getElem? fun j => ?_
  rw [List.getElem?_set]
  by_cases hij : i = j
  · subst hij
    rw [if_pos rfl]
    by_cases hi : i < buckets.length
    · rw [List.getElem?_eq_getElem hi, Option.join_some] at h
      rw [if_pos hi, List.getElem?_eq_getElem hi, h]
    · rw [if_neg hi, List.getElem?_eq_none (Nat.le_of_not_lt hi)]
  · rw [if_neg hij]

/-- A look that finds nothing leaves the reader where it is and its bucket empty. -/
theorem tryNext_of_not_ready {d : Diode α} (h : d.ready? = none) :
    d.tryNext = (⟨none, none⟩,
      { d with buckets := d.buckets.set (d.readIndex % d.capacity) none }) := by
  cases hjoin : d.buckets[d.readIndex % d.capacity]?.join with
  | none =>
    rw [set_none_eq_self hjoin]
    rcases Option.join_eq_none_iff.1 hjoin with hbucket | hbucket
    · simp only [tryNext, hbucket]
    · simp only [tryNext, hbucket]
  | some e =>
    obtain ⟨seq, x⟩ := e
    have hbucket := Option.join_eq_some_iff.1 hjoin
    have hlt : seq < d.readIndex := by
      have hleft := Option.filter_eq_none_iff.1 h (seq, x) hjoin
      simpa using hleft
    simp only [tryNext, hbucket, if_pos hlt]

/-! ## What a ring holds -/

/-- The first `stored` entries of a stream went through the ring: the latest of them are in their
buckets, as far as they were not read or passed over. -/
structure Holds (entry : Nat → α) (stored : Nat) (d : Diode α) : Prop where
  capacity_pos : 0 < d.capacity
  read_le : d.readIndex ≤ stored
  /-- Nothing is in a bucket but entries that were stored, though perhaps laps ago. -/
  seq_lt : ∀ {i seq : Nat} {x : α}, d.buckets[i]? = some (some (seq, x)) → seq < stored
  /-- The last entry stored into a bucket is there until it is read. -/
  latest_stays : ∀ {seq : Nat}, d.readIndex ≤ seq → seq < stored → stored ≤ seq + d.capacity →
    d.buckets[seq % d.capacity]? = some (some (seq, entry seq))

theorem holds_ofSize (entry : Nat → α) (size : Nat) : Holds entry 0 (ofSize size) where
  capacity_pos := by
    rw [capacity, ofSize, List.length_replicate]
    exact Nat.le_max_left 1 size
  read_le := Nat.le_refl 0
  seq_lt h := by
    rw [ofSize, List.getElem?_replicate] at h
    split at h <;> cases h
  latest_stays _ h := absurd h (Nat.not_lt_zero _)

/-- A claim does not touch the buckets. -/
theorem Holds.claim {entry : Nat → α} {stored : Nat} {d : Diode α} (h : Holds entry stored d) :
    Holds entry stored d.claim.2 :=
  ⟨h.capacity_pos, h.read_le, h.seq_lt, h.latest_stays⟩

theorem capacity_store (seq : Nat) (x : α) (d : Diode α) : (d.store seq x).capacity = d.capacity :=
  List.length_set

/-- The next entry is stored over the one a lap before it, and no other. -/
theorem Holds.store {entry : Nat → α} {stored : Nat} {d : Diode α} (h : Holds entry stored d) :
    Holds entry (stored + 1) (d.store stored (entry stored)) := by
  have hplace : stored % d.capacity < d.buckets.length := Nat.mod_lt _ h.capacity_pos
  constructor
  · rw [capacity_store]
    exact h.capacity_pos
  · exact Nat.le_succ_of_le h.read_le
  · intro i seq x hb
    rw [Diode.store, List.getElem?_set] at hb
    by_cases hi : stored % d.capacity = i
    · rw [if_pos hi, if_pos hplace] at hb
      cases hb
      exact Nat.lt_succ_self _
    · rw [if_neg hi] at hb
      exact Nat.lt_succ_of_lt (h.seq_lt hb)
  · intro seq hread hseq hlap
    rw [capacity_store] at hlap ⊢
    rw [Diode.store]
    rcases Nat.lt_or_eq_of_le (Nat.le_of_lt_succ hseq) with hlt | rfl
    · -- Less than a lap apart, the two have different buckets.
      have hne : stored % d.capacity ≠ seq % d.capacity :=
        (mod_ne_mod hlt (by omega)).symm
      rw [List.getElem?_set_ne hne]
      exact h.latest_stays hread hlt (by omega)
    · exact List.getElem?_set_self hplace

/-- What a look takes: nothing if all stored entries were read or passed over, and else the latest
entry of the reader's bucket. -/
theorem Holds.ready?_eq {entry : Nat → α} {stored : Nat} {d : Diode α} (h : Holds entry stored d) :
    d.ready? =
      if d.readIndex = stored then none
      else some (latest d.capacity d.readIndex stored,
        entry (latest d.capacity d.readIndex stored)) := by
  by_cases hr : d.readIndex = stored
  · rw [if_pos hr, ready?, Option.filter_eq_none_iff]
    rintro ⟨seq, x⟩ hb
    have hlt : seq < stored := h.seq_lt (Option.join_eq_some_iff.1 hb)
    simp only [decide_eq_true_eq, Nat.not_le]
    omega
  · have hlt : d.readIndex < stored := Nat.lt_of_le_of_ne h.read_le hr
    have hbucket := h.latest_stays (le_latest d.capacity d.readIndex stored) (latest_lt hlt)
      (le_latest_add h.capacity_pos hlt)
    rw [latest_mod] at hbucket
    rw [if_neg hr, ready?, hbucket, Option.join_some]
    exact Option.filter_some_pos (decide_eq_true (le_latest _ _ _))

/-! ## What a look does -/

theorem buckets_tryNext (d : Diode α) :
    d.tryNext.2.buckets = d.buckets.set (d.readIndex % d.capacity) none := by
  cases h : d.ready? with
  | none => rw [tryNext_of_not_ready h]
  | some e =>
    obtain ⟨seq, x⟩ := e
    rw [tryNext_of_ready h]

theorem writeIndex_tryNext (d : Diode α) : d.tryNext.2.writeIndex = d.writeIndex := by
  cases h : d.ready? with
  | none => rw [tryNext_of_not_ready h]
  | some e =>
    obtain ⟨seq, x⟩ := e
    rw [tryNext_of_ready h]

theorem capacity_tryNext (d : Diode α) : d.tryNext.2.capacity = d.capacity := by
  rw [capacity, buckets_tryNext, List.length_set]
  rfl

/-- A look either finds all stored entries read or passed over and changes nothing that counts, or
takes the latest entry of the reader's bucket and goes on behind it. -/
theorem Holds.look_cases {entry : Nat → α} {stored : Nat} {d : Diode α}
    (h : Holds entry stored d) :
    (d.readIndex = stored ∧ d.ready? = none ∧ d.tryNext.1 = ⟨none, none⟩ ∧
        d.tryNext.2.readIndex = stored) ∨
      (d.readIndex < stored ∧ ∃ k, k = latest d.capacity d.readIndex stored ∧
        d.ready? = some (k, entry k) ∧
        d.tryNext.1 =
          ⟨some (entry k), if d.readIndex < k then some (k - d.readIndex) else none⟩ ∧
        d.tryNext.2.readIndex = k + 1) := by
  have hready := h.ready?_eq
  by_cases hr : d.readIndex = stored
  · rw [if_pos hr] at hready
    refine .inl ⟨hr, hready, ?_⟩
    rw [tryNext_of_not_ready hready]
    exact ⟨rfl, hr⟩
  · rw [if_neg hr] at hready
    refine .inr ⟨Nat.lt_of_le_of_ne h.read_le hr, _, rfl, hready, ?_⟩
    rw [tryNext_of_ready hready]
    exact ⟨rfl, rfl⟩

theorem Holds.tryNext {entry : Nat → α} {stored : Nat} {d : Diode α} (h : Holds entry stored d) :
    Holds entry stored d.tryNext.2 := by
  -- Wherever the reader goes on, no entry from there on has the bucket that was emptied.
  have hgo : stored = d.tryNext.2.readIndex ∨ (d.readIndex < d.tryNext.2.readIndex ∧
      d.tryNext.2.readIndex ≤ stored ∧ ∀ seq, d.tryNext.2.readIndex ≤ seq → seq < stored →
        d.readIndex % d.capacity ≠ seq % d.capacity) := by
    rcases h.look_cases with ⟨-, -, -, hread⟩ | ⟨hlt, k, hk, -, -, hread⟩
    · exact .inl hread.symm
    · right
      have hle : d.readIndex ≤ k := hk ▸ le_latest _ _ _
      have hks : k < stored := hk ▸ latest_lt hlt
      have hnext : stored ≤ k + d.capacity := hk ▸ le_latest_add h.capacity_pos hlt
      rw [hread]
      refine ⟨by omega, by omega, fun seq hseq hstored => ?_⟩
      rw [← latest_mod d.capacity d.readIndex stored, ← hk]
      exact mod_ne_mod hseq (by omega)
  constructor
  · rw [capacity_tryNext]
    exact h.capacity_pos
  · rcases hgo with hgo | hgo
    · exact Nat.le_of_eq hgo.symm
    · exact hgo.2.1
  · intro i seq x hb
    rw [buckets_tryNext, List.getElem?_set] at hb
    split at hb
    · split at hb <;> cases hb
    · exact h.seq_lt hb
  · intro seq hread hseq hlap
    rw [capacity_tryNext] at hlap ⊢
    rcases hgo with hgo | ⟨hfar, -, hne⟩
    · omega
    · rw [buckets_tryNext, List.getElem?_set_ne (hne seq hread hseq)]
      exact h.latest_stays (by omega) hseq hlap

/-! ## Both parties -/

/-- Who takes the next step. -/
inductive Party where
  | producer
  | consumer
  deriving DecidableEq, Repr

/-- A ring between two steps of its parties, with what has become of it so far. -/
structure Session (α : Type) where
  ring : Diode α
  /-- The entry that the producer is about to store, and the number that it claimed for it. -/
  pending : Option (Nat × α) := none
  /-- How many entries were stored. -/
  stored : Nat := 0
  /-- What the consumer's looks gave. -/
  looks : List (Look α) := []
  /-- The numbers of the entries that were delivered. -/
  numbers : List Nat := []

namespace Session

/-- A ring that was not used yet. -/
def start (size : Nat) : Session α := { ring := ofSize size }

/-- A step of the producer, which writes the entries of a stream one after the other: it claims a
number for the next one, or stores the one that it claimed a number for. -/
def produce (entry : Nat → α) (s : Session α) : Session α :=
  match s.pending with
  | none =>
    let (seq, ring) := s.ring.claim
    { s with ring := ring, pending := some (seq, entry s.stored) }
  | some (seq, x) =>
    { s with ring := s.ring.store seq x, pending := none, stored := s.stored + 1 }

/-- A look of the consumer. -/
def consume (s : Session α) : Session α where
  ring := s.ring.tryNext.2
  pending := s.pending
  stored := s.stored
  looks := s.looks ++ [s.ring.tryNext.1]
  numbers := s.numbers ++ (s.ring.ready?.map Prod.fst).toList

/-- A step of one of the parties. -/
def turn (entry : Nat → α) (s : Session α) : Party → Session α
  | .producer => s.produce entry
  | .consumer => s.consume

/-- The steps of the parties in some order. -/
def run (entry : Nat → α) (s : Session α) (turns : List Party) : Session α :=
  turns.foldl (turn entry) s

theorem run_append_singleton (entry : Nat → α) (s : Session α) (turns : List Party) (p : Party) :
    s.run entry (turns ++ [p]) = (s.run entry turns).turn entry p :=
  List.foldl_concat ..

/-- Two steps of the producer make up the writing of an entry. -/
theorem ring_produce_produce {entry : Nat → α} {s : Session α} (h : s.pending = none) :
    ((s.produce entry).produce entry).ring = s.ring.set (entry s.stored) := by
  obtain ⟨ring, pending, stored, looks, numbers⟩ := s
  obtain rfl : pending = none := h
  rfl

/-- The entries that were delivered. -/
def delivered (s : Session α) : List α := s.looks.filterMap (·.got)

/-- The counts of missed entries of which the consumer was alerted. -/
def alerts (s : Session α) : List Nat := s.looks.filterMap (·.missed)

/-- What every step of either party keeps. -/
structure Kept (n : Nat) (entry : Nat → α) (s : Session α) : Prop where
  holds : Holds entry s.stored s.ring
  capacity_eq : s.ring.capacity = n
  pending_eq : ∀ e ∈ s.pending, e = (s.stored, entry s.stored)
  writeIndex_eq : s.ring.writeIndex = s.stored + s.pending.toList.length
  ascending : s.numbers.Pairwise (· < ·)
  delivered_eq : s.delivered = s.numbers.map entry
  counted : s.numbers.length + s.alerts.sum = s.ring.readIndex
  /-- The reader stands right behind the last entry that was delivered. -/
  last_eq : s.numbers.getLast? = if s.ring.readIndex = 0 then none else some (s.ring.readIndex - 1)
  lt_read : ∀ k ∈ s.numbers, k < s.ring.readIndex

theorem kept_start (entry : Nat → α) (size : Nat) : Kept (max 1 size) entry (start size) where
  holds := holds_ofSize entry size
  capacity_eq := List.length_replicate
  pending_eq := by simp [start]
  writeIndex_eq := rfl
  ascending := .nil
  delivered_eq := rfl
  counted := rfl
  last_eq := rfl
  lt_read := by simp [start]

/-- The producer does not concern the reader. -/
theorem reader_produce (entry : Nat → α) (s : Session α) :
    (s.produce entry).looks = s.looks ∧ (s.produce entry).numbers = s.numbers ∧
      (s.produce entry).ring.readIndex = s.ring.readIndex := by
  unfold produce
  cases s.pending with
  | none => exact ⟨rfl, rfl, rfl⟩
  | some e => exact ⟨rfl, rfl, rfl⟩

theorem Kept.produce {n : Nat} {entry : Nat → α} {s : Session α} (h : Kept n entry s) :
    Kept n entry (s.produce entry) := by
  have hwrite := h.writeIndex_eq
  unfold Session.produce
  cases hp : s.pending with
  | none =>
    have hnum : s.ring.writeIndex = s.stored := by simpa [hp] using hwrite
    exact { h with
      holds := h.holds.claim
      pending_eq := by
        rintro e he
        cases he
        exact congrArg (·, entry s.stored) hnum
      writeIndex_eq := by
        rw [Diode.claim, hnum]
        rfl }
  | some e =>
    obtain rfl := h.pending_eq e hp
    have hnum : s.ring.writeIndex = s.stored + 1 := by simpa [hp] using hwrite
    exact { h with
      holds := h.holds.store
      capacity_eq := (capacity_store ..).trans h.capacity_eq
      pending_eq := by simp
      writeIndex_eq := hnum }

theorem delivered_consume (s : Session α) :
    s.consume.delivered = s.delivered ++ s.ring.tryNext.1.got.toList := by
  rw [consume, delivered, List.filterMap_append]
  rfl

theorem alerts_consume (s : Session α) :
    s.consume.alerts = s.alerts ++ s.ring.tryNext.1.missed.toList := by
  rw [consume, alerts, List.filterMap_append]
  rfl

/-- A look of the consumer, as it is recorded: nothing, or one more entry and, after a jump, one more
alert. -/
theorem consume_cases {entry : Nat → α} {s : Session α} (h : Holds entry s.stored s.ring) :
    (s.ring.readIndex = s.stored ∧ s.consume.numbers = s.numbers ∧
        s.consume.delivered = s.delivered ∧ s.consume.alerts = s.alerts ∧
        s.consume.ring.readIndex = s.ring.readIndex) ∨
      (s.ring.readIndex < s.stored ∧ ∃ k, k = latest s.ring.capacity s.ring.readIndex s.stored ∧
        s.consume.numbers = s.numbers ++ [k] ∧ s.consume.delivered = s.delivered ++ [entry k] ∧
        s.consume.alerts =
          s.alerts ++ (if s.ring.readIndex < k then [k - s.ring.readIndex] else []) ∧
        s.consume.ring.readIndex = k + 1) := by
  rcases h.look_cases with ⟨hr, hready, hlook, hread⟩ | ⟨hlt, k, hk, hready, hlook, hread⟩
  · refine .inl ⟨hr, ?_, ?_, ?_, hread.trans hr.symm⟩
    · simp [consume, hready]
    · rw [delivered_consume, hlook, Option.toList_none, List.append_nil]
    · rw [alerts_consume, hlook, Option.toList_none, List.append_nil]
  · refine .inr ⟨hlt, k, hk, ?_, ?_, ?_, hread⟩
    · simp [consume, hready]
    · rw [delivered_consume, hlook, Option.toList_some]
    · rw [alerts_consume, hlook]
      split <;> rfl

theorem Kept.consume {n : Nat} {entry : Nat → α} {s : Session α} (h : Kept n entry s) :
    Kept n entry s.consume := by
  have hcap : s.consume.ring.capacity = n := (capacity_tryNext _).trans h.capacity_eq
  have hwrite : s.consume.ring.writeIndex = s.stored + s.pending.toList.length :=
    (writeIndex_tryNext _).trans h.writeIndex_eq
  have hcount := h.counted
  rcases consume_cases h.holds with
    ⟨-, hnums, hgot, halerts, hread⟩ | ⟨hlt, k, hk, hnums, hgot, halerts, hread⟩
  · exact {
      holds := h.holds.tryNext
      capacity_eq := hcap
      pending_eq := h.pending_eq
      writeIndex_eq := hwrite
      ascending := by rw [hnums]; exact h.ascending
      delivered_eq := by rw [hgot, hnums]; exact h.delivered_eq
      counted := by rw [hnums, halerts, hread]; exact hcount
      last_eq := by rw [hnums, hread]; exact h.last_eq
      lt_read := by rw [hnums, hread]; exact h.lt_read }
  · have hle : s.ring.readIndex ≤ k := hk ▸ le_latest _ _ _
    have hsum : s.consume.alerts.sum = s.alerts.sum + (k - s.ring.readIndex) := by
      rw [halerts, List.sum_append]
      split
      · rw [List.sum_singleton]
      · rw [List.sum_nil]
        omega
    exact {
      holds := h.holds.tryNext
      capacity_eq := hcap
      pending_eq := h.pending_eq
      writeIndex_eq := hwrite
      ascending := by
        rw [hnums, List.pairwise_append]
        refine ⟨h.ascending, List.pairwise_singleton _ _, fun a ha b hb => ?_⟩
        have hlast := h.lt_read a ha
        rw [List.mem_singleton.1 hb]
        omega
      delivered_eq := by rw [hgot, hnums, h.delivered_eq, List.map_append, List.map_singleton]
      counted := by
        rw [hnums, hsum, hread, List.length_append, List.length_singleton]
        omega
      last_eq := by
        rw [hnums, hread, List.getLast?_concat, if_neg (Nat.succ_ne_zero k), Nat.add_sub_cancel]
      lt_read := by
        rw [hnums, hread]
        intro a ha
        rcases List.mem_append.1 ha with ha | ha
        · have hlast := h.lt_read a ha
          omega
        · rw [List.mem_singleton.1 ha]
          exact Nat.lt_succ_self k }

theorem kept_run (entry : Nat → α) (size : Nat) (turns : List Party) :
    Kept (max 1 size) entry ((start size).run entry turns) := by
  induction turns using List.reverseRecOn with
  | nil => exact kept_start entry size
  | append_singleton turns p ih =>
    rw [run_append_singleton]
    cases p with
    | producer => exact ih.produce
    | consumer => exact ih.consume

/-- A producer that never gets further ahead of the reader than the size of the ring overwrites
nothing. -/
theorem nothing_missed_of_never_ahead {entry : Nat → α} {size : Nat} {turns : List Party}
    (h : ∀ front, front <+: turns → ((start size).run entry front).stored ≤
      ((start size).run entry front).ring.readIndex + max 1 size) :
    ((start size).run entry turns).alerts = [] ∧ ((start size).run entry turns).numbers =
      List.range ((start size).run entry turns).ring.readIndex := by
  induction turns using List.reverseRecOn with
  | nil => exact ⟨rfl, rfl⟩
  | append_singleton turns p ih =>
    obtain ⟨halerts, hnums⟩ := ih fun front hf => h front (hf.trans (List.prefix_append _ _))
    have hahead := h turns (List.prefix_append _ _)
    have hkept := kept_run entry size turns
    rw [run_append_singleton]
    cases p with
    | producer =>
      obtain ⟨hlooks, hsame, hread⟩ := reader_produce entry ((start size).run entry turns)
      rw [turn, alerts, hlooks, hsame, hread]
      exact ⟨halerts, hnums⟩
    | consumer =>
      rw [turn]
      rcases consume_cases hkept.holds with
        ⟨-, hnums', -, halerts', hread⟩ | ⟨hlt, k, hk, hnums', -, halerts', hread⟩
      · rw [hnums', halerts', hread]
        exact ⟨halerts, hnums⟩
      · -- The reader is not a lap behind, so it takes the very next entry.
        rw [latest_eq_read hlt (by rw [hkept.capacity_eq]; exact hahead)] at hk
        rw [hnums', halerts', hread, halerts, hnums, hk, if_neg (Nat.lt_irrefl _),
          List.range_succ]
        exact ⟨rfl, rfl⟩

/-- What a ring of `n` buckets owes its parties at any moment. -/
structure Law (n : Nat) (entry : Nat → α) (s : Session α) : Prop where
  /-- Entries are delivered in the order of their numbers. -/
  ascending : s.numbers.Pairwise (· < ·)
  delivered_eq : s.delivered = s.numbers.map entry
  /-- Every number that the reader has passed was delivered or counted as missed. -/
  counted : s.numbers.length + s.alerts.sum = s.ring.readIndex
  /-- The reader is never ahead of the entries stored, of which one more may be claimed. -/
  read_le : s.ring.readIndex ≤ s.stored
  claimed_eq : s.ring.writeIndex = s.stored + s.pending.toList.length
  /-- The next look gives nothing just if no stored entry is unread; it does no harm then. -/
  none_iff : s.ring.tryNext.1.got = none ↔ s.ring.readIndex = s.stored
  idle : s.ring.readIndex = s.stored →
    s.ring.tryNext.1.missed = none ∧ s.consume.ring.readIndex = s.ring.readIndex
  /-- Otherwise it gives the latest stored entry in the reader's bucket, whole laps ahead of the
  reader, and an alert if any. -/
  next : s.ring.readIndex < s.stored → ∀ k,
    k = s.ring.readIndex + n * ((s.stored - 1 - s.ring.readIndex) / n) →
      s.ring.tryNext.1 = ⟨some (entry k),
          if s.ring.readIndex < k then some (k - s.ring.readIndex) else none⟩ ∧
        n ∣ k - s.ring.readIndex ∧ k < s.stored ∧
        s.consume.numbers = s.numbers ++ [k] ∧ s.consume.ring.readIndex = k + 1
  /-- When the ring is drained, what was written was delivered or counted as missed, and the last
  entry was delivered. -/
  drained : s.ring.tryNext.1.got = none → s.numbers.length + s.alerts.sum = s.stored ∧
    ∀ k, s.stored = k + 1 → s.numbers.getLast? = some k

theorem Kept.law {n : Nat} {entry : Nat → α} {s : Session α} (h : Kept n entry s) :
    Law n entry s := by
  have hnone : s.ring.tryNext.1.got = none ↔ s.ring.readIndex = s.stored := by
    rcases h.holds.look_cases with ⟨hr, -, hlook, -⟩ | ⟨hlt, k, -, -, hlook, -⟩
    · rw [hlook]
      exact iff_of_true rfl hr
    · rw [hlook]
      exact iff_of_false (Option.some_ne_none _) (Nat.ne_of_lt hlt)
  refine ⟨h.ascending, h.delivered_eq, h.counted, h.holds.read_le, h.writeIndex_eq, hnone, ?_, ?_, ?_⟩
  · intro hr
    rcases h.holds.look_cases with ⟨-, -, hlook, hread⟩ | ⟨hlt, -⟩
    · exact ⟨congrArg Look.missed hlook, hread.trans hr.symm⟩
    · omega
  · rintro hlt k hk
    rcases h.holds.look_cases with ⟨hr, -⟩ | ⟨-, k', hk', hready, hlook, hread⟩
    · omega
    · obtain rfl : k = k' := by rw [hk, hk', latest, h.capacity_eq]
      refine ⟨hlook, ?_, hk' ▸ latest_lt hlt, ?_, hread⟩
      · rw [hk', ← h.capacity_eq]
        exact dvd_latest_sub _ _ _
      · simp [Session.consume, hready]
  · intro hgot
    have hr := hnone.1 hgot
    refine ⟨h.counted.trans hr, fun k hk => ?_⟩
    rw [h.last_eq, hr, hk, if_neg (Nat.succ_ne_zero k), Nat.add_sub_cancel]

/-- **The law of the diode.** At every moment of every interleaving of a producer that writes the
entries of a stream and a consumer that looks, the ring owes them what `Law` says. In a run in which
the producer is never further ahead of the reader than the size of the ring, nothing is missed. -/
theorem every_interleaving_lawful (size : Nat) (entry : Nat → α) (turns : List Party) :
    Law (max 1 size) entry ((start size).run entry turns) ∧
      ((∀ front, front <+: turns → ((start size).run entry front).stored ≤
          ((start size).run entry front).ring.readIndex + max 1 size) →
        ((start size).run entry turns).alerts = [] ∧ ((start size).run entry turns).numbers =
          List.range ((start size).run entry turns).ring.readIndex) :=
  ⟨(kept_run entry size turns).law, nothing_missed_of_never_ahead⟩

/-- In a ring of two buckets five entries are stored and a sixth is claimed before the first look,
which gives the fifth and tells of four that are missed; then the ring is drained. Another producer
waits for the reader, and nothing is missed. -/
theorem lawful_with_overwriting :
    let entry : Nat → Nat := (10 * ·)
    let late := (start 2).run entry (.replicate 11 .producer ++ [.consumer])
    let turns : List Party := [.producer, .producer, .producer, .producer, .consumer, .producer]
    late.delivered = [40] ∧ late.alerts = [4] ∧ late.stored = 5 ∧
      late.numbers.length + late.alerts.sum = late.stored ∧ late.numbers.getLast? = some 4 ∧
      ((start 2).run entry turns).alerts = [] := by
  intro entry late turns
  have hlaw : Law 2 entry late := (every_interleaving_lawful 2 entry _).1
  have hdrained : late.ring.tryNext.1.got = none := by decide
  obtain ⟨hcounted, hlast⟩ := hlaw.drained hdrained
  have hnear : ∀ front ∈ turns.inits, ((start 2).run entry front).stored ≤
      ((start 2).run entry front).ring.readIndex + 2 := by decide
  refine ⟨by decide, by decide, by decide, hcounted, hlast 4 (by decide), ?_⟩
  exact ((every_interleaving_lawful 2 entry turns).2
    fun front hf => hnear front ((List.mem_inits _ _).2 hf)).1

end Session

end LogEgress.Diode
