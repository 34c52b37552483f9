import LogEgress.Proofs.Ingress.Pool
import Mathlib.Data.Nat.Find
import Mathlib.Order.Interval.Finset.Nat

set_option autoImplicit false

/-! # Clients in turn

Whoever takes a client goes from slot to slot, beginning after the last slot that was looked at, and
waits after each look in vain. If nothing else happens, it is the next valid client in this order
that is taken, after as many waits as slots were passed over (`seek_of_first`). Where all slots have
valid clients each call takes the one in its turn, and over whole rounds every client is taken
equally often (`turns_are_fair`).
-/

namespace LogEgress.Ingress.Pool

variable {p : Pool} {client idx d : Nat} {rules : Rules}

/-! ## Looks -/

/-- The client of a slot, if it is valid. -/
def usable (p : Pool) (idx : Nat) : Option Nat :=
  (p.slots[idx]?.join.map (·.client)).filter p.isValid

theorem usable_eq_some_iff : p.usable idx = some client ↔
    ∃ slot, p.slots[idx]? = some (some slot) ∧ slot.client = client ∧ p.isValid client = true := by
  simp only [usable, Option.filter_eq_some_iff, Option.map_eq_some_iff, Option.join_eq_some_iff]
  constructor
  · rintro ⟨⟨slot, hslot, hclient⟩, hvalid⟩
    exact ⟨slot, hslot, hclient, hvalid⟩
  · rintro ⟨slot, hslot, hclient, hvalid⟩
    exact ⟨⟨slot, hslot, hclient⟩, hvalid⟩

theorem look_eq (p : Pool) :
    p.look = (p.usable (p.looks % p.size), { p with looks := p.looks + 1 }) := by
  unfold look usable
  cases p.slots[p.looks % p.size]? with
  | none => rfl
  | some slot =>
    cases slot with
    | none => rfl
    | some slot => cases h : p.isValid slot.client <;> simp [Option.filter, h]

/-- The pool after a number of looks. -/
def lookedAt (n : Nat) (p : Pool) : Pool := { p with looks := (p.looks + n) % lookLimit }

/-- The slot whose turn it is after a number of looks. -/
def turn (p : Pool) (n : Nat) : Nat := (p.looks + n) % lookLimit % p.size

theorem lookCounted_eq (h : p.looks < lookLimit) :
    p.lookCounted = (p.usable (p.turn 0), p.lookedAt 1) := by
  have hturn : p.turn 0 = p.looks % p.size := by
    rw [turn, Nat.add_zero, Nat.mod_eq_of_lt h]
  rw [lookCounted, look_eq, hturn]
  rfl

theorem looks_lookedAt_lt (n : Nat) (p : Pool) : (p.lookedAt n).looks < lookLimit :=
  Nat.mod_lt _ (by decide)

theorem turn_lookedAt (n m : Nat) (p : Pool) : (p.lookedAt n).turn m = p.turn (n + m) := by
  show ((p.looks + n) % lookLimit + m) % lookLimit % p.size = _
  rw [Nat.mod_add_mod, Nat.add_assoc]
  rfl

theorem lookedAt_lookedAt (n m : Nat) (p : Pool) :
    (p.lookedAt n).lookedAt m = p.lookedAt (n + m) := by
  show { p with looks := ((p.looks + n) % lookLimit + m) % lookLimit } = _
  rw [Nat.mod_add_mod, Nat.add_assoc]
  rfl

theorem lookedAt_zero (h : p.looks < lookLimit) : p.lookedAt 0 = p := by
  rw [lookedAt, Nat.add_zero, Nat.mod_eq_of_lt h]

/-- Until the count begins anew, the slots have their turns one after the other. -/
theorem turn_eq {n : Nat} (h : p.looks + n < lookLimit) : p.turn n = (p.looks + n) % p.size := by
  rw [turn, Nat.mod_eq_of_lt h]

/-! ## One call -/

/-- **The first valid client in turn is taken**, after a wait for each slot that was passed over.
The induction is on the number of those slots. -/
theorem seek_of_first (hlooks : p.looks < lookLimit)
    (hpassed : ∀ j < d, p.usable (p.turn j) = none) (hfound : p.usable (p.turn d) = some client)
    {n : Nat} (hn : d < n) (waits now : Nat) :
    p.seek rules n waits now =
      some ⟨client, waits + d, now + d * rules.retryWait, p.lookedAt (d + 1)⟩ := by
  induction d generalizing p n waits now with
  | zero =>
    obtain ⟨n, rfl⟩ := Nat.exists_eq_succ_of_ne_zero (Nat.ne_of_gt hn)
    rw [seek, lookCounted_eq hlooks, hfound, Nat.zero_mul]
    rfl
  | succ d ih =>
    obtain ⟨n, rfl⟩ := Nat.exists_eq_succ_of_ne_zero (Nat.ne_of_gt (Nat.zero_lt_of_lt hn))
    have hvain : p.usable (p.turn 0) = none := hpassed 0 (Nat.succ_pos d)
    have hrest := ih (p := p.lookedAt 1) (p.looks_lookedAt_lt 1)
      (fun j hj => by
        rw [turn_lookedAt, Nat.add_comm]
        exact hpassed (j + 1) (Nat.succ_lt_succ hj))
      (by
        rw [turn_lookedAt, Nat.add_comm]
        exact hfound)
      (Nat.lt_of_succ_lt_succ hn) (waits + 1) (now + rules.retryWait)
    rw [seek, lookCounted_eq hlooks, hvain]
    simp only
    rw [hrest, lookedAt_lookedAt, Nat.succ_mul, Nat.add_assoc waits, Nat.add_assoc now,
      Nat.add_comm 1 d, Nat.add_comm rules.retryWait, Nat.add_comm 1 (d + 1)]

/-- There is no client if all the looks are in vain. -/
theorem seek_eq_none_iff (hlooks : p.looks < lookLimit) {n waits now : Nat} :
    p.seek rules n waits now = none ↔ ∀ j < n, p.usable (p.turn j) = none := by
  constructor
  · intro hnone j hj
    by_contra hsome
    -- The first look that is not in vain finds a client.
    have hex : ∃ j, p.usable (p.turn j) ≠ none := ⟨j, hsome⟩
    obtain ⟨client, hfound⟩ := Option.ne_none_iff_exists'.mp (Nat.find_spec hex)
    rw [seek_of_first hlooks (fun i hi => not_not.mp (Nat.find_min hex hi)) hfound
      (Nat.lt_of_le_of_lt (Nat.find_min' hex hsome) hj)] at hnone
    cases hnone
  · intro hvain
    induction n generalizing p waits now with
    | zero => rfl
    | succ n ih =>
      rw [seek, lookCounted_eq hlooks, hvain 0 (Nat.succ_pos n)]
      exact ih (p.looks_lookedAt_lt 1) fun j hj => by
        rw [turn_lookedAt, Nat.add_comm]
        exact hvain (j + 1) (Nat.succ_lt_succ hj)

/-- **There is no next client only if no number of looks finds one**: the turns come round with the
count. -/
theorem next_eq_none_iff (hlooks : p.looks < lookLimit) {now : Nat} :
    p.next rules now = none ↔ ∀ n, p.seek rules n 0 now = none := by
  constructor
  · intro hnone n
    refine (seek_eq_none_iff hlooks).mpr fun j _ => ?_
    -- The turn of any look is that of one before the count began anew.
    have hturn : p.turn (j % lookLimit) = p.turn j := by rw [turn, Nat.add_mod_mod, ← turn]
    rw [← hturn]
    exact (seek_eq_none_iff hlooks).mp hnone _ (Nat.mod_lt _ (by decide))
  · exact fun h => h lookLimit

/-- Among as many slots as there are one is the first with a valid client, if there is any. -/
theorem exists_first (h : p.usable idx = some client) :
    ∃ d < p.size, ∃ found, p.usable ((p.looks + d) % p.size) = some found ∧
      ∀ j < d, p.usable ((p.looks + j) % p.size) = none := by
  obtain ⟨slot, hslot, -⟩ := usable_eq_some_iff.mp h
  have hidx : idx < p.size := (List.getElem?_eq_some_iff.mp hslot).1
  -- The slot has its turn within one round.
  let round := (idx + (p.size - p.looks % p.size)) % p.size
  have hround : (p.usable ((p.looks + round) % p.size)).isSome = true := by
    rw [turn_of_slot hidx, h]
    rfl
  have hsome : ∃ d, (p.usable ((p.looks + d) % p.size)).isSome = true := ⟨round, hround⟩
  obtain ⟨found, hfound⟩ := Option.isSome_iff_exists.mp (Nat.find_spec hsome)
  have hbefore : ∀ j < Nat.find hsome, p.usable ((p.looks + j) % p.size) = none := fun j hj =>
    Option.not_isSome_iff_eq_none.mp (Nat.find_min hsome hj)
  have hlt : Nat.find hsome < p.size :=
    Nat.lt_of_le_of_lt (Nat.find_min' hsome hround) (Nat.mod_lt _ (Nat.zero_lt_of_lt hidx))
  exact ⟨Nat.find hsome, hlt, found, hfound, hbefore⟩

/-- A bounded number of looks finds the same client. -/
theorem take_of_first (hpassed : ∀ j < d, p.usable ((p.looks + j) % p.size) = none)
    (hfound : p.usable ((p.looks + d) % p.size) = some client) {n : Nat} (hn : d < n) :
    p.take n = (some client, { p with looks := p.looks + d + 1 }) := by
  induction d generalizing p n with
  | zero =>
    obtain ⟨n, rfl⟩ := Nat.exists_eq_succ_of_ne_zero (Nat.ne_of_gt hn)
    rw [take, look_eq, show p.usable (p.looks % p.size) = some client from hfound]
  | succ d ih =>
    obtain ⟨n, rfl⟩ := Nat.exists_eq_succ_of_ne_zero (Nat.ne_of_gt (Nat.zero_lt_of_lt hn))
    have hvain : p.usable (p.looks % p.size) = none := hpassed 0 (Nat.succ_pos d)
    have hnext : ∀ j, p.looks + 1 + j = p.looks + (j + 1) := fun j => by omega
    have hrest := ih (p := { p with looks := p.looks + 1 })
      (fun j hj => by
        show p.usable ((p.looks + 1 + j) % p.size) = none
        rw [hnext]
        exact hpassed (j + 1) (Nat.succ_lt_succ hj))
      (by
        show p.usable ((p.looks + 1 + d) % p.size) = some client
        rw [hnext]
        exact hfound)
      (Nat.lt_of_succ_lt_succ hn)
    rw [take, look_eq, hvain]
    simp only
    rw [hrest]
    simp only [hnext]

/-! ## Call after call -/

/-- **With a valid client in every slot each call takes the one in its turn**, at once. The
induction is on the number of calls. -/
theorem nextMany_eq (rules : Rules) (hlooks : p.looks < lookLimit) (hsize : 0 < p.size)
    (hall : ∀ idx < p.size, (p.usable idx).isSome = true) (m now : Nat) :
    ∃ cs, p.nextMany rules m now = some (cs, now, p.lookedAt m) ∧
      cs.map some = (List.range m).map fun j => p.usable (p.turn j) := by
  induction m generalizing p with
  | zero => exact ⟨[], by rw [nextMany, lookedAt_zero hlooks], rfl⟩
  | succ m ih =>
    obtain ⟨client, hclient⟩ := Option.isSome_iff_exists.mp
      (hall (p.turn 0) (Nat.mod_lt _ hsize))
    have htaken : p.next rules now = some ⟨client, 0, now, p.lookedAt 1⟩ := by
      rw [next, seek_of_first hlooks (fun j hj => absurd hj (Nat.not_lt_zero j)) hclient
        (by decide), Nat.zero_mul]
      rfl
    obtain ⟨cs, hrest, hcs⟩ := ih (p := p.lookedAt 1) (p.looks_lookedAt_lt 1) hsize hall
    refine ⟨client :: cs, ?_, ?_⟩
    · rw [nextMany, htaken]
      simp only [Option.bind_eq_bind, Option.bind_some, hrest]
      rw [lookedAt_lookedAt, Nat.add_comm 1 m]
      rfl
    · rw [List.range_succ_eq_map, List.map_cons, List.map_cons, hcs, hclient, List.map_map]
      congr 1
      exact List.map_congr_left fun j _ => by
        rw [turn_lookedAt, Nat.add_comm]
        rfl

/-! ## Whole rounds -/

/-- In as many turns as there are slots each slot has one. -/
theorem perm_of_round (first n : Nat) :
    ((List.range' first n).map (· % n)).Perm (List.range n) := by
  have h : ((List.range' first (first + n - first)).map (· % n)).Perm (List.range n) :=
    Multiset.coe_eq_coe.mp (Nat.multiset_Ico_map_mod first n)
  rwa [Nat.add_sub_cancel_left] at h

theorem count_of_rounds {α : Type} [BEq α] [LawfulBEq α] (f : Nat → α) (a : α) (first n k : Nat) :
    ((List.range' first (k * n)).map fun i => f (i % n)).count a =
      k * ((List.range n).map f).count a := by
  induction k generalizing first with
  | zero => simp
  | succ k ih =>
    have hround : ((List.range' first n).map fun i => f (i % n)).count a =
        ((List.range n).map f).count a := by
      rw [← (perm_of_round first n).map f |>.count_eq a, List.map_map]
      rfl
    rw [Nat.succ_mul, Nat.add_comm, ← List.range'_append_1, List.map_append, List.count_append,
      hround, ih, Nat.succ_mul, Nat.add_comm]

/-- With a valid client in every slot a client is of use in as many slots as it is in. -/
theorem count_usable (hall : ∀ idx < p.size, (p.usable idx).isSome = true) (client : Nat) :
    ((List.range p.size).map p.usable).count (some client) = p.slotsWith client := by
  have hslots : (List.range p.size).map p.usable = p.slots.map (Option.map (·.client)) := by
    refine List.ext_getElem (by simp [size]) fun idx hidx hidx' => ?_
    have hlt : idx < p.slots.length := by simpa using hidx'
    obtain ⟨found, hfound⟩ := Option.isSome_iff_exists.mp (hall idx hlt)
    obtain ⟨slot, hslot, hclient, -⟩ := usable_eq_some_iff.mp hfound
    rw [List.getElem_map, List.getElem_range, List.getElem_map, hfound]
    rw [List.getElem?_eq_getElem hlt, Option.some.injEq] at hslot
    rw [hslot, ← hclient]
    rfl
  rw [hslots, slotsWith, List.count, List.countP_map]
  refine List.countP_congr fun slot _ => ?_
  cases slot <;> simp [holds]

/-- **Clients are taken in turn.** If some slot has a valid client, a call takes that of the first
such slot in turn, fewer slots than a round away, after one wait for each slot that was passed over,
and leaves the count behind that slot. So does a bounded number of looks that is large enough.

If all slots have valid clients, each call takes the one in its turn at once. Over whole rounds
every client is then taken as many times as there are rounds for each slot that it is in. Only where
the count begins anew may slots be left out, and only if their number does not divide its limit. -/
theorem turns_are_fair (rules : Rules) (now : Nat) (p : Pool) :
    ((∃ idx client, p.usable idx = some client) → p.looks + p.size < lookLimit →
      ∃ d < p.size, ∃ client,
        p.usable ((p.looks + d) % p.size) = some client ∧
        (∀ j < d, p.usable ((p.looks + j) % p.size) = none) ∧
        p.next rules now = some
          ⟨client, d, now + d * rules.retryWait, { p with looks := p.looks + d + 1 }⟩ ∧
        ∀ n, d < n → p.take n = (some client, { p with looks := p.looks + d + 1 })) ∧
    (p.looks < lookLimit → 0 < p.size → (∀ idx < p.size, (p.usable idx).isSome = true) →
      (∀ m, ∃ cs, p.nextMany rules m now = some (cs, now, p.lookedAt m) ∧
        cs.map some =
          (List.range m).map fun j => p.usable ((p.looks + j) % lookLimit % p.size)) ∧
      ∀ k, p.looks + k * p.size ≤ lookLimit ∨ p.size ∣ lookLimit →
        ∃ cs, p.nextMany rules (k * p.size) now = some (cs, now, p.lookedAt (k * p.size)) ∧
          ∀ client, cs.count client = k * p.slotsWith client) := by
  refine ⟨fun ⟨idx, client, hclient⟩ hlimit => ?_, fun hlooks hsize hall => ⟨?_, fun k hk => ?_⟩⟩
  · obtain ⟨d, hd, found, hfound, hpassed⟩ := exists_first hclient
    have hturn : ∀ j ≤ d, p.turn j = (p.looks + j) % p.size := fun j hj => turn_eq (by omega)
    have hpool : p.lookedAt (d + 1) = { p with looks := p.looks + d + 1 } := by
      rw [lookedAt, Nat.mod_eq_of_lt (by omega), Nat.add_assoc]
    refine ⟨d, hd, found, hfound, hpassed, ?_, fun n hn => take_of_first hpassed hfound hn⟩
    rw [next, seek_of_first (by omega) (fun j hj => by rw [hturn j hj.le]; exact hpassed j hj)
      (by rw [hturn d le_rfl]; exact hfound) (by omega), Nat.zero_add, hpool]
  · exact fun m => nextMany_eq rules hlooks hsize hall m now
  · obtain ⟨cs, hcs, hturns⟩ :=
      nextMany_eq rules hlooks hsize hall (k * p.size) now
    -- No turn of these rounds is moved by the limit of the count.
    have hturn : ∀ j < k * p.size, p.turn j = (p.looks + j) % p.size := by
      intro j hj
      rcases hk with hk | hk
      · exact turn_eq (by omega)
      · exact Nat.mod_mod_of_dvd _ hk
    refine ⟨cs, hcs, fun client => ?_⟩
    calc cs.count client
        = (cs.map some).count (some client) :=
          (List.count_map_of_injective cs some (Option.some_injective _) client).symm
      _ = ((List.range' p.looks (k * p.size)).map fun i => p.usable (i % p.size)).count
            (some client) := by
          rw [hturns, List.range'_eq_map_range, List.map_map]
          congr 1
          refine List.map_congr_left fun j hj => ?_
          rw [hturn j (List.mem_range.mp hj)]
          rfl
      _ = k * ((List.range p.size).map p.usable).count (some client) :=
          count_of_rounds p.usable (some client) p.looks p.size k
      _ = k * p.slotsWith client := by rw [count_usable hall]

/-- Two slots are passed over; and two rounds over three slots. -/
theorem turns_are_fair_at_three_slots :
    let p : Pool :=
      { slots := [some ⟨0, 0⟩, none, some ⟨1, 0⟩], looks := 3, clients := [{ valid := false }, {}] }
    let q : Pool :=
      { slots := [some ⟨0, 0⟩, some ⟨1, 0⟩, some ⟨2, 0⟩], looks := 4, clients := [{}, {}, {}] }
    p.next {} 50 = some ⟨1, 2, 250, { p with looks := 6 }⟩ ∧
    ∃ cs, q.nextMany {} 6 50 = some (cs, 50, { q with looks := 10 }) ∧ cs.count 1 = 2 := by
  intro p q
  constructor
  · obtain ⟨d, hd, client, hfound, -, hnext, -⟩ :=
      (turns_are_fair {} 50 p).1 ⟨2, 1, by decide⟩ (by decide)
    have hvain : ∀ j < 2, p.usable ((p.looks + j) % p.size) = none := by decide
    have hvalid : p.usable ((p.looks + 2) % p.size) = some 1 := by decide
    obtain rfl : d = 2 := by
      change d < 3 at hd
      by_contra hne
      rw [hvain d (by omega)] at hfound
      cases hfound
    obtain rfl : 1 = client := Option.some.inj (hvalid.symm.trans hfound)
    exact hnext
  · obtain ⟨-, hrounds⟩ := (turns_are_fair {} 50 q).2 (by decide) (by decide) (by decide)
    obtain ⟨cs, hcs, hcount⟩ := hrounds 2 (.inl (by decide))
    exact ⟨cs, hcs, hcount 1⟩

/-- Where the count begins anew, the first of three slots has two turns in succession. -/
example : (List.range 6).map
      (turn { slots := [none, none, none], looks := lookLimit - 4 }) = [0, 1, 2, 0, 0, 1] := by
  decide

end LogEgress.Ingress.Pool
