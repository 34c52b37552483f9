import LogEgress.Ingress.Pool
import Mathlib.Data.List.Count

set_option autoImplicit false

/-! # The books of a pool

For every client it is counted in how many slots it is, and how often it was closed. What goes into
a slot is one for one with what is taken out (`slotsWith_put`), emptying the slots takes out all
that they held (`count_clear`), and a dial brings a client that there was not before
(`dialOnce_spec`).
-/

namespace LogEgress.Ingress

/-- Whether a slot holds a client. -/
def holds (client : Nat) (slot : Option Slot) : Bool := slot.any (·.client == client)

/-- The client of a slot. -/
def clientIn (slot : Option Slot) : List Nat := slot.toList.map (·.client)

theorem count_clientIn (client : Nat) (slot : Option Slot) :
    (clientIn slot).count client = if holds client slot then 1 else 0 := by
  cases slot with
  | none => rfl
  | some s => simp [clientIn, holds, List.count_singleton]

theorem length_clientIn_le (slot : Option Slot) : (clientIn slot).length ≤ 1 := by
  cases slot with
  | none => exact Nat.zero_le 1
  | some s => exact Nat.le_refl 1

namespace Pool

/-- In how many slots a client is. -/
def slotsWith (client : Nat) (p : Pool) : Nat := p.slots.countP (holds client)

/-- How often a client was closed. -/
def closesOf (client : Nat) (p : Pool) : Nat :=
  match p.clients[client]? with
  | some c => c.closes
  | none => 0

variable {p : Pool} {client idx : Nat}

/-! ## What is left alone -/

theorem length_clients_invalidate (client : Nat) (p : Pool) :
    (p.invalidate client).clients.length = p.clients.length := List.length_modify ..

theorem length_clients_close (client : Nat) (p : Pool) :
    (p.close client).clients.length = p.clients.length := List.length_modify ..

theorem closesOf_invalidate (client other : Nat) (p : Pool) :
    (p.invalidate other).closesOf client = p.closesOf client := by
  simp only [closesOf, invalidate, List.getElem?_modify]
  cases p.clients[client]? with
  | none => rfl
  | some c => by_cases h : other = client <;> simp [h]

/-! ## Closing -/

theorem closesOf_close (client other : Nat) (h : other < p.clients.length) :
    (p.close other).closesOf client =
      p.closesOf client + if other = client then 1 else 0 := by
  simp only [closesOf, close, List.getElem?_modify]
  by_cases hEq : other = client
  · subst hEq
    simp [List.getElem?_eq_getElem h]
  · cases p.clients[client]? <;> simp [hEq]

/-! ## Slots -/

theorem put_fst (h : idx < p.slots.length) (slot : Option Slot) :
    (p.put idx slot).1 = p.slots[idx] := by
  rw [put, List.getElem?_eq_getElem h]
  rfl

/-- **What goes into a slot is one for one with what is taken out.** -/
theorem slotsWith_put (h : idx < p.slots.length) (slot : Option Slot) (client : Nat) :
    (p.put idx slot).2.slotsWith client + (clientIn (p.put idx slot).1).count client =
      p.slotsWith client + (clientIn slot).count client := by
  have hTaken : (if holds client p.slots[idx] then 1 else 0) ≤ p.slots.countP (holds client) :=
    List.boole_getElem_le_countP h
  have hSet : (p.put idx slot).2.slotsWith client = p.slots.countP (holds client) -
      (if holds client p.slots[idx] then 1 else 0) + if holds client slot then 1 else 0 :=
    List.countP_set h
  rw [put_fst h, count_clientIn, count_clientIn, hSet, slotsWith]
  omega

theorem count_clear (p : Pool) (client : Nat) : p.clear.1.count client = p.slotsWith client := by
  rw [clear, slotsWith]
  induction p.slots with
  | nil => rfl
  | cons slot slots ih =>
    rw [List.countP_cons, ← ih]
    cases slot <;> simp [holds, List.count_cons]

theorem slotsWith_clear (p : Pool) (client : Nat) : p.clear.2.slotsWith client = 0 := by
  rw [slotsWith, clear, List.countP_map, List.countP_eq_zero]
  exact fun _ _ => Bool.false_ne_true

/-! ## Dialing -/

theorem dialOnce_of_ok {dial : Dialer} (h : dial p.dials = .ok ()) (now : Nat) :
    p.dialOnce dial now = (.ok ⟨p.clients.length, now⟩,
      { p with dials := p.dials + 1, clients := p.clients ++ [({} : Client)] }) := by
  rw [dialOnce, h]

theorem dialOnce_of_error {dial : Dialer} {e : Error} (h : dial p.dials = .error e) (now : Nat) :
    p.dialOnce dial now = (.error e, { p with dials := p.dials + 1 }) := by
  rw [dialOnce, h]

/-- **What a dial does**: its answer is in turn, and a client that it brings is a new one. -/
theorem dialOnce_spec (dial : Dialer) (now : Nat) (p : Pool) :
    (p.dialOnce dial now).2.slots = p.slots ∧
    (p.dialOnce dial now).2.dials = p.dials + 1 ∧
    (p.dialOnce dial now).1.toOption.isSome = (dial p.dials).isOk ∧
    (∀ slot ∈ (p.dialOnce dial now).1.toOption, slot = ⟨p.clients.length, now⟩) ∧
    List.range (p.dialOnce dial now).2.clients.length =
      List.range p.clients.length ++ clientIn (p.dialOnce dial now).1.toOption := by
  cases h : dial p.dials with
  | error e =>
    rw [dialOnce_of_error h]
    exact ⟨rfl, rfl, rfl, nofun, (List.append_nil _).symm⟩
  | ok u =>
    rw [dialOnce_of_ok h]
    refine ⟨rfl, rfl, rfl, fun slot hSlot => (Option.some.inj hSlot).symm, ?_⟩
    rw [List.length_append, List.length_singleton, List.range_succ]
    rfl

theorem closesOf_dialOnce (dial : Dialer) (now : Nat) (p : Pool) (client : Nat) :
    (p.dialOnce dial now).2.closesOf client = p.closesOf client := by
  unfold dialOnce
  cases dial p.dials with
  | error e => rfl
  | ok u =>
    by_cases h : client < p.clients.length
    · simp only [closesOf, List.getElem?_append_left h]
    · have hLe := Nat.le_of_not_lt h
      simp only [closesOf, List.getElem?_append_right hLe, List.getElem?_eq_none hLe]
      -- A client that was just dialed was not closed.
      cases client - p.clients.length <;> rfl

theorem replace_eq (idx : Nat) (slot : Option Slot) (p : Pool) :
    p.replace idx slot =
      (clientIn (p.put idx slot).1).foldl (fun p c => p.close c) (p.put idx slot).2 := by
  unfold replace
  split
  · next old q hPut =>
    rw [hPut]
    rfl
  · next q hPut =>
    rw [hPut]
    rfl

theorem redial_eq (dial : Dialer) (now idx : Nat) (p : Pool) :
    (p.redial dial now idx).2 =
      (p.dialOnce dial now).2.replace idx (p.dialOnce dial now).1.toOption := by
  unfold redial
  split
  · next slot q hDial =>
    rw [hDial]
    rfl
  · next e q hDial =>
    rw [hDial]
    rfl

/-! ## Looking for a client -/

theorem of_look {found : Nat} (h : p.look.1 = some found) :
    0 < p.slotsWith found ∧ p.isValid found = true := by
  unfold look at h
  split at h
  · next slot hSlot =>
    split at h
    · next hValid =>
      cases h
      refine ⟨List.countP_pos_iff.mpr ⟨some slot, List.mem_of_getElem? hSlot, ?_⟩, hValid⟩
      exact beq_self_eq_true slot.client
    · cases h
  · cases h

/-- **Whoever looks for a client finds one that is in a slot and valid.** -/
theorem of_take {n found : Nat} {q : Pool} (h : p.take n = (some found, q)) :
    0 < p.slotsWith found ∧ p.isValid found = true := by
  induction n generalizing p with
  | zero => cases h
  | succ n ih =>
    unfold take at h
    split at h
    · next c r hLook =>
      cases h
      exact of_look (by rw [hLook])
    · next r hLook =>
      obtain rfl : p.look.2 = r := by rw [hLook]
      exact ih (p := p.look.2) h

/-- Looks that find nothing went over as many slots, in turn. -/
theorem of_take_none {n : Nat} {q : Pool} (h : p.take n = (none, q)) {k : Nat} (hk : k < n)
    {slot : Slot} (hSlot : p.slots[(p.looks + k) % p.size]? = some (some slot)) :
    p.isValid slot.client = false := by
  induction n generalizing p k with
  | zero => cases hk
  | succ n ih =>
    unfold take at h
    split at h
    · cases h
    · next r hLook =>
      obtain rfl : p.look.2 = r := by rw [hLook]
      cases k with
      | zero =>
        by_contra hValid
        rw [Bool.not_eq_false] at hValid
        have hFound : p.look.1 = some slot.client := by
          simp only [look, Nat.add_zero] at hSlot ⊢
          simp only [hSlot, hValid, if_true]
        rw [hLook] at hFound
        cases hFound
      | succ k =>
        refine ih (p := p.look.2) h (Nat.lt_of_succ_lt_succ hk) ?_
        show p.slots[(p.looks + 1 + k) % p.size]? = _
        rwa [Nat.add_assoc, Nat.add_comm 1 k]

/-- The turn at which a slot is looked at, counted from the looks so far. -/
theorem turn_of_slot {size looks idx : Nat} (h : idx < size) :
    (looks + (idx + (size - looks % size)) % size) % size = idx := by
  have hRest : looks % size < size := Nat.mod_lt _ (Nat.zero_lt_of_lt h)
  have hParts : size * (looks / size) + looks % size = looks := Nat.div_add_mod looks size
  have hSum : looks + (idx + (size - looks % size)) = idx + size * (looks / size + 1) := by
    rw [Nat.mul_add, Nat.mul_one]
    omega
  rw [Nat.add_mod_mod, hSum, Nat.add_mul_mod_self_left, Nat.mod_eq_of_lt h]

/-- **As many looks as there are slots find a client, if one of those in the slots is valid.** -/
theorem exists_take {slot : Slot} (hSlot : p.slots[idx]? = some (some slot))
    (hValid : p.isValid slot.client = true) {n : Nat} (hn : p.size ≤ n) :
    ∃ found q, p.take n = (some found, q) := by
  have hIdx : idx < p.size := (List.getElem?_eq_some_iff.mp hSlot).1
  have hPos : 0 < p.size := Nat.zero_lt_of_lt hIdx
  cases hTake : p.take n with
  | mk found q =>
    cases found with
    | some found => exact ⟨found, q, rfl⟩
    | none =>
      have hNot := of_take_none hTake (Nat.lt_of_lt_of_le (Nat.mod_lt _ hPos) hn)
        (by rw [turn_of_slot hIdx]; exact hSlot)
      rw [hValid] at hNot
      cases hNot

theorem lt_of_isValid (h : p.isValid client = true) : client < p.clients.length := by
  by_contra hLt
  rw [isValid, List.getElem?_eq_none (Nat.le_of_not_lt hLt)] at h
  cases h

/-! ## Slots that are due -/

theorem mem_due_iff {lifetime now : Nat} :
    idx ∈ p.due lifetime now ↔
      ∃ slot, p.slots[idx]? = some slot ∧ p.needsDial lifetime now slot = true := by
  simp only [due, List.mem_map, List.mem_filter, Prod.exists, List.mem_zipIdx_iff_getElem?]
  constructor
  · rintro ⟨slot, i, ⟨hSlot, hDue⟩, rfl⟩
    exact ⟨slot, hSlot, hDue⟩
  · rintro ⟨slot, hSlot, hDue⟩
    exact ⟨slot, idx, ⟨hSlot, hDue⟩, rfl⟩

theorem nodup_due (lifetime now : Nat) (p : Pool) : (p.due lifetime now).Nodup := by
  have hAll : (p.slots.zipIdx.map (·.2)).Nodup := by
    rw [List.zipIdx_map_snd]
    exact List.nodup_range'
  exact hAll.sublist (List.filter_sublist.map _)

/-- A slot that is not due has a client that is valid and young enough. -/
theorem of_not_mem_due {lifetime now : Nat} {slot : Slot} (hSlot : p.slots[idx]? = some (some slot))
    (h : idx ∉ p.due lifetime now) :
    p.isValid slot.client = true ∧ now - slot.since < lifetime := by
  have hNot : ¬ p.needsDial lifetime now (some slot) = true := fun hDue =>
    h (mem_due_iff.mpr ⟨some slot, hSlot, hDue⟩)
  simpa [needsDial] using hNot

end Pool

end LogEgress.Ingress
