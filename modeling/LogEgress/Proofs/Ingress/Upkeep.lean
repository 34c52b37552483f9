import LogEgress.Proofs.Ingress.Pool

set_option autoImplicit false

/-! # A pool that is used while it is checked

A check finds out which slots are due, and then dials for them one after the other. While it waits
for a dial, clients are taken, become invalid and grow older. Between any two steps every client is
in exactly one place (`Kept`), and a check that has ended has dialed for the slots that were due
when it began, and left the others as they were (`every_course_keeps_clients`).
-/

namespace LogEgress.Ingress.Pool

/-- A pool with what a check, or the closing of all clients, has still to do. -/
structure Session where
  pool : Pool
  /-- The time, in milliseconds. -/
  now : Nat
  /-- The slots to be dialed for. If nothing else is to be done, the dial for the first one is
  under way. -/
  due : List Nat := []
  /-- What a dial brought, until it is in its slot. -/
  brought : Option (Nat × Option Slot) := none
  /-- Clients that were taken out of slots, until they are closed. -/
  retired : List Nat := []
  /-- The slots that were dialed for, and what each dial brought. -/
  dialed : List (Nat × Option Slot) := []

namespace Session

/-- An empty pool with a number of slots, or with one. -/
def start (size now : Nat) : Session := { pool := ofSize size, now }

/-- Nothing is left to be done. -/
def Idle (s : Session) : Prop := s.due = [] ∧ s.brought = none ∧ s.retired = []

instance (s : Session) : Decidable s.Idle :=
  inferInstanceAs (Decidable (s.due = [] ∧ s.brought = none ∧ s.retired = []))

/-- The clients that are on the way into a slot, or out of one. -/
def hand (s : Session) : List Nat := s.brought.toList.flatMap (fun x => clientIn x.2) ++ s.retired

/-- The next step of a check or of the closing of all clients. What a dial brought goes into its
slot, and the client that was there is closed, before the next dial. -/
def proceed (dial : Dialer) (s : Session) : Session :=
  match s.brought, s.retired, s.due with
  | some (idx, slot), retired, _ =>
    let (old, p) := s.pool.put idx slot
    { s with pool := p, brought := none, retired := clientIn old ++ retired }
  | none, client :: retired, _ => { s with pool := s.pool.close client, retired := retired }
  | none, [], idx :: due =>
    let (answer, p) := s.pool.dialOnce dial s.now
    { s with
      pool := p
      due := due
      brought := some (idx, answer.toOption)
      dialed := s.dialed ++ [(idx, answer.toOption)] }
  | none, [], [] => s

/-- What happens to a pool. -/
inductive Move where
  /-- Someone looks for a client in the next slot. -/
  | look
  | invalidate (client : Nat)
  | pass (time : Nat)
  /-- A check begins. -/
  | check
  /-- The closing of all clients begins. -/
  | closeAll
  /-- What began takes a step. -/
  | proceed
  deriving DecidableEq

/-- Whether something begins that takes several steps. -/
def Move.Begins (m : Move) : Prop := m = .check ∨ m = .closeAll

/-- A move. Nothing begins before what began is done. -/
def move (dial : Dialer) (lifetime : Nat) (s : Session) : Move → Session
  | .look => { s with pool := s.pool.look.2 }
  | .invalidate client => { s with pool := s.pool.invalidate client }
  | .pass time => { s with now := s.now + time }
  | .check => if s.Idle then { s with due := s.pool.due lifetime s.now } else s
  | .closeAll =>
    if s.Idle then { s with pool := s.pool.clear.2, retired := s.pool.clear.1 } else s
  | .proceed => s.proceed dial

/-- A number of moves. -/
def run (dial : Dialer) (lifetime : Nat) (s : Session) (moves : List Move) : Session :=
  moves.foldl (move dial lifetime) s

variable {dial : Dialer} {lifetime size : Nat} {s : Session}

/-! ## Every client in one place -/

/-- What is true between any two moves. -/
structure Kept (dial : Dialer) (size : Nat) (s : Session) : Prop where
  size_eq : s.pool.slots.length = max 1 size
  due_lt : ∀ i ∈ s.due, i < s.pool.slots.length
  brought_lt : ∀ x ∈ s.brought, x.1 < s.pool.slots.length
  /-- A client that was dialed is in one slot, or on the way, or was closed once. -/
  count_eq : ∀ c, s.pool.slotsWith c + s.hand.count c + s.pool.closesOf c =
    if c < s.pool.clients.length then 1 else 0
  /-- The dials are answered in turn. -/
  answers_eq : s.dialed.map (·.2.isSome) = (List.range s.pool.dials).map fun n => (dial n).isOk
  /-- Each client was brought by one dial. -/
  clients_eq : s.dialed.filterMap (·.2.map (·.client)) = List.range s.pool.clients.length

theorem kept_start (dial : Dialer) (size now : Nat) : Kept dial size (start size now) where
  size_eq := List.length_replicate
  due_lt := nofun
  brought_lt := nofun
  count_eq c := by
    have hSlots : (ofSize size).slotsWith c = 0 := by
      rw [slotsWith, ofSize, List.countP_replicate]
      rfl
    show (ofSize size).slotsWith c + 0 + 0 = 0
    rw [hSlots]
  answers_eq := rfl
  clients_eq := rfl

theorem Kept.invalidate (h : Kept dial size s) (client : Nat) :
    Kept dial size { s with pool := s.pool.invalidate client } := by
  have hLength := length_clients_invalidate client s.pool
  exact { h with
    count_eq := fun c => by
      rw [closesOf_invalidate, hLength]
      exact h.count_eq c
    clients_eq := by
      rw [hLength]
      exact h.clients_eq }

/-- What a dial brought goes into its slot. -/
theorem Kept.place (h : Kept dial size s) {idx : Nat} {slot : Option Slot}
    (hb : s.brought = some (idx, slot)) :
    Kept dial size { s with
      pool := (s.pool.put idx slot).2
      brought := none
      retired := clientIn (s.pool.put idx slot).1 ++ s.retired } := by
  have hLength : (s.pool.put idx slot).2.slots.length = s.pool.slots.length := List.length_set ..
  have hIdx : idx < s.pool.slots.length := h.brought_lt _ hb
  refine ⟨hLength.trans h.size_eq, fun i hi => hLength ▸ h.due_lt i hi, nofun, fun c => ?_,
    h.answers_eq, h.clients_eq⟩
  have hCount := h.count_eq c
  have hPut := slotsWith_put hIdx slot c
  have hCloses : (s.pool.put idx slot).2.closesOf c = s.pool.closesOf c := rfl
  have hClients : (s.pool.put idx slot).2.clients = s.pool.clients := rfl
  simp only [hand, hb, Option.toList, List.flatMap_nil, List.flatMap_singleton, List.nil_append,
    List.count_append, hCloses, hClients] at hCount ⊢
  omega

theorem Kept.retire (h : Kept dial size s) (hb : s.brought = none) {client : Nat}
    {retired : List Nat} (hr : s.retired = client :: retired) :
    Kept dial size { s with pool := s.pool.close client, retired := retired } := by
  have hLength := length_clients_close client s.pool
  -- A client on the way was dialed.
  have hLt : client < s.pool.clients.length := by
    by_contra hLt
    have hCount := h.count_eq client
    rw [if_neg hLt] at hCount
    simp [hand, hr] at hCount
  refine ⟨h.size_eq, h.due_lt, h.brought_lt, fun c => ?_, h.answers_eq, ?_⟩
  · have hCount := h.count_eq c
    have hSlots : (s.pool.close client).slotsWith c = s.pool.slotsWith c := rfl
    rw [closesOf_close c client hLt, hLength, hSlots, ← hCount]
    simp only [hand, hb, hr, Option.toList, List.flatMap_nil, List.nil_append, List.count_cons,
      beq_iff_eq]
    omega
  · rw [hLength]
    exact h.clients_eq

/-- A dial ends. -/
theorem Kept.answer (h : Kept dial size s) (hb : s.brought = none) {idx : Nat} {due : List Nat}
    (hd : s.due = idx :: due) :
    Kept dial size { s with
      pool := (s.pool.dialOnce dial s.now).2
      due := due
      brought := some (idx, (s.pool.dialOnce dial s.now).1.toOption)
      dialed := s.dialed ++ [(idx, (s.pool.dialOnce dial s.now).1.toOption)] } := by
  have hDue : idx < s.pool.slots.length ∧ ∀ i ∈ due, i < s.pool.slots.length :=
    List.forall_mem_cons.mp (hd ▸ h.due_lt)
  have hCloses := closesOf_dialOnce dial s.now s.pool
  obtain ⟨hSlots, hDials, hAnswer, -, hClients⟩ := dialOnce_spec dial s.now s.pool
  generalize s.pool.dialOnce dial s.now = dialed at hCloses hSlots hDials hAnswer hClients ⊢
  obtain ⟨answer, p⟩ := dialed
  simp only at hCloses hSlots hDials hAnswer hClients
  refine ⟨hSlots ▸ h.size_eq, hSlots ▸ hDue.2, fun x hx => ?_, fun c => ?_, ?_, ?_⟩
  · cases hx
    exact hSlots ▸ hDue.1
  · -- The client is new, and now it is on the way.
    have hCount := h.count_eq c
    have hNew : (if c < p.clients.length then 1 else 0) =
        (if c < s.pool.clients.length then 1 else 0) + (clientIn answer.toOption).count c := by
      rw [← List.count_range, ← List.count_range, hClients, List.count_append]
    have hSlotsWith : p.slotsWith c = s.pool.slotsWith c := by rw [slotsWith, hSlots, slotsWith]
    simp only [hand, hb, Option.toList, List.flatMap_nil, List.flatMap_singleton, List.nil_append,
      List.count_append, hCloses, hSlotsWith, hNew] at hCount ⊢
    omega
  · simp only [List.map_append, List.map_singleton, h.answers_eq, hAnswer, hDials, List.range_succ]
  · have hBrought : [(idx, answer.toOption)].filterMap (·.2.map (·.client)) =
        clientIn answer.toOption := by
      cases answer.toOption <;> rfl
    rw [List.filterMap_append, h.clients_eq, hBrought, hClients]

theorem Kept.proceed (h : Kept dial size s) : Kept dial size (s.proceed dial) := by
  unfold Session.proceed
  split
  · next hb => exact h.place hb
  · next hb hr => exact h.retire hb hr
  · next hb _ hd => exact h.answer hb hd
  · exact h

theorem Kept.check (h : Kept dial size s) (lifetime : Nat) :
    Kept dial size { s with due := s.pool.due lifetime s.now } := by
  have hDue : ∀ i ∈ s.pool.due lifetime s.now, i < s.pool.slots.length := by
    intro i hi
    obtain ⟨slot, hSlot, -⟩ := mem_due_iff.mp hi
    exact (List.getElem?_eq_some_iff.mp hSlot).1
  exact { h with due_lt := hDue }

/-- The slots are emptied, and their clients are on the way out. -/
theorem Kept.clear (h : Kept dial size s) (hIdle : s.Idle) :
    Kept dial size { s with pool := s.pool.clear.2, retired := s.pool.clear.1 } := by
  obtain ⟨hd, hb, hr⟩ := hIdle
  have hLength : s.pool.clear.2.slots.length = s.pool.slots.length := List.length_map ..
  refine ⟨hLength.trans h.size_eq, fun i hi => hLength ▸ h.due_lt i hi,
    fun x hx => hLength ▸ h.brought_lt x hx, fun c => ?_, h.answers_eq, h.clients_eq⟩
  have hCount := h.count_eq c
  have hCloses : s.pool.clear.2.closesOf c = s.pool.closesOf c := rfl
  have hClients : s.pool.clear.2.clients = s.pool.clients := rfl
  rw [slotsWith_clear, hCloses, hClients, ← hCount]
  simp only [hand, hb, hr, Option.toList, List.flatMap_nil, List.nil_append, List.count_nil,
    count_clear, Nat.zero_add, Nat.add_zero]

theorem Kept.move (h : Kept dial size s) (lifetime : Nat) (m : Move) :
    Kept dial size (s.move dial lifetime m) := by
  cases m with
  | look => exact { h with }
  | invalidate client => exact h.invalidate client
  | pass time => exact { h with }
  | check =>
    by_cases hIdle : s.Idle
    · rw [Session.move, if_pos hIdle]
      exact h.check lifetime
    · rw [Session.move, if_neg hIdle]
      exact h
  | closeAll =>
    by_cases hIdle : s.Idle
    · rw [Session.move, if_pos hIdle]
      exact h.clear hIdle
    · rw [Session.move, if_neg hIdle]
      exact h
  | proceed => exact h.proceed

theorem Kept.run (h : Kept dial size s) (lifetime : Nat) (moves : List Move) :
    Kept dial size (s.run dial lifetime moves) := by
  induction moves generalizing s with
  | nil => exact h
  | cons m moves ih => exact ih (h.move lifetime m)

/-! ## What a check has done -/

/-- The slots as they are once what a dial brought is in its slot. -/
def settled (s : Session) : List (Option Slot) :=
  match s.brought with
  | some (idx, slot) => s.pool.slots.set idx slot
  | none => s.pool.slots

/-- What a check, that began in a session, has done so far: the dials of `log`. -/
structure Checking (lifetime : Nat) (began : Session) (log : List (Nat × Option Slot))
    (s : Session) : Prop where
  dialed_eq : s.dialed = began.dialed ++ log
  due_eq : log.map (·.1) ++ s.due = began.pool.due lifetime began.now
  length_eq : s.settled.length = began.pool.slots.length
  settled_of_mem : ∀ x ∈ log, s.settled[x.1]? = some x.2
  settled_of_not_mem : ∀ i, i ∉ log.map (·.1) → s.settled[i]? = began.pool.slots[i]?
  now_le : began.now ≤ s.now
  clients_le : began.pool.clients.length ≤ s.pool.clients.length
  /-- Whatever a dial brought is new. -/
  fresh : ∀ x ∈ log, ∀ slot ∈ x.2, began.pool.clients.length ≤ slot.client ∧
    began.now ≤ slot.since ∧ slot.since ≤ s.now

variable {began : Session} {log : List (Nat × Option Slot)}

theorem checking_of_idle (hIdle : s.Idle) (lifetime : Nat) :
    Checking lifetime s [] { s with due := s.pool.due lifetime s.now } := by
  have hSettled : Session.settled { s with due := s.pool.due lifetime s.now } = s.pool.slots := by
    simp only [settled, hIdle.2.1]
  exact {
    dialed_eq := (List.append_nil _).symm
    due_eq := rfl
    length_eq := by rw [hSettled]
    settled_of_mem := nofun
    settled_of_not_mem := fun i _ => by rw [hSettled]
    now_le := Nat.le_refl _
    clients_le := Nat.le_refl _
    fresh := nofun }

/-- A dial ends: its slot was not dialed for before, and will hold what it brought. -/
theorem Checking.answer (h : Checking lifetime began log s) (hb : s.brought = none) {idx : Nat}
    {due : List Nat} (hd : s.due = idx :: due) (dial : Dialer) :
    Checking lifetime began (log ++ [(idx, (s.pool.dialOnce dial s.now).1.toOption)]) { s with
      pool := (s.pool.dialOnce dial s.now).2
      due := due
      brought := some (idx, (s.pool.dialOnce dial s.now).1.toOption)
      dialed := s.dialed ++ [(idx, (s.pool.dialOnce dial s.now).1.toOption)] } := by
  obtain ⟨hSlots, -, -, hNew, hRange⟩ := dialOnce_spec dial s.now s.pool
  generalize s.pool.dialOnce dial s.now = dialed at hSlots hNew hRange ⊢
  obtain ⟨answer, p⟩ := dialed
  simp only at hSlots hNew hRange
  have hClients : s.pool.clients.length ≤ p.clients.length := by
    have hLength := congrArg List.length hRange
    rw [List.length_append, List.length_range, List.length_range] at hLength
    omega
  have hDue := h.due_eq
  rw [hd] at hDue
  have hSettled : s.settled = s.pool.slots := by rw [settled, hb]
  have hIdx : idx < p.slots.length := by
    rw [hSlots, ← hSettled, h.length_eq]
    have hMem : idx ∈ began.pool.due lifetime began.now := hDue ▸ by simp
    obtain ⟨slot, hSlot, -⟩ := mem_due_iff.mp hMem
    exact (List.getElem?_eq_some_iff.mp hSlot).1
  have hOnce : idx ∉ log.map (·.1) := by
    have hNodup := hDue ▸ nodup_due lifetime began.now began.pool
    exact fun hMem => (List.nodup_append.mp hNodup).2.2 idx hMem idx List.mem_cons_self rfl
  have hSlotsSet : ∀ i, i ≠ idx → (p.slots.set idx answer.toOption)[i]? = s.settled[i]? := by
    intro i hi
    rw [List.getElem?_set_ne (Ne.symm hi), hSettled, hSlots]
  refine ⟨?_, ?_, ?_, fun x hx => ?_, fun i hi => ?_, h.now_le,
    Nat.le_trans h.clients_le hClients, fun x hx slot hSlot => ?_⟩
  · rw [h.dialed_eq, List.append_assoc]
  · rw [← hDue, List.map_append, List.append_assoc]
    rfl
  · rw [← h.length_eq, hSettled, ← hSlots]
    exact List.length_set ..
  · rcases List.mem_append.mp hx with hx | hx
    · have hNe : x.1 ≠ idx := fun hEq => hOnce (hEq ▸ List.mem_map_of_mem hx)
      exact (hSlotsSet _ hNe).trans (h.settled_of_mem x hx)
    · rw [List.mem_singleton.mp hx]
      exact List.getElem?_set_self hIdx
  · rw [List.map_append, List.mem_append, not_or] at hi
    have hNe : i ≠ idx := fun hEq => hi.2 (List.mem_singleton.mpr hEq)
    exact (hSlotsSet i hNe).trans (h.settled_of_not_mem i hi.1)
  · rcases List.mem_append.mp hx with hx | hx
    · exact h.fresh x hx slot hSlot
    · obtain rfl := List.mem_singleton.mp hx
      rw [hNew slot hSlot]
      exact ⟨h.clients_le, h.now_le, Nat.le_refl _⟩

/-- Whatever dials nothing, and leaves the slots as they will be, leaves what the check has done. -/
theorem Checking.congr (h : Checking lifetime began log s) {t : Session}
    (hDialed : t.dialed = s.dialed) (hDue : t.due = s.due) (hSettled : t.settled = s.settled)
    (hNow : s.now ≤ t.now) (hClients : s.pool.clients.length ≤ t.pool.clients.length) :
    Checking lifetime began log t where
  dialed_eq := hDialed.trans h.dialed_eq
  due_eq := hDue ▸ h.due_eq
  length_eq := hSettled ▸ h.length_eq
  settled_of_mem := hSettled ▸ h.settled_of_mem
  settled_of_not_mem := hSettled ▸ h.settled_of_not_mem
  now_le := Nat.le_trans h.now_le hNow
  clients_le := Nat.le_trans h.clients_le hClients
  fresh x hx slot hSlot := by
    obtain ⟨hClient, hFrom, hTo⟩ := h.fresh x hx slot hSlot
    exact ⟨hClient, hFrom, Nat.le_trans hTo hNow⟩

theorem Checking.proceed (h : Checking lifetime began log s) (dial : Dialer) :
    ∃ log, Checking lifetime began log (s.proceed dial) := by
  unfold Session.proceed
  split
  · next idx slot hb =>
    -- What goes into its slot was counted as being there.
    have hSettled : s.settled = s.pool.slots.set idx slot := by rw [settled, hb]
    exact ⟨log, h.congr rfl rfl hSettled.symm (Nat.le_refl _) (Nat.le_refl _)⟩
  · next client retired hb hr =>
    have hLength := length_clients_close client s.pool
    exact ⟨log, h.congr rfl rfl rfl (Nat.le_refl _) (Nat.le_of_eq hLength.symm)⟩
  · next idx due hb hr hd => exact ⟨_, h.answer hb hd dial⟩
  · exact ⟨log, h⟩

theorem Checking.move (h : Checking lifetime began log s) (dial : Dialer) {m : Move}
    (hm : ¬ m.Begins) : ∃ log, Checking lifetime began log (s.move dial lifetime m) := by
  cases m with
  | look => exact ⟨log, h.congr rfl rfl rfl (Nat.le_refl _) (Nat.le_refl _)⟩
  | invalidate client =>
    have hLength := length_clients_invalidate client s.pool
    exact ⟨log, h.congr rfl rfl rfl (Nat.le_refl _) (Nat.le_of_eq hLength.symm)⟩
  | pass time => exact ⟨log, h.congr rfl rfl rfl (Nat.le_add_right _ _) (Nat.le_refl _)⟩
  | check => exact absurd (.inl rfl) hm
  | closeAll => exact absurd (.inr rfl) hm
  | proceed => exact h.proceed dial

theorem Checking.run (h : Checking lifetime began log s) (dial : Dialer) {moves : List Move}
    (hm : ∀ m ∈ moves, ¬ m.Begins) :
    ∃ log, Checking lifetime began log (s.run dial lifetime moves) := by
  induction moves generalizing s log with
  | nil => exact ⟨log, h⟩
  | cons m moves ih =>
    obtain ⟨hFirst, hRest⟩ := List.forall_mem_cons.mp hm
    obtain ⟨log', h'⟩ := h.move dial hFirst
    exact ih h' hRest

/-! ## What is left to be done -/

/-- How many steps are left at most: a dial, its slot and a client that is closed for each slot
that is due. -/
def work (s : Session) : Nat :=
  3 * s.due.length + 2 * s.brought.toList.length + s.retired.length

theorem idle_iff_work : s.Idle ↔ s.work = 0 := by
  have hDue : 3 * s.due.length = 0 ↔ s.due = [] := by
    rw [← List.length_eq_zero_iff]
    omega
  have hBrought : 2 * s.brought.toList.length = 0 ↔ s.brought = none := by
    rw [← Option.toList_eq_nil_iff, ← List.length_eq_zero_iff]
    omega
  rw [work, Nat.add_eq_zero_iff, Nat.add_eq_zero_iff, hDue, hBrought, List.length_eq_zero_iff,
    and_assoc, Idle]

theorem work_proceed (dial : Dialer) (s : Session) : (s.proceed dial).work ≤ s.work - 1 := by
  unfold Session.proceed
  split
  · next idx slot hb =>
    have hOld := length_clientIn_le (s.pool.put idx slot).1
    simp only [work, hb, Option.toList, List.length_append, List.length_nil, List.length_singleton]
    omega
  · next hb hr =>
    simp only [work, hr, List.length_cons]
    omega
  · next hb hr hd =>
    simp only [work, hb, hr, hd, Option.toList, List.length_cons, List.length_nil]
    omega
  · next hb hr hd =>
    have hNone : s.work = 0 := idle_iff_work.mp ⟨hd, hb, hr⟩
    omega

theorem work_run (dial : Dialer) (lifetime : Nat) (s : Session) {moves : List Move}
    (hm : ∀ m ∈ moves, ¬ m.Begins) :
    (s.run dial lifetime moves).work ≤ s.work - moves.count .proceed := by
  induction moves generalizing s with
  | nil => exact Nat.le_refl _
  | cons m moves ih =>
    obtain ⟨hFirst, hRest⟩ := List.forall_mem_cons.mp hm
    have hMove : (s.move dial lifetime m).work ≤ s.work - if m = .proceed then 1 else 0 := by
      cases m with
      | proceed => exact work_proceed dial s
      | check => exact absurd (.inl rfl) hFirst
      | closeAll => exact absurd (.inr rfl) hFirst
      | look | invalidate | pass => exact Nat.le_refl _
    have hRun := ih (s.move dial lifetime m) hRest
    rw [List.count_cons]
    simp only [beq_iff_eq]
    show ((s.move dial lifetime m).run dial lifetime moves).work ≤ _
    omega

/-- Where nothing is to be dialed for, the slots stay as they are. -/
theorem slots_run_of_not_due (dial : Dialer) (lifetime : Nat) (hd : s.due = [])
    (hb : s.brought = none) {moves : List Move} (hm : ∀ m ∈ moves, ¬ m.Begins) :
    (s.run dial lifetime moves).pool.slots = s.pool.slots := by
  induction moves generalizing s with
  | nil => rfl
  | cons m moves ih =>
    obtain ⟨hFirst, hRest⟩ := List.forall_mem_cons.mp hm
    have hMove : (s.move dial lifetime m).due = [] ∧ (s.move dial lifetime m).brought = none ∧
        (s.move dial lifetime m).pool.slots = s.pool.slots := by
      cases m with
      | proceed =>
        simp only [Session.move, Session.proceed, hd, hb]
        split
        · next hNot => cases hNot
        · exact ⟨rfl, rfl, rfl⟩
        · next hNot => cases hNot
        · exact ⟨hd, hb, rfl⟩
      | check => exact absurd (.inl rfl) hFirst
      | closeAll => exact absurd (.inr rfl) hFirst
      | look | invalidate | pass => exact ⟨hd, hb, rfl⟩
    exact (ih hMove.1 hMove.2.1 hRest).trans hMove.2.2

/-! ## Undisturbed -/

theorem run_append (dial : Dialer) (lifetime : Nat) (s : Session) (moves more : List Move) :
    s.run dial lifetime (moves ++ more) = (s.run dial lifetime moves).run dial lifetime more :=
  List.foldl_append

/-- Clients on their way out are closed one after the other. -/
theorem run_retired (dial : Dialer) (lifetime : Nat) (hb : s.brought = none) :
    s.run dial lifetime (List.replicate s.retired.length .proceed) =
      { s with pool := s.retired.foldl (fun p c => p.close c) s.pool, retired := [] } := by
  obtain ⟨pool, now, due, brought, retired, dialed⟩ := s
  obtain rfl : brought = none := hb
  induction retired generalizing pool with
  | nil => rfl
  | cons c retired ih => exact ih (pool.close c)

/-- Undisturbed, the steps for one slot are what dialing for it does. -/
theorem exists_run_slot (dial : Dialer) (lifetime : Nat) (hb : s.brought = none)
    (hr : s.retired = []) {idx : Nat} {due : List Nat} (hd : s.due = idx :: due) :
    ∃ n log, s.run dial lifetime (List.replicate n .proceed) = { s with
      pool := (s.pool.redial dial s.now idx).2
      due := due
      dialed := s.dialed ++ log } := by
  obtain ⟨pool, now, _, _, _, dialed⟩ := s
  subst hb hr hd
  rw [redial_eq, replace_eq]
  generalize hAnswer : pool.dialOnce dial now = answered
  obtain ⟨answer, p⟩ := answered
  generalize hPut : p.put idx answer.toOption = taken
  obtain ⟨old, q⟩ := taken
  refine ⟨2 + (clientIn old).length, [(idx, answer.toOption)], ?_⟩
  have hTwo : Session.run dial lifetime ⟨pool, now, idx :: due, none, [], dialed⟩
      (List.replicate 2 .proceed) =
      ⟨q, now, due, none, clientIn old, dialed ++ [(idx, answer.toOption)]⟩ := by
    simp only [run, List.replicate, List.foldl_cons, List.foldl_nil, Session.move, Session.proceed,
      hAnswer, hPut, List.append_nil]
  rw [← List.replicate_append_replicate, run_append, hTwo]
  exact run_retired (s := ⟨q, now, due, none, clientIn old, _⟩) dial lifetime rfl

theorem exists_run_due (dial : Dialer) (lifetime : Nat) (hb : s.brought = none)
    (hr : s.retired = []) :
    ∃ n log, s.run dial lifetime (List.replicate n .proceed) = { s with
      pool := (redialAll dial s.now s.due s.pool).2
      due := []
      dialed := s.dialed ++ log } := by
  generalize hd : s.due = due
  induction due generalizing s with
  | nil =>
    refine ⟨0, [], ?_⟩
    rw [List.append_nil]
    obtain ⟨pool, now, _, brought, retired, dialed⟩ := s
    subst hd
    rfl
  | cons idx due ih =>
    obtain ⟨n, log, hSlot⟩ := exists_run_slot dial lifetime hb hr hd
    obtain ⟨m, more, hRest⟩ := ih (s := { s with
      pool := (s.pool.redial dial s.now idx).2
      due := due
      dialed := s.dialed ++ log }) hb hr rfl
    refine ⟨n + m, log ++ more, ?_⟩
    calc s.run dial lifetime (List.replicate (n + m) .proceed)
        = (s.run dial lifetime (List.replicate n .proceed)).run dial lifetime
            (List.replicate m .proceed) := by
          rw [← List.replicate_append_replicate, run_append]
      _ = { s with
            pool := (redialAll dial s.now due (s.pool.redial dial s.now idx).2).2
            due := []
            dialed := (s.dialed ++ log) ++ more } := by rw [hSlot, hRest]
      _ = { s with
            pool := (redialAll dial s.now (idx :: due) s.pool).2
            due := []
            dialed := s.dialed ++ (log ++ more) } := by
          rw [List.append_assoc]
          rfl

/-- An undisturbed check does what `Pool.check` does. -/
theorem exists_run_check (dial : Dialer) (lifetime : Nat) (hIdle : s.Idle) :
    ∃ n log, s.run dial lifetime (.check :: List.replicate n .proceed) =
      { s with pool := (s.pool.check dial lifetime s.now).2, dialed := s.dialed ++ log } := by
  obtain ⟨n, log, hRun⟩ := exists_run_due dial lifetime
    (s := { s with due := s.pool.due lifetime s.now }) hIdle.2.1 hIdle.2.2
  refine ⟨n, log, ?_⟩
  show (s.move dial lifetime .check).run dial lifetime _ = _
  rw [Session.move, if_pos hIdle, hRun, Pool.check, ← hIdle.1]

/-- Undisturbed checks at the ticks of a ticker, up to a time, do what `Pool.checks` does. -/
theorem exists_run_checks (dial : Dialer) (lifetime n : Nat) {t : Ticker} {time : Nat}
    (hIdle : s.Idle) (hDue : s.now ≤ t.due) (hTime : s.now ≤ time)
    (hTicks : ∀ k < n, t.due + k * t.period ≤ time) :
    ∃ moves log, s.run dial lifetime moves =
      { s with
        pool := (s.pool.checks dial lifetime n t).2, now := time, dialed := s.dialed ++ log } := by
  induction n generalizing s t with
  | zero =>
    refine ⟨[.pass (time - s.now)], [], ?_⟩
    rw [run, List.foldl_cons, List.foldl_nil, move, Nat.add_sub_cancel' hTime, List.append_nil]
    rfl
  | succ n ih =>
    -- Time passes until the tick, the check is made, and then the others.
    obtain ⟨steps, log, hCheck⟩ :=
      exists_run_check dial lifetime (s := { s with now := t.due }) hIdle
    have hFirst : t.due ≤ time := by simpa using hTicks 0 (Nat.succ_pos n)
    obtain ⟨moves, more, hRest⟩ := ih
      (s := { s with
        pool := (s.pool.check dial lifetime t.due).2, now := t.due, dialed := s.dialed ++ log })
      (t := t.next) hIdle (Nat.le_add_right ..) hFirst fun k hk => by
        have hTick := hTicks (k + 1) (Nat.succ_lt_succ hk)
        rw [Nat.succ_mul] at hTick
        show t.due + t.period + k * t.period ≤ time
        omega
    refine ⟨.pass (t.due - s.now) :: (.check :: List.replicate steps .proceed) ++ moves,
      log ++ more, ?_⟩
    rw [run_append]
    have hTick : s.run dial lifetime (.pass (t.due - s.now) :: .check ::
        List.replicate steps .proceed) = { s with
          pool := (s.pool.check dial lifetime t.due).2
          now := t.due
          dialed := s.dialed ++ log } := by
      rw [← hCheck, run, List.foldl_cons, move, Nat.add_sub_cancel' hDue]
      rfl
    rw [hTick, hRest, List.append_assoc]
    rfl

/-- Closing all clients undisturbed does what `Pool.closeAll` does. -/
theorem exists_run_closeAll (dial : Dialer) (lifetime : Nat) (hIdle : s.Idle) :
    ∃ n, s.run dial lifetime (.closeAll :: List.replicate n .proceed) =
      { s with pool := s.pool.closeAll } := by
  refine ⟨s.pool.clear.1.length, ?_⟩
  show (s.move dial lifetime .closeAll).run dial lifetime _ = _
  rw [Session.move, if_pos hIdle]
  refine (run_retired (s := { s with
    pool := s.pool.clear.2, retired := s.pool.clear.1 }) dial lifetime hIdle.2.1).trans ?_
  rw [Pool.closeAll, ← hIdle.2.2]

/-! ## Every course -/

/-- Nothing is on the way into a slot or out of one: at most dials are left to be done. -/
def Waiting (s : Session) : Prop := s.brought = none ∧ s.retired = []

/-- A client is in one slot and was never closed, or it is in none and was closed once. -/
def InOnePlace (s : Session) (c : Nat) : Prop :=
  s.pool.slotsWith c = 1 ∧ s.pool.closesOf c = 0 ∨ s.pool.slotsWith c = 0 ∧ s.pool.closesOf c = 1

/-- What a check that began in a session has done when it ended in another: the dials of `log`. -/
structure Checked (lifetime : Nat) (began ended : Session) (log : List (Nat × Option Slot)) :
    Prop where
  dialed_eq : ended.dialed = began.dialed ++ log
  /-- No slot was dialed for twice. -/
  nodup : (log.map (·.1)).Nodup
  /-- The slots that were dialed for are those that needed it when the check began. -/
  mem_iff : ∀ i, i ∈ log.map (·.1) ↔ ∃ slot, began.pool.slots[i]? = some slot ∧
    began.pool.needsDial lifetime began.now slot = true
  /-- Empty are the slots whose dials failed. -/
  empty_iff : ∀ i, ended.pool.slots[i]? = some none ↔ (i, none) ∈ log
  /-- The others hold what their dials brought, or what they held when the check began. -/
  filled : ∀ i slot, ended.pool.slots[i]? = some (some slot) →
    ((i, some slot) ∈ log ∧ began.pool.clients.length ≤ slot.client ∧
      began.now ≤ slot.since ∧ slot.since ≤ ended.now) ∨
    (began.pool.slots[i]? = some (some slot) ∧ began.pool.isValid slot.client = true ∧
      began.now - slot.since < lifetime)

theorem Checking.checked (h : Checking lifetime began log s) (hIdle : s.Idle) :
    Checked lifetime began s log := by
  have hDue : log.map (·.1) = began.pool.due lifetime began.now := by
    rw [← h.due_eq, hIdle.1, List.append_nil]
  have hSettled : s.settled = s.pool.slots := by rw [settled, hIdle.2.1]
  have hMem := hSettled ▸ h.settled_of_mem
  have hNotMem := hSettled ▸ h.settled_of_not_mem
  refine ⟨h.dialed_eq, hDue ▸ nodup_due .., fun i => hDue ▸ mem_due_iff, fun i => ⟨fun hi => ?_,
    fun hi => hMem (i, none) hi⟩, fun i slot hi => ?_⟩
  · by_cases hDialed : i ∈ log.map (·.1)
    · obtain ⟨⟨j, slot⟩, hLog, rfl⟩ := List.mem_map.mp hDialed
      obtain rfl : slot = none := Option.some.inj ((hMem _ hLog).symm.trans hi)
      exact hLog
    · -- A slot that was empty when the check began was due.
      rw [hNotMem i hDialed] at hi
      exact absurd (hDue ▸ mem_due_iff.mpr ⟨none, hi, rfl⟩) hDialed
  · by_cases hDialed : i ∈ log.map (·.1)
    · obtain ⟨⟨j, slot'⟩, hLog, rfl⟩ := List.mem_map.mp hDialed
      obtain rfl : slot' = some slot := Option.some.inj ((hMem _ hLog).symm.trans hi)
      exact .inl ⟨hLog, h.fresh _ hLog slot rfl⟩
    · rw [hNotMem i hDialed] at hi
      exact .inr ⟨hi, of_not_mem_due hi (hDue ▸ hDialed)⟩

/-- What is true of a session between any two moves, and of every check that begins in it. -/
structure Orderly (dial : Dialer) (lifetime size : Nat) (s : Session) : Prop where
  size_eq : s.pool.size = max 1 size
  /-- The dials are answered in turn. -/
  answers_eq : s.dialed.map (·.2.isSome) = (List.range s.pool.dials).map fun n => (dial n).isOk
  /-- Each client was brought by one dial. -/
  clients_eq : s.dialed.filterMap (·.2.map (·.client)) = List.range s.pool.clients.length
  /-- While a dial is under way, and while nothing is, every client is in one place. -/
  inOnePlace : s.Waiting → ∀ c < s.pool.clients.length, s.InOnePlace c
  /-- Between the steps that exchange clients, one may also be on the way. -/
  inPlaceOrHand : ∀ c < s.pool.clients.length, (s.InOnePlace c ∧ c ∉ s.hand) ∨
    (s.pool.slotsWith c = 0 ∧ s.pool.closesOf c = 0 ∧ s.hand.count c = 1)
  /-- Whoever looks for a client gets one that is in a slot and valid. -/
  found : ∀ n c p, s.pool.take n = (some c, p) →
    s.pool.slotsWith c = 1 ∧ s.pool.closesOf c = 0 ∧ s.pool.isValid c = true
  /-- As many looks as there are slots find a client, if one in the slots is valid. -/
  finds : ∀ slot : Slot, some slot ∈ s.pool.slots → s.pool.isValid slot.client = true →
    ∀ n, s.pool.size ≤ n → ∃ c p, s.pool.take n = (some c, p)
  /-- A check ends, whatever happens during its dials. -/
  check_ends : s.Idle → ∀ later : List Move, (∀ m ∈ later, ¬ m.Begins) →
    3 * (s.pool.due lifetime s.now).length ≤ later.count .proceed →
    (s.run dial lifetime (.check :: later)).Idle
  /-- A check that has ended has done what it should, whatever happened during its dials. -/
  check_done : s.Idle → ∀ later : List Move, (∀ m ∈ later, ¬ m.Begins) →
    (s.run dial lifetime (.check :: later)).Idle →
    ∃ log, Checked lifetime s (s.run dial lifetime (.check :: later)) log
  /-- Closing all clients leaves the slots empty, so that in the end each client was closed once. -/
  closeAll_done : s.Idle → ∀ later : List Move, (∀ m ∈ later, ¬ m.Begins) →
    (s.run dial lifetime (.closeAll :: later)).pool.slots = List.replicate s.pool.size none
  /-- A check during which nothing happens is `Pool.check`. -/
  check_alone : s.Idle → ∃ n log, s.run dial lifetime (.check :: List.replicate n .proceed) =
    { s with pool := (s.pool.check dial lifetime s.now).2, dialed := s.dialed ++ log }
  /-- Closing all clients while nothing else happens is `Pool.closeAll`. -/
  closeAll_alone : s.Idle → ∃ n, s.run dial lifetime (.closeAll :: List.replicate n .proceed) =
    { s with pool := s.pool.closeAll }

theorem Kept.count_eq_one (h : Kept dial size s) {c : Nat} (hc : c < s.pool.clients.length) :
    s.pool.slotsWith c + s.hand.count c + s.pool.closesOf c = 1 := by
  rw [h.count_eq c, if_pos hc]

theorem Kept.orderly (h : Kept dial size s) (lifetime : Nat) : Orderly dial lifetime size s where
  size_eq := h.size_eq
  answers_eq := h.answers_eq
  clients_eq := h.clients_eq
  inOnePlace hWaiting c hc := by
    have hHand : s.hand = [] := by
      rw [hand, hWaiting.1, hWaiting.2]
      rfl
    have hOne := h.count_eq_one hc
    rw [hHand, List.count_nil] at hOne
    unfold InOnePlace
    omega
  inPlaceOrHand c hc := by
    have hOne := h.count_eq_one hc
    rw [← List.count_eq_zero]
    unfold InOnePlace
    omega
  found n c p hTake := by
    obtain ⟨hSlot, hValid⟩ := of_take hTake
    have hOne := h.count_eq_one (lt_of_isValid hValid)
    exact ⟨by omega, by omega, hValid⟩
  finds slot hMem hValid n hn := by
    obtain ⟨i, hSlot⟩ := List.getElem?_of_mem hMem
    exact exists_take hSlot hValid hn
  check_ends hIdle later hLater hSteps := by
    have hBegun : (s.move dial lifetime .check).work = 3 * (s.pool.due lifetime s.now).length := by
      rw [Session.move, if_pos hIdle, work, hIdle.2.1, hIdle.2.2]
      rfl
    have hWork := work_run dial lifetime (s.move dial lifetime .check) hLater
    rw [idle_iff_work]
    show ((s.move dial lifetime .check).run dial lifetime later).work = 0
    omega
  check_done hIdle later hLater hDone := by
    have hBegun : s.move dial lifetime .check = { s with due := s.pool.due lifetime s.now } := by
      rw [Session.move, if_pos hIdle]
    obtain ⟨log, hChecking⟩ := (checking_of_idle hIdle lifetime).run dial hLater
    rw [← hBegun] at hChecking
    exact ⟨log, hChecking.checked hDone⟩
  closeAll_done hIdle later hLater := by
    show ((s.move dial lifetime .closeAll).run dial lifetime later).pool.slots = _
    rw [Session.move, if_pos hIdle]
    rw [slots_run_of_not_due dial lifetime (s := { s with
      pool := s.pool.clear.2, retired := s.pool.clear.1 }) hIdle.1 hIdle.2.1 hLater]
    exact List.map_const'
  check_alone := exists_run_check dial lifetime
  closeAll_alone := exists_run_closeAll dial lifetime

/-- **No client of a pool is lost and none is closed twice**, in whatever order clients are taken,
become invalid and grow older, checks begin and go on and all clients are closed. Checks dial once
for each slot that needs it when they begin and for no other, and empty are then the slots whose
dials failed. -/
theorem every_course_keeps_clients (dial : Dialer) (lifetime size now : Nat) (moves : List Move) :
    Orderly dial lifetime size ((start size now).run dial lifetime moves) :=
  ((kept_start dial size now).run lifetime moves).orderly lifetime

/-- Two slots, and the second of three dials fails, so that the first check fills only one slot.
While the second check waits for its dial, the client in the other slot is taken and becomes
invalid, which comes too late for this check. -/
theorem clients_kept_at_late_failure :
    let dial : Dialer := fun n => if n = 1 then .error (.dial "refused") else .ok ()
    let s := (start 2 0).run dial 100
      [.check, .proceed, .look, .proceed, .proceed, .pass 50, .proceed]
    let later : List Move := [.look, .pass 7, .invalidate 0, .proceed, .look, .proceed, .proceed]
    let t := s.run dial 100 (.check :: later)
    s.Idle ∧ t.Idle ∧ s.pool.slots = [some ⟨0, 0⟩, none] ∧
      t.pool.slots = [some ⟨0, 0⟩, some ⟨1, 57⟩] ∧ (∃ log, Checked 100 s t log) ∧
      t.pool.take 2 = (some 1, { t.pool with looks := 4 }) ∧ t.pool.slotsWith 1 = 1 ∧
      t.InOnePlace 0 := by
  intro dial s later t
  have hBegan : s.Idle := by decide
  have hLater : ∀ m ∈ later, ¬ m.Begins := by simp [later, Move.Begins]
  have hCourse := every_course_keeps_clients dial 100 2 0
    [.check, .proceed, .look, .proceed, .proceed, .pass 50, .proceed]
  have hEnded : t.Idle := hCourse.check_ends hBegan later hLater (by decide)
  have hFound : t.pool.take 2 = (some 1, { t.pool with looks := 4 }) := by decide
  have hAfter := every_course_keeps_clients dial 100 2 0
    ([.check, .proceed, .look, .proceed, .proceed, .pass 50, .proceed] ++ .check :: later)
  rw [run_append] at hAfter
  exact ⟨hBegan, hEnded, by decide, by decide, hCourse.check_done hBegan later hLater hEnded,
    hFound, (hAfter.found 2 1 _ hFound).1, hAfter.inOnePlace hEnded.2 0 (by decide)⟩

end Session

end LogEgress.Ingress.Pool
