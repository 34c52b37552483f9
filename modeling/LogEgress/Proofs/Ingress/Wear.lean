import LogEgress.Proofs.Ingress.Upkeep

set_option autoImplicit false

/-! # How the clients of a pool wear

Whatever happens to a pool, no client is forgotten, and a client that is of no use stays so
(`Session.wears_run`).
-/

namespace LogEgress.Ingress.Pool

variable {p : Pool} {client : Nat}

/-- A client that was dialed, and is of no use. -/
def Spent (client : Nat) (p : Pool) : Prop :=
  client < p.clients.length ∧ p.isValid client = false

/-- No client is forgotten, and none is of use again. -/
structure Wears (p q : Pool) : Prop where
  length_le : p.clients.length ≤ q.clients.length
  spent : ∀ client, Spent client p → Spent client q

theorem Wears.trans {q r : Pool} (h : Wears p q) (h' : Wears q r) : Wears p r :=
  ⟨Nat.le_trans h.length_le h'.length_le, fun client => h'.spent client ∘ h.spent client⟩

theorem isValid_eq (client : Nat) (p : Pool) :
    p.isValid client = (p.clients[client]?.map (·.valid)).getD false := by
  rw [isValid]
  cases p.clients[client]? <;> rfl

/-- Whatever else changes, only the clients matter. -/
theorem wears_of_clients_eq {q : Pool} (h : q.clients = p.clients) : Wears p q := by
  refine ⟨Nat.le_of_eq (congrArg List.length h.symm), fun client hSpent => ?_⟩
  rwa [Spent, isValid_eq, h, ← isValid_eq]

theorem isValid_invalidate (client other : Nat) (p : Pool) :
    (p.invalidate other).isValid client = (p.isValid client && other != client) := by
  rw [isValid_eq, isValid_eq, invalidate, List.getElem?_modify]
  by_cases hSame : other = client
  · cases p.clients[client]? <;> simp [hSame]
  · simp [hSame]

theorem isValid_close (client other : Nat) (p : Pool) :
    (p.close other).isValid client = p.isValid client := by
  rw [isValid_eq, isValid_eq, close, List.getElem?_modify]
  cases p.clients[client]? with
  | none => rfl
  | some c => by_cases hSame : other = client <;> simp [hSame]

theorem spent_invalidate (h : client < p.clients.length) : Spent client (p.invalidate client) := by
  refine ⟨by rwa [length_clients_invalidate], ?_⟩
  rw [isValid_invalidate, bne_self_eq_false, Bool.and_false]

theorem wears_invalidate (other : Nat) (p : Pool) : Wears p (p.invalidate other) := by
  refine ⟨Nat.le_of_eq (length_clients_invalidate other p).symm, fun client h => ⟨?_, ?_⟩⟩
  · rw [length_clients_invalidate]
    exact h.1
  · rw [isValid_invalidate, h.2, Bool.false_and]

theorem wears_close (other : Nat) (p : Pool) : Wears p (p.close other) := by
  refine ⟨Nat.le_of_eq (length_clients_close other p).symm, fun client h => ⟨?_, ?_⟩⟩
  · rw [length_clients_close]
    exact h.1
  · rw [isValid_close]
    exact h.2

theorem wears_dialOnce (dial : Dialer) (now : Nat) (p : Pool) :
    Wears p (p.dialOnce dial now).2 := by
  cases hDial : dial p.dials with
  | error e =>
    rw [dialOnce_of_error hDial]
    exact wears_of_clients_eq rfl
  | ok u =>
    rw [dialOnce_of_ok hDial]
    refine ⟨by simp, fun client h => ⟨Nat.lt_of_lt_of_le h.1 (by simp), ?_⟩⟩
    rw [isValid_eq, List.getElem?_append_left h.1, ← isValid_eq]
    exact h.2

namespace Session

variable {dial : Dialer} {lifetime : Nat}

theorem wears_move (s : Session) (m : Move) : Wears s.pool (s.move dial lifetime m).pool := by
  cases m with
  | look => exact wears_of_clients_eq rfl
  | invalidate client => exact wears_invalidate client s.pool
  | pass time => exact wears_of_clients_eq rfl
  | check =>
    rw [Session.move]
    split <;> exact wears_of_clients_eq rfl
  | closeAll =>
    rw [Session.move]
    split <;> exact wears_of_clients_eq rfl
  | proceed =>
    rw [Session.move, Session.proceed]
    split
    · exact wears_of_clients_eq rfl
    · exact wears_close _ s.pool
    · exact wears_dialOnce dial s.now s.pool
    · exact wears_of_clients_eq rfl

theorem now_le_move (s : Session) (m : Move) : s.now ≤ (s.move dial lifetime m).now := by
  cases m with
  | look => exact Nat.le_refl _
  | invalidate client => exact Nat.le_refl _
  | pass time => exact Nat.le_add_right ..
  | check =>
    rw [Session.move]
    split <;> exact Nat.le_refl _
  | closeAll =>
    rw [Session.move]
    split <;> exact Nat.le_refl _
  | proceed =>
    rw [Session.move, Session.proceed]
    split <;> exact Nat.le_refl _

theorem wears_run (s : Session) (moves : List Move) :
    Wears s.pool (s.run dial lifetime moves).pool := by
  induction moves generalizing s with
  | nil => exact wears_of_clients_eq rfl
  | cons m moves ih => exact (s.wears_move m).trans (ih _)

/-- Once a client was marked it is of no use any more. -/
theorem spent_run {s : Session} {moves : List Move} {client : Nat}
    (hLt : client < s.pool.clients.length) (hMem : .invalidate client ∈ moves) :
    Spent client (s.run dial lifetime moves).pool := by
  induction moves generalizing s with
  | nil => cases hMem
  | cons m moves ih =>
    obtain rfl | hLater := List.mem_cons.mp hMem
    · exact (wears_run _ moves).spent client (spent_invalidate hLt)
    · exact ih (Nat.lt_of_lt_of_le hLt (s.wears_move m).length_le) hLater

theorem now_le_run (s : Session) (moves : List Move) : s.now ≤ (s.run dial lifetime moves).now := by
  induction moves generalizing s with
  | nil => exact Nat.le_refl _
  | cons m moves ih => exact Nat.le_trans (s.now_le_move m) (ih _)

end Session

end LogEgress.Ingress.Pool
