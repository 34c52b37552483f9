import LogEgress.Egress.Buffered
import LogEgress.Egress.Retry

set_option autoImplicit false

/-! # What becomes of envelopes that are written again and again

The layer that repeats failed writes ends each of them in one of three ways (`Ending`): the writer
below has taken the envelope, or the last error is reported, or there was no use in another attempt
or no time for one. In the last case nothing is reported. Over a series of envelopes
`ledger_passAll` keeps count of the three.
-/

namespace LogEgress.Egress

variable {σ : Type}

/-! ## Counting successes -/

/-- A writer that counts the writes that succeed. -/
def Writer.counting (w : Writer σ) : Writer (Nat × σ) where
  write e s :=
    let (r, i) := w.write e s.2
    (r, if r = .ok () then s.1 + 1 else s.1, i)
  close s :=
    let (r, i) := w.close s.2
    (r, s.1, i)

theorem Writer.counting_write_of_ok {w : Writer σ} {e : Envelope} {s i : σ} (n : Nat)
    (h : w.write e s = (.ok (), i)) : w.counting.write e (n, s) = (.ok (), n + 1, i) := by
  simp only [counting, h, if_pos]

theorem Writer.counting_write_of_error {w : Writer σ} {e : Envelope} {s i : σ} {err : Error}
    (n : Nat) (h : w.write e s = (.error err, i)) :
    w.counting.write e (n, s) = (.error err, n, i) := by
  simp only [counting, h, reduceCtorEq, if_false]

namespace Retry

/-! ## One attempt -/

/-- The progress after one more call of the writer below. -/
def Progress.call (p : Progress) : Progress := { p with calls := p.calls + 1 }

/-- Whether an error ends the attempts at once: there is no use in another one, or no time for
one. -/
def Cancellation.stops (c : Cancellation) (err : Error) (p : Progress) : Bool :=
  err.isPermanent || c.isDue p

section Attempt

variable {policy : Policy} {inner : Writer σ} {e : Envelope} {more k : Nat} {p : Progress}
  {s i : σ} {err : Error}

theorem attempt_of_ok (h : inner.write e s = (.ok (), i)) :
    attempt policy inner e more k p s = (⟨.ok (), [], []⟩, p.call, i) := by
  unfold attempt
  rw [h]
  rfl

theorem attempt_of_stops (h : inner.write e s = (.error err, i))
    (hstops : policy.cancellation.stops err p.call = true) :
    attempt policy inner e more k p s = (⟨.error err, [], []⟩, p.call, i) := by
  unfold attempt
  rw [h]
  exact if_pos hstops

theorem attempt_zero (h : inner.write e s = (.error err, i))
    (hstops : policy.cancellation.stops err p.call = false) :
    attempt policy inner e 0 k p s =
      (⟨.error err, [], [giveUpNotice policy.drain (k + 1) err]⟩, p.call, i) := by
  unfold attempt
  rw [h]
  exact if_neg (Bool.eq_false_iff.1 hstops)

/-- The wait for the next attempt is cut short. -/
theorem attempt_succ_of_cut {t : Nat} (h : inner.write e s = (.error err, i))
    (hstops : policy.cancellation.stops err p.call = false)
    (hcut : policy.cancellation.cutsWait? (p.now + policy.delay k) = some t) :
    attempt policy inner e (more + 1) k p s =
      (⟨.error .cancelled, [k], []⟩, { p.call with now := t, wasCut := true }, i) := by
  unfold attempt
  rw [h]
  refine (if_neg (Bool.eq_false_iff.1 hstops)).trans ?_
  simp only [Progress.call, hcut]

theorem attempt_succ_of_wait (h : inner.write e s = (.error err, i))
    (hstops : policy.cancellation.stops err p.call = false)
    (hcut : policy.cancellation.cutsWait? (p.now + policy.delay k) = none) :
    attempt policy inner e (more + 1) k p s =
      let (o, p, s) := attempt policy inner e more (k + 1)
        { p.call with now := p.now + policy.delay k } i
      ({ o with asked := k :: o.asked }, p, s) := by
  rw [attempt, h]
  refine (if_neg (Bool.eq_false_iff.1 hstops)).trans ?_
  simp only [Progress.call, hcut]

end Attempt

/-! ## One envelope -/

/-- How the way of an envelope through the layer may end after at most a number of attempts, with
the number of writes below that succeeded. -/
inductive Ending (policy : Policy) (attempts : Nat) : Outcome → Progress → Nat → Prop
  | written {asked : List Nat} {p : Progress} : Ending policy attempts ⟨.ok (), asked, []⟩ p 1
  | reported {err : Error} {asked : List Nat} {p : Progress} :
      policy.cancellation.stops err p = false →
      Ending policy attempts ⟨.error err, asked, [giveUpNotice policy.drain attempts err]⟩ p 0
  | silent {err : Error} {asked : List Nat} {p : Progress} :
      policy.cancellation.stops err p = true → Ending policy attempts ⟨.error err, asked, []⟩ p 0

/-- The waits that were asked for make no difference. -/
theorem Ending.asked {policy : Policy} {attempts : Nat} {o : Outcome} {p : Progress} {d : Nat}
    (h : Ending policy attempts o p d) (asked : List Nat) :
    Ending policy attempts { o with asked := asked } p d := by
  cases h with
  | written => exact .written
  | reported h => exact .reported h
  | silent h => exact .silent h

/-- Where a wait was cut short, the writer is cancelled. -/
theorem stops_of_wasCut (c : Cancellation) (err : Error) {p : Progress} (h : p.wasCut = true) :
    c.stops err p = true := by
  rw [Cancellation.stops, Cancellation.isDue, h]
  exact Bool.or_true _

/-- An attempt ends the way of the envelope, or it fails for the time being. -/
theorem ending_or_fails (policy : Policy) (attempts : Nat) (inner : Writer σ) (e : Envelope)
    (more k : Nat) (p : Progress) (n : Nat) (s : σ) :
    (∃ o d i, attempt policy inner.counting e more k p (n, s) = (o, p.call, n + d, i) ∧
        Ending policy attempts o p.call d) ∨
      ∃ err i, inner.write e s = (.error err, i) ∧
        policy.cancellation.stops err p.call = false := by
  cases hwrite : inner.write e s with
  | mk r i =>
    cases r with
    | ok u => exact .inl ⟨_, 1, i, attempt_of_ok (Writer.counting_write_of_ok n hwrite), .written⟩
    | error err =>
      cases hstops : policy.cancellation.stops err p.call with
      | false => exact .inr ⟨err, i, rfl, hstops⟩
      | true =>
        have hcount := Writer.counting_write_of_error n hwrite
        exact .inl ⟨_, 0, i, attempt_of_stops hcount hstops, .silent hstops⟩

theorem ending_attempt (policy : Policy) (inner : Writer σ) (e : Envelope) (more k : Nat)
    (p : Progress) (n : Nat) (s : σ) :
    ∃ o p' d i, attempt policy inner.counting e more k p (n, s) = (o, p', n + d, i) ∧
      Ending policy (k + more + 1) o p' d := by
  induction more generalizing k p s with
  | zero =>
    rcases ending_or_fails policy (k + 1) inner e 0 k p n s with
      ⟨o, d, i, heq, hend⟩ | ⟨err, i, hwrite, hstops⟩
    · exact ⟨o, _, d, i, heq, hend⟩
    · have hcount := Writer.counting_write_of_error n hwrite
      exact ⟨_, _, 0, i, attempt_zero hcount hstops, .reported hstops⟩
  | succ more ih =>
    rcases ending_or_fails policy (k + (more + 1) + 1) inner e (more + 1) k p n s with
      ⟨o, d, i, heq, hend⟩ | ⟨err, i, hwrite, hstops⟩
    · exact ⟨o, _, d, i, heq, hend⟩
    · have hcount := Writer.counting_write_of_error n hwrite
      cases hcut : policy.cancellation.cutsWait? (p.now + policy.delay k) with
      | some t =>
        exact ⟨_, _, 0, i, attempt_succ_of_cut hcount hstops hcut,
          .silent (stops_of_wasCut _ _ rfl)⟩
      | none =>
        obtain ⟨o, p', d, j, heq, hend⟩ :=
          ih (k + 1) { p.call with now := p.now + policy.delay k } i
        refine ⟨{ o with asked := k :: o.asked }, p', d, j, ?_, ?_⟩
        · rw [attempt_succ_of_wait hcount hstops hcut, heq]
        · rw [show k + (more + 1) + 1 = k + 1 + more + 1 by omega]
          exact hend.asked (k :: o.asked)

theorem ending_write (policy : Policy) (inner : Writer σ) (e : Envelope) (s : State (Nat × σ)) :
    ∃ o p d i, (writer policy inner.counting).write e s =
        (o.result, ⟨p, s.notices ++ o.notices, (s.inner.1 + d, i)⟩) ∧
      Ending policy (max 1 policy.maxAttempts) o p d := by
  obtain ⟨o, p, d, i, heq, hend⟩ :=
    ending_attempt policy inner e (max 1 policy.maxAttempts - 1) 0 s.progress s.inner.1 s.inner.2
  refine ⟨o, p, d, i, ?_, ?_⟩
  · simp only [writer, write, heq]
  · have hpos : 1 ≤ max 1 policy.maxAttempts := Nat.le_max_left _ _
    rwa [show 0 + (max 1 policy.maxAttempts - 1) + 1 = max 1 policy.maxAttempts by omega] at hend

/-! ## A series of envelopes -/

/-- A write that has ended: its result, and how far the run had come by then. -/
structure Ended where
  result : Result
  progress : Progress

/-- Whether a write failed with an error that ends the attempts at once, of which nothing is
reported. -/
def Ended.isSilent (c : Cancellation) (w : Ended) : Bool :=
  match w.result with
  | .ok () => false
  | .error err => c.stops err w.progress

/-- How the writes of envelopes end, one after the other. -/
def ends (policy : Policy) (inner : Writer σ) : List Envelope → State σ → List Ended
  | [], _ => []
  | e :: es, s =>
    let (r, s) := (writer policy inner).write e s
    ⟨r, s.progress⟩ :: ends policy inner es s

/-- Every ending leaves just one trace. -/
theorem Ending.traces_eq_one {policy : Policy} {attempts : Nat} {o : Outcome} {p : Progress}
    {d : Nat} (h : Ending policy attempts o p d) :
    d + o.notices.length +
      (if Ended.isSilent policy.cancellation ⟨o.result, p⟩ = true then 1 else 0) = 1 := by
  cases h with
  | written => rfl
  | reported h => simp [Ended.isSilent, h]
  | silent h => simp [Ended.isSilent, h]

theorem Ending.eq_of_mem_notices {policy : Policy} {attempts : Nat} {o : Outcome} {p : Progress}
    {d : Nat} (h : Ending policy attempts o p d) {notice : Notice} (hmem : notice ∈ o.notices) :
    ∃ err, err.isPermanent = false ∧ notice = giveUpNotice policy.drain attempts err := by
  cases h with
  | written => cases hmem
  | @reported err _ _ h => exact ⟨err, (Bool.or_eq_false_iff.1 h).1, List.mem_singleton.1 hmem⟩
  | silent h => cases hmem

variable (policy : Policy) (inner : Writer σ)

/-- The layer over a writer that counts. -/
abbrev counted : Writer (State (Nat × σ)) := writer policy inner.counting

/-- The envelopes that were passed on are counted in full: as successes of the writer below, as
notices, and as writes that failed silently. -/
theorem ledger_pass_all (es : List Envelope) (s : State (Nat × σ)) :
    s.inner.1 + s.notices.length + es.length =
      (es.foldl (Buffered.pass (counted policy inner)) s).inner.1 +
        (es.foldl (Buffered.pass (counted policy inner)) s).notices.length +
        (ends policy inner.counting es s).countP (Ended.isSilent policy.cancellation) := by
  induction es generalizing s with
  | nil => rfl
  | cons e es ih =>
    obtain ⟨o, p, d, i, heq, hend⟩ := ending_write policy inner e s
    have hone := hend.traces_eq_one
    have hrest := ih ⟨p, s.notices ++ o.notices, (s.inner.1 + d, i)⟩
    simp only [List.length_append] at hrest
    simp only [List.foldl_cons, Buffered.pass, ends, heq, List.countP_cons, List.length_cons]
    omega

/-- What the layer reports are envelopes that it gave up, each after as many attempts as may be. -/
theorem mem_notices_pass_all {es : List Envelope} {s : State (Nat × σ)} {notice : Notice}
    (h : notice ∈ (es.foldl (Buffered.pass (counted policy inner)) s).notices) :
    notice ∈ s.notices ∨ ∃ err, err.isPermanent = false ∧
      notice = giveUpNotice policy.drain (max 1 policy.maxAttempts) err := by
  induction es generalizing s with
  | nil => exact .inl h
  | cons e es ih =>
    obtain ⟨o, p, d, i, heq, hend⟩ := ending_write policy inner e s
    rw [List.foldl_cons, Buffered.pass, heq] at h
    rcases ih h with hbefore | hlater
    · rcases List.mem_append.1 hbefore with hold | hnew
      · exact .inl hold
      · exact .inr (hend.eq_of_mem_notices hnew)
    · exact .inr hlater

end Retry

end LogEgress.Egress
