import LogEgress.Proofs.Diode
import LogEgress.Proofs.Egress.Retry

set_option autoImplicit false

/-! # A buffered writer step by step

The producer claims a number and stores an envelope, the consumer looks, passes on what it found,
or asks whether the writer is cancelled, and the cancellation comes once all is written. The steps
come in any order (`Pipeline.run`). A buffered writer is what comes out when the producer's two
steps stand together and the consumer runs until it has nothing to do (`toBuffered_write`,
`exists_consume`).

The main theorem, `every_envelope_accounted`, says where the envelopes are that went into a
pipeline over the layer that repeats failed writes. That layer learns of the cancellation through
its policy and the consumer through a step; the theorem holds for all moments of the two.
-/

namespace LogEgress.Egress

/-- What the consumer does next. -/
inductive Phase where
  | looking
  | passing (e : Envelope)
  /-- It found nothing, and asks whether the writer is cancelled. -/
  | checking
  | ended
  deriving DecidableEq

/-- The envelope that the consumer has taken and not passed on yet. -/
def Phase.inHand : Phase → List Envelope
  | .passing e => [e]
  | _ => []

/-- A buffered writer between two steps. -/
structure Pipeline (σ : Type) where
  session : Diode.Session Envelope
  below : σ
  phase : Phase := .looking
  cancelled : Bool := false

namespace Pipeline

variable {σ : Type}

/-- A writer to which nothing was written yet. -/
def start (size : Nat) (below : σ) : Pipeline σ := { session := .start size, below := below }

/-- A step of the consumer. -/
def advance (w : Writer σ) (p : Pipeline σ) : Pipeline σ :=
  match p.phase with
  | .looking =>
    { p with
      session := p.session.consume
      phase := match p.session.ring.tryNext.1.got with
        | some e => .passing e
        | none => .checking }
  | .passing e => { p with below := Buffered.pass w p.below e, phase := .looking }
  | .checking =>
    if p.cancelled then { p with below := (w.close p.below).2, phase := .ended }
    else { p with phase := .looking }
  | .ended => p

/-- A step of one of those involved. -/
inductive Move where
  | produce
  | advance
  | cancel
  deriving DecidableEq, Repr

/-- Takes a step: the first `n` entries of a stream are written, and the writer is cancelled after
the last of them. -/
def move (w : Writer σ) (entry : Nat → Envelope) (n : Nat) (p : Pipeline σ) : Move → Pipeline σ
  | .produce => if p.session.stored < n then { p with session := p.session.produce entry } else p
  | .advance => p.advance w
  | .cancel => if p.session.stored < n then p else { p with cancelled := true }

/-- Takes steps in some order. -/
def run (w : Writer σ) (entry : Nat → Envelope) (n : Nat) (p : Pipeline σ) (moves : List Move) :
    Pipeline σ :=
  moves.foldl (move w entry n) p

theorem run_append_singleton (w : Writer σ) (entry : Nat → Envelope) (n : Nat) (p : Pipeline σ)
    (moves : List Move) (m : Move) :
    p.run w entry n (moves ++ [m]) = (p.run w entry n moves).move w entry n m :=
  List.foldl_concat ..

/-! ## What every step keeps -/

/-- What is below after the consumer has passed envelopes on, and has closed the writer below if it
has ended. -/
def settled (w : Writer σ) (below : σ) (phase : Phase) (es : List Envelope) : σ :=
  match phase with
  | .ended => (w.close (es.foldl (Buffered.pass w) below)).2
  | _ => es.foldl (Buffered.pass w) below

/-- What is true of a pipeline between any two steps. -/
structure Sound (w : Writer σ) (below : σ) (size n : Nat) (entry : Nat → Envelope)
    (p : Pipeline σ) : Prop where
  kept : Diode.Session.Kept (max 1 size) entry p.session
  stored_le : p.session.stored ≤ n
  /-- No number is claimed after the last entry. -/
  pending_eq : p.session.stored = n → p.session.pending = none
  stored_eq : p.cancelled = true → p.session.stored = n
  cancelled_eq : p.phase = .ended → p.cancelled = true
  below_eq : ∃ es, p.session.delivered = es ++ p.phase.inHand ∧
    p.below = settled w below p.phase es

section Step

variable {w : Writer σ} {below : σ} {size n : Nat} {entry : Nat → Envelope} {p : Pipeline σ}

theorem sound_start (w : Writer σ) (below : σ) (size n : Nat) (entry : Nat → Envelope) :
    Sound w below size n entry (start size below) where
  kept := Diode.Session.kept_start entry size
  stored_le := Nat.zero_le n
  pending_eq _ := rfl
  stored_eq h := nomatch h
  cancelled_eq h := nomatch h
  below_eq := ⟨[], rfl, rfl⟩

theorem Sound.produce (h : Sound w below size n entry p) (hlt : p.session.stored < n) :
    Sound w below size n entry { p with session := p.session.produce entry } := by
  have hlooks : (p.session.produce entry).delivered = p.session.delivered := by
    rw [Diode.Session.delivered, (Diode.Session.reader_produce entry p.session).1]
    rfl
  have hnow : ¬ p.cancelled = true := fun hc => by
    have hall := h.stored_eq hc
    omega
  have hstored : (p.session.produce entry).stored ≤ n ∧
      ((p.session.produce entry).stored = n → (p.session.produce entry).pending = none) := by
    unfold Diode.Session.produce
    cases p.session.pending with
    | none => exact ⟨h.stored_le, fun hn => absurd hn (Nat.ne_of_lt hlt)⟩
    | some e => exact ⟨hlt, fun _ => rfl⟩
  exact {
    kept := h.kept.produce
    stored_le := hstored.1
    pending_eq := hstored.2
    stored_eq := fun hc => absurd hc hnow
    cancelled_eq := h.cancelled_eq
    below_eq := by
      rw [hlooks]
      exact h.below_eq }

theorem Sound.advance (h : Sound w below size n entry p) :
    Sound w below size n entry (p.advance w) := by
  obtain ⟨es, hes, hbelow⟩ := h.below_eq
  obtain ⟨session, b, phase, cancelled⟩ := p
  cases phase with
  | looking =>
    obtain rfl : b = es.foldl (Buffered.pass w) below := hbelow
    have hes : session.delivered = es := hes.trans (List.append_nil es)
    -- Whatever the look found, the consumer has not ended.
    refine ⟨h.kept.consume, h.stored_le, h.pending_eq, h.stored_eq, ?_, es, ?_, ?_⟩
    · simp only [Pipeline.advance]
      split <;> exact nofun
    · rw [Pipeline.advance, Diode.Session.delivered_consume, hes]
      cases session.ring.tryNext.1.got <;> rfl
    · simp only [Pipeline.advance]
      split <;> rfl
  | passing e =>
    obtain rfl : b = es.foldl (Buffered.pass w) below := hbelow
    have hpassed := (List.foldl_concat (Buffered.pass w) below e es).symm
    exact { h with
      cancelled_eq := nofun
      below_eq := ⟨es ++ [e], hes.trans (List.append_nil _).symm, hpassed⟩ }
  | checking =>
    obtain rfl : b = es.foldl (Buffered.pass w) below := hbelow
    cases cancelled with
    | false => exact { h with cancelled_eq := nofun, below_eq := ⟨es, hes, rfl⟩ }
    | true => exact { h with cancelled_eq := fun _ => rfl, below_eq := ⟨es, hes, rfl⟩ }
  | ended => exact h

theorem Sound.move (h : Sound w below size n entry p) (m : Move) :
    Sound w below size n entry (p.move w entry n m) := by
  cases m with
  | produce =>
    by_cases hlt : p.session.stored < n
    · rw [Pipeline.move, if_pos hlt]
      exact h.produce hlt
    · rw [Pipeline.move, if_neg hlt]
      exact h
  | advance => exact h.advance
  | cancel =>
    by_cases hlt : p.session.stored < n
    · rw [Pipeline.move, if_pos hlt]
      exact h
    · rw [Pipeline.move, if_neg hlt]
      have hall : p.session.stored = n := Nat.le_antisymm h.stored_le (Nat.le_of_not_lt hlt)
      exact { h with stored_eq := fun _ => hall, cancelled_eq := fun _ => rfl }

/-- Everything was stored before the consumer ended. -/
theorem Sound.stored_of_ended (h : Sound w below size n entry p) (hend : p.phase = .ended) :
    p.session.stored = n :=
  h.stored_eq (h.cancelled_eq hend)

/-- A consumer that has ended has passed on all it took, and has closed the writer below. -/
theorem Sound.below_of_ended (h : Sound w below size n entry p) (hend : p.phase = .ended) :
    p.below = (w.close (p.session.delivered.foldl (Buffered.pass w) below)).2 := by
  obtain ⟨es, hes, hbelow⟩ := h.below_eq
  rw [hend] at hes hbelow
  have hes : p.session.delivered = es := hes.trans (List.append_nil es)
  rw [hbelow, hes]
  rfl

/-- Once the writer is cancelled, a consumer that found nothing has read all. -/
def Settles (n : Nat) (p : Pipeline σ) : Prop :=
  p.cancelled = true → p.phase = .checking ∨ p.phase = .ended → p.session.ring.readIndex = n

theorem Sound.settles_move (h : Sound w below size n entry p) (hset : p.Settles n) {m : Move}
    (hm : m = .cancel → p.phase ≠ .checking) : (p.move w entry n m).Settles n := by
  cases m with
  | produce =>
    by_cases hlt : p.session.stored < n
    · rw [Pipeline.move, if_pos hlt]
      intro hc
      exact absurd (h.stored_eq hc) (Nat.ne_of_lt hlt)
    · rw [Pipeline.move, if_neg hlt]
      exact hset
  | advance =>
    obtain ⟨session, b, phase, cancelled⟩ := p
    cases phase with
    | looking =>
      intro hc hphase
      have hall : session.stored = n := h.stored_eq hc
      rcases h.kept.holds.look_cases with ⟨-, -, -, hread⟩ | ⟨-, k, -, -, hlook, -⟩
      · exact hread.trans hall
      · simp [Pipeline.move, Pipeline.advance, hlook] at hphase
    | passing e => exact fun _ hphase => hphase.elim nofun nofun
    | checking =>
      cases cancelled with
      | false => exact nofun
      | true => exact fun hc _ => hset hc (.inl rfl)
    | ended => exact hset
  | cancel =>
    by_cases hlt : p.session.stored < n
    · rw [Pipeline.move, if_pos hlt]
      exact hset
    · rw [Pipeline.move, if_neg hlt]
      rintro - (hphase | hphase)
      · exact absurd hphase (hm rfl)
      · exact hset (h.cancelled_eq hphase) (.inr hphase)

end Step

theorem sound_run (w : Writer σ) (below : σ) (size n : Nat) (entry : Nat → Envelope)
    (moves : List Move) :
    Sound w below size n entry ((start size below).run w entry n moves) := by
  induction moves using List.reverseRecOn with
  | nil => exact sound_start w below size n entry
  | append_singleton moves m ih =>
    rw [run_append_singleton]
    exact ih.move m

/-- All is read before the consumer ends, if the cancellation never comes after a look that found
nothing and before the question that follows. -/
theorem settles_run {w : Writer σ} {below : σ} {size n : Nat} {entry : Nat → Envelope}
    {moves : List Move} (h : ∀ front, front ++ [.cancel] <+: moves →
      ((start size below).run w entry n front).phase ≠ .checking) :
    ((start size below).run w entry n moves).Settles n := by
  induction moves using List.reverseRecOn with
  | nil => exact nofun
  | append_singleton moves m ih =>
    rw [run_append_singleton]
    refine (sound_run w below size n entry moves).settles_move ?_ ?_
    · exact ih fun front hf => h front (hf.trans (List.prefix_append _ _))
    · rintro rfl
      exact h moves (List.prefix_refl _)

/-! ## The buffered writer as a course of steps -/

/-- What the environment sees of a pipeline. -/
def toBuffered (p : Pipeline σ) : Buffered σ where
  diode := p.session.ring
  inner := p.below
  missed := p.session.alerts
  cancelled := p.cancelled
  finished := decide (p.phase = .ended)

theorem toBuffered_start (size : Nat) (below : σ) :
    (start size below).toBuffered = Buffered.ofSize size below := rfl

/-- The producer's two steps together write an envelope. -/
theorem toBuffered_write {w : Writer σ} {entry : Nat → Envelope} {n : Nat} {p : Pipeline σ}
    (hpending : p.session.pending = none) (hlt : p.session.stored < n) :
    (p.run w entry n [.produce, .produce]).toBuffered =
      (p.toBuffered.write (entry p.session.stored)).2 := by
  obtain ⟨⟨ring, pending, stored, looks, numbers⟩, below, phase, cancelled⟩ := p
  obtain rfl : pending = none := hpending
  have hlt : stored < n := hlt
  simp only [run, List.foldl_cons, List.foldl_nil, move, hlt, if_true, Diode.Session.produce]
  rfl

theorem toBuffered_cancel {w : Writer σ} {entry : Nat → Envelope} {n : Nat} {p : Pipeline σ}
    (h : n ≤ p.session.stored) : (p.move w entry n .cancel).toBuffered = p.toBuffered.cancel := by
  rw [move, if_neg (Nat.not_lt.2 h)]
  rfl

section Consumer

variable {w : Writer σ} {p : Pipeline σ}

/-- A look that finds nothing. -/
theorem advance_of_none (hphase : p.phase = .looking)
    (hgot : p.session.ring.tryNext.1.got = none) :
    p.advance w = { p with session := p.session.consume, phase := .checking } := by
  rw [advance, hphase]
  simp only [hgot]

/-- A look that finds an envelope, which is passed on then. -/
theorem advance_advance_of_some {e : Envelope} (hphase : p.phase = .looking)
    (hgot : p.session.ring.tryNext.1.got = some e) :
    (p.advance w).advance w =
      { p with
        session := p.session.consume
        below := Buffered.pass w p.below e
        phase := .looking } := by
  have hfirst : p.advance w = { p with session := p.session.consume, phase := .passing e } := by
    rw [advance, hphase]
    simp only [hgot]
  rw [hfirst, advance]

/-- The consumer looks and passes on until a look gives nothing. The ring gives no more entries than
it has buckets, nor more than were stored and not read. -/
theorem exists_drainFor (w : Writer σ) {entry : Nat → Envelope} (fuel : Nat) (p : Pipeline σ)
    (hring : Diode.Holds entry p.session.stored p.session.ring) (hphase : p.phase = .looking)
    (hfuel : p.session.stored < p.session.ring.readIndex + fuel ∨
      p.session.ring.capacity < fuel) :
    ∃ k, ((advance w)^[k] p).phase = .checking ∧
      { ((advance w)^[k] p).toBuffered with finished := false } =
        { p.toBuffered with
          diode := (p.session.ring.drainFor fuel).2.2
          inner := (p.session.ring.drainFor fuel).1.foldl (Buffered.pass w) p.below
          missed := p.session.alerts ++ (p.session.ring.drainFor fuel).2.1
          finished := false } := by
  induction fuel generalizing p with
  | zero =>
    have hread := hring.read_le
    omega
  | succ fuel ih =>
    rcases hring.look_cases with ⟨-, -, hlook, -⟩ | ⟨hlt, k, hk, -, hlook, hread⟩
    · refine ⟨1, ?_⟩
      rw [Function.iterate_one, advance_of_none hphase (congrArg Diode.Look.got hlook)]
      refine ⟨rfl, ?_⟩
      simp only [toBuffered, Diode.drainFor, hlook, Diode.Session.alerts_consume,
        Option.toList_none, List.append_nil, List.foldl_nil]
      rfl
    · have hgot := congrArg Diode.Look.got hlook
      -- After a jump the reader is less than a lap behind.
      have hnear : p.session.stored ≤ k + p.session.ring.capacity :=
        hk ▸ Diode.le_latest_add hring.capacity_pos hlt
      have hle : p.session.ring.readIndex ≤ k := hk ▸ Diode.le_latest _ _ _
      obtain ⟨j, hj, heq⟩ := ih ((p.advance w).advance w)
        (by rw [advance_advance_of_some hphase hgot]; exact hring.tryNext)
        (by rw [advance_advance_of_some hphase hgot])
        (by
          rw [advance_advance_of_some hphase hgot]
          change p.session.stored < p.session.ring.tryNext.2.readIndex + fuel ∨ _
          rw [hread]
          omega)
      refine ⟨j + 2, hj, heq.trans ?_⟩
      rw [advance_advance_of_some hphase hgot]
      simp only [toBuffered, Diode.drainFor, hlook, Diode.Session.alerts_consume,
        List.append_assoc, List.foldl_cons]
      rfl

theorem iterate_advance (w : Writer σ) (entry : Nat → Envelope) (n k : Nat) (p : Pipeline σ) :
    (advance w)^[k] p = p.run w entry n (.replicate k .advance) := by
  induction k generalizing p with
  | zero => rfl
  | succ k ih => exact ih (p.advance w)

/-- A consumer that is let run does what `Buffered.consume` says. -/
theorem exists_consume (w : Writer σ) {entry : Nat → Envelope} (n : Nat)
    (hring : Diode.Holds entry p.session.stored p.session.ring) (hphase : p.phase = .looking) :
    ∃ k, (p.run w entry n (.replicate k .advance)).toBuffered = p.toBuffered.consume w ∧
      (p.run w entry n (.replicate k .advance)).phase =
        if p.cancelled then .ended else .looking := by
  obtain ⟨k, hchecking, heq⟩ := exists_drainFor w (p.session.ring.capacity + 1) p hring hphase
    (.inr (Nat.lt_succ_self _))
  refine ⟨k + 1, ?_⟩
  rw [← iterate_advance, Function.iterate_succ_apply', advance, hchecking]
  simp only [toBuffered, Buffered.mk.injEq, and_true] at heq
  obtain ⟨hdiode, hbelow, hmissed, hcancelled⟩ := heq
  cases hc : p.cancelled <;>
    simp [toBuffered, Buffered.consume, Diode.drain, hphase, hdiode, hbelow, hmissed, hcancelled,
      hc]

end Consumer

/-! ## Where the envelopes are -/

/-- A pipeline over the layer that repeats failed writes, with a count of the writes below that
succeed. -/
def relay (size : Nat) (s : σ) : Pipeline (Retry.State (Nat × σ)) := start size ⟨{}, [], (0, s)⟩

section Account

variable (policy : Retry.Policy) (inner : Writer σ) (s : σ)
  (p : Pipeline (Retry.State (Nat × σ)))

/-- How many writes to the writer below succeeded. -/
def succeeded : Nat := p.below.inner.1

/-- How many envelopes were reported as missed. -/
def missed : Nat := p.session.alerts.sum

/-- How many envelopes were stored that the consumer did not read or pass over. -/
def unread : Nat := p.session.stored - p.session.ring.readIndex

/-- How the writes of the envelopes went that the consumer took from a relay. -/
def writes : List Retry.Ended :=
  Retry.ends policy inner.counting p.session.delivered ⟨{}, [], (0, s)⟩

/-- How many envelopes failed without a notice. -/
def silent : Nat := (p.writes policy inner s).countP (Retry.Ended.isSilent policy.cancellation)

/-- Where `n` envelopes are after they went into a relay and its consumer has ended. -/
structure Account (n : Nat) : Prop where
  /-- Every one has left a trace, or has failed silently, or was never read. -/
  total : n = p.succeeded + p.missed + p.below.notices.length + p.silent policy inner s + p.unread
  /-- The traces account for all of them just if all were read, and each one that failed did so for
  the time being and before the cancellation. -/
  complete_iff : n = p.succeeded + p.missed + p.below.notices.length ↔
    p.unread = 0 ∧ ∀ w ∈ p.writes policy inner s, ∀ err, w.result = .error err →
      err.isPermanent = false ∧ policy.cancellation.isDue w.progress = false
  /-- What is reported are envelopes that were given up, after as many attempts as may be. -/
  notices_eq : ∀ notice ∈ p.below.notices, ∃ err, err.isPermanent = false ∧
    notice = Retry.giveUpNotice policy.drain (max 1 policy.maxAttempts) err

end Account

theorem silent_eq_zero_iff (policy : Retry.Policy) (inner : Writer σ) (s : σ)
    (p : Pipeline (Retry.State (Nat × σ))) :
    p.silent policy inner s = 0 ↔ ∀ w ∈ p.writes policy inner s, ∀ err, w.result = .error err →
      err.isPermanent = false ∧ policy.cancellation.isDue w.progress = false := by
  rw [silent, List.countP_eq_zero]
  refine forall₂_congr fun w _ => ?_
  rw [Retry.Ended.isSilent]
  cases w.result with
  | ok u => exact iff_of_true Bool.false_ne_true fun err h => by cases h
  | error err =>
    simp [Retry.Cancellation.stops]

section Ended

variable {policy : Retry.Policy} {inner : Writer σ} {s : σ} {size n : Nat} {entry : Nat → Envelope}
  {p : Pipeline (Retry.State (Nat × σ))}

theorem total_of_ended (h : Sound (Retry.counted policy inner) ⟨{}, [], (0, s)⟩ size n entry p)
    (hend : p.phase = .ended) :
    n = p.succeeded + p.missed + p.below.notices.length + p.silent policy inner s + p.unread := by
  have hbelow := h.below_of_ended hend
  have hall := h.stored_of_ended hend
  have hledger := Retry.ledger_pass_all policy inner p.session.delivered ⟨{}, [], (0, s)⟩
  simp only [List.length_nil, Nat.zero_add] at hledger
  -- Closing the writer below changes neither the count nor the notices.
  have hcount : p.succeeded = (p.session.delivered.foldl
      (Buffered.pass (Retry.counted policy inner)) ⟨{}, [], (0, s)⟩).inner.1 := by
    rw [succeeded, hbelow]
    rfl
  have hnotices : p.below.notices = (p.session.delivered.foldl
      (Buffered.pass (Retry.counted policy inner)) ⟨{}, [], (0, s)⟩).notices := by
    rw [hbelow]
    rfl
  have hread := h.kept.holds.read_le
  have hcounted := h.kept.counted
  have hnumbers := congrArg List.length h.kept.delivered_eq
  rw [List.length_map] at hnumbers
  rw [hcount, hnotices, missed, silent, writes, unread]
  omega

theorem account_of_ended (h : Sound (Retry.counted policy inner) ⟨{}, [], (0, s)⟩ size n entry p)
    (hend : p.phase = .ended) : Account policy inner s p n := by
  have htotal := total_of_ended h hend
  refine ⟨htotal, ?_, fun notice hmem => ?_⟩
  · rw [← silent_eq_zero_iff]
    omega
  · rw [h.below_of_ended hend] at hmem
    rcases Retry.mem_notices_pass_all policy inner hmem with hold | hgiven
    · cases hold
    · exact hgiven

end Ended

/-- **Where the envelopes are.** When `n` envelopes were written to a diode over the layer that
repeats failed writes, and the consumer has ended, each of them was taken by the writer below, or
counted as missed, or given up with a notice, or failed without one, or was left in the diode.
Nothing is left unless the cancellation came between a look that found nothing and the question
whether the writer is cancelled. -/
theorem every_envelope_accounted (policy : Retry.Policy) (inner : Writer σ) (s : σ) (size n : Nat)
    (entry : Nat → Envelope) (moves : List Move)
    (hend : ((relay size s).run (Retry.counted policy inner) entry n moves).phase = .ended) :
    Account policy inner s ((relay size s).run (Retry.counted policy inner) entry n moves) n ∧
      ((∀ front, front ++ [.cancel] <+: moves →
          ((relay size s).run (Retry.counted policy inner) entry n front).phase ≠ .checking) →
        ((relay size s).run (Retry.counted policy inner) entry n moves).unread = 0) := by
  have hsound : Sound (Retry.counted policy inner) ⟨{}, [], (0, s)⟩ size n entry
      ((relay size s).run (Retry.counted policy inner) entry n moves) := sound_run ..
  refine ⟨account_of_ended hsound hend, fun h => ?_⟩
  have hread := settles_run h (hsound.cancelled_eq hend) (.inr hend)
  have hall := hsound.stored_of_ended hend
  exact Nat.sub_eq_zero_of_le (Nat.le_of_eq (hall.trans hread.symm))

/-- Three envelopes go through a ring of one bucket. The first is taken at the second attempt, the
second is overwritten by the third, and that one is given up. -/
theorem accounted_with_retry_and_overwriting :
    let policy : Retry.Policy := ⟨2, fun k => 10 * (k + 1), {}, "syslog://drain"⟩
    let script := Script.ofAnswers
      [.error .dialTimeout, .ok (), .error .dialTimeout, .error .dialTimeout] (.ok ())
    let entry : Nat → Envelope := fun _ => ⟨"app", "0", 0, {}, some ⟨[104, 105], .out⟩⟩
    let moves : List Move := [.produce, .produce, .advance, .advance, .produce, .produce, .produce,
      .produce, .advance, .advance, .cancel, .advance, .advance]
    let p := (relay 1 script).run (Retry.counted policy Script.writer) entry 3 moves
    p.phase = .ended ∧ p.succeeded = 1 ∧ p.missed = 1 ∧ p.below.notices.length = 1 ∧
      3 = p.succeeded + p.missed + p.below.notices.length + p.silent policy Script.writer script +
        p.unread := by
  intro policy script entry moves p
  have hend : p.phase = .ended := by decide +kernel
  have haccount : Account policy Script.writer script p 3 :=
    (every_envelope_accounted policy Script.writer script 1 3 entry moves hend).1
  exact ⟨hend, by decide +kernel, by decide +kernel, by decide +kernel, haccount.total⟩

/-- The writer is closed before its only envelope is passed on, and the write fails: there is no
success, no envelope was missed, and nothing is reported. -/
theorem closed_before_failure_untraced :
    let policy : Retry.Policy :=
      ⟨22, fun k => 10 * (k + 1), { duringCall := some 0 }, "syslog://drain"⟩
    let entry : Nat → Envelope := fun _ => ⟨"app", "0", 0, {}, some ⟨[104, 105], .out⟩⟩
    let p := (relay 1 (Script.ofAnswers [.error (.dial "refused")] (.ok ()))).run
      (Retry.counted policy Script.writer) entry 1
      [.produce, .produce, .cancel, .advance, .advance, .advance, .advance]
    p.phase = .ended ∧ 1 ≠ p.succeeded + p.missed + p.below.notices.length := by
  decide +kernel

end Pipeline

end LogEgress.Egress
