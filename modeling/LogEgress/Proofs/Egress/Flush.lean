import LogEgress.Egress.Chain
import LogEgress.Proofs.Egress.Pipeline

set_option autoImplicit false

/-! # The flush of a buffered writer

`Pipeline` lets the producer, the consumer and the cancellation move in any order. Here they have
the clock between them, and each runs until it has to wait: a write and a cancellation go through
without a pause, and the consumer stops only where it sleeps, or where the writer below takes its
time. So the cancellation never comes between a look that found nothing and the question that
follows, and the consumer leaves nothing behind.

The main theorem, `Flush.every_flush_lawful`, is about all times at which envelopes are written and
the writer is closed, and all writers below, however long they take and whether or not they fail.
What the owner of the writer sees of it is a `Chain` (`Flush.toChain_write`, `toChain_close`,
`exists_awaitEnd`).
-/

namespace LogEgress.Egress

/-- What is asked of the writer below. -/
inductive Call where
  | write (e : Envelope)
  | close
  deriving DecidableEq

/-- The envelope that a call passes on. -/
def Call.envelope? : Call → Option Envelope
  | .write e => some e
  | .close => none

/-- A buffered writer and what it has to do. -/
structure Task (σ : Type) where
  size : Nat
  /-- How long the consumer sleeps when it finds nothing. -/
  interval : Nat
  /-- Whether the end of the program waits for the consumer. -/
  hasGuard : Bool
  writer : Writer σ
  /-- The writer below at the beginning. -/
  below : σ
  /-- How long each write below takes, counted from 0. -/
  writing : Nat → Nat
  /-- How long closing the writer below takes. -/
  closing : Nat
  entry : Nat → Envelope
  /-- How many entries are written. -/
  total : Nat

/-- A buffered writer in time. -/
structure Flush (σ : Type) where
  line : Pipeline σ
  tokens : Shutdown.Controller
  now : Nat := 0
  /-- When the consumer goes on, if nobody wakes it. -/
  resumeAt : Nat := 0
  /-- What the consumer has asked of the writer below, in this order. -/
  calls : List Call := []
  /-- How the writes ended for those who wrote. -/
  results : List Result := []

namespace Flush

variable {σ : Type}

/-- A writer to which nothing was written, and whose consumer has not run. -/
def start (t : Task σ) : Flush σ where
  line := .start t.size t.below
  tokens := (Chain.start t.size t.hasGuard t.below).tokens

/-- What its owner knows of it. -/
def toChain (s : Flush σ) : Chain σ := { tokens := s.tokens, writer := s.line.toBuffered }

/-! ## Moves -/

/-- Writes the next entry. -/
def write (t : Task σ) (s : Flush σ) : Flush σ :=
  if s.line.session.stored < t.total then
    { s with
      line := s.line.run t.writer t.entry t.total [.produce, .produce]
      results := s.results ++ [(s.line.toBuffered.write (t.entry s.line.session.stored)).1] }
  else s

/-- Who tells the writer to end. -/
inductive Stop where
  /-- Its owner closes it, or gives it up. -/
  | close
  /-- Its subscription ends. -/
  | subscription
  /-- The program ends. -/
  | program
  deriving DecidableEq, Repr

/-- The tokens after the writer was told to end. -/
def Stop.cancel (c : Shutdown.Controller) : Stop → Shutdown.Controller
  | .close => c.cancel Chain.writerToken
  | .subscription => c.cancel Chain.subscriptionToken
  | .program => c.shutdown

/-- Tells the writer to end once all is written. -/
def stop (t : Task σ) (how : Stop) (s : Flush σ) : Flush σ :=
  if s.line.session.stored < t.total then s
  else
    let tokens := how.cancel s.tokens
    { s with
      line := { s.line with cancelled := tokens.isCancelled (some Chain.writerToken) }
      tokens := tokens }

/-- The consumer looks for the next entry and passes it on. If there is none it closes the writer
below, or sleeps. -/
def look (t : Task σ) (s : Flush σ) : Flush σ :=
  let line := s.line.advance t.writer
  match line.phase with
  | .passing e =>
    { s with
      line := line
      resumeAt := s.now + t.writing s.line.session.delivered.length
      calls := s.calls ++ [.write e] }
  | _ =>
    if line.cancelled then
      { s with line := line, resumeAt := s.now + t.closing, calls := s.calls ++ [.close] }
    else { s with line := line.advance t.writer, resumeAt := s.now + t.interval }

/-- The consumer runs until it has to wait again. It waits for the writer below, or sleeps until
its time has come or the writer is told to end. -/
def turn (t : Task σ) (s : Flush σ) : Flush σ :=
  match s.line.phase with
  | .looking => if s.resumeAt ≤ s.now ∨ s.line.cancelled = true then s.look t else s
  | .passing _ =>
    if s.resumeAt ≤ s.now then look t { s with line := s.line.advance t.writer } else s
  | .checking =>
    -- The writer below is closed, and the guard goes with the consumer.
    if s.resumeAt ≤ s.now then
      { s with
        line := s.line.advance t.writer
        tokens := if t.hasGuard then s.tokens.release 0 else s.tokens }
    else s
  | .ended => s

/-- A move of one of those involved. Others take and release guards of the same controller. -/
inductive Move where
  | write
  | stop (how : Stop)
  | turn
  | tick
  | takeGuard
  | releaseGuard (guard : Nat)
  deriving DecidableEq, Repr

/-- Makes a move. Nobody but the consumer releases its guard. -/
def move (t : Task σ) (s : Flush σ) : Move → Flush σ
  | .write => s.write t
  | .stop how => s.stop t how
  | .turn => s.turn t
  | .tick => { s with now := s.now + 1 }
  | .takeGuard => { s with tokens := s.tokens.takeGuard }
  | .releaseGuard g =>
    if t.hasGuard = true ∧ g = 0 then s else { s with tokens := s.tokens.release g }

/-- Makes moves in some order. -/
def run (t : Task σ) (s : Flush σ) (moves : List Move) : Flush σ := moves.foldl (move t) s

theorem run_append (t : Task σ) (s : Flush σ) (moves more : List Move) :
    s.run t (moves ++ more) = (s.run t moves).run t more :=
  List.foldl_append

theorem run_append_singleton (t : Task σ) (s : Flush σ) (moves : List Move) (m : Move) :
    s.run t (moves ++ [m]) = (s.run t moves).move t m :=
  List.foldl_concat ..

/-! ## The tokens of a writer -/

/-- The tokens of a subscription and of its writer, one below the other. -/
def HasTokens (c : Shutdown.Controller) : Prop :=
  ∃ a b, c.tokens = [⟨none, a⟩, ⟨some Chain.subscriptionToken, b⟩]

theorem hasTokens_start (t : Task σ) : HasTokens (start t).tokens ∧
    (start t).tokens.isCancelled (some Chain.writerToken) = false := by
  unfold start Chain.start
  cases t.hasGuard <;> exact ⟨⟨false, false, rfl⟩, rfl⟩

/-- Whoever tells the writer to end, its token is cancelled, and no guard is concerned. -/
theorem cancel_spec {c : Shutdown.Controller} (h : HasTokens c) (how : Stop) :
    HasTokens (how.cancel c) ∧ (how.cancel c).isCancelled (some Chain.writerToken) = true ∧
      (how.cancel c).guards = c.guards := by
  obtain ⟨stopped, tokens, guards⟩ := c
  obtain ⟨a, b, rfl⟩ : ∃ a b, tokens = _ := h
  cases how with
  | close => exact ⟨⟨_, _, rfl⟩, rfl, rfl⟩
  | subscription =>
    refine ⟨⟨_, _, rfl⟩, ?_, rfl⟩
    cases b <;> rfl
  | program =>
    refine ⟨⟨_, _, rfl⟩, ?_, rfl⟩
    cases a <;> cases b <;> rfl

/-! ## What every move keeps -/

/-- The call that a consumer makes when it stops passing on. -/
def closeCall : Phase → List Call
  | .checking => [.close]
  | .ended => [.close]
  | _ => []

/-- What is true of a buffered writer between any two moves. -/
structure Kept (t : Task σ) (s : Flush σ) : Prop where
  sound : Pipeline.Sound t.writer t.below t.size t.total t.entry s.line
  settles : s.line.Settles t.total
  /-- A write is never interrupted. -/
  pending_eq : s.line.session.pending = none
  /-- A consumer that waits after it found nothing is closing the writer below. -/
  cancelled_of_checking : s.line.phase = .checking → s.line.cancelled = true
  calls_eq : s.calls = s.line.session.delivered.map .write ++ closeCall s.line.phase
  results_eq : s.results = List.replicate s.line.session.stored (.ok ())
  hasTokens : HasTokens s.tokens
  cancelled_eq : s.line.cancelled = s.tokens.isCancelled (some Chain.writerToken)
  guard_eq : t.hasGuard = true → s.tokens.guards[0]? = some (decide (s.line.phase ≠ .ended))

section Step

variable {t : Task σ} {s : Flush σ}

theorem kept_start (t : Task σ) : Kept t (start t) where
  sound := Pipeline.sound_start ..
  settles := nofun
  pending_eq := rfl
  cancelled_of_checking := nofun
  calls_eq := rfl
  results_eq := rfl
  hasTokens := (hasTokens_start t).1
  cancelled_eq := (hasTokens_start t).2.symm
  guard_eq := by
    intro hguard
    unfold start Chain.start
    rw [hguard]
    rfl

/-- A write stores its entry, and nothing else changes but that its result is known. -/
theorem line_write (h : Kept t s) (hlt : s.line.session.stored < t.total) :
    (s.write t).line.session.stored = s.line.session.stored + 1 ∧
      (s.write t).line.session.pending = none ∧
      (s.write t).line.session.delivered = s.line.session.delivered ∧
      (s.write t).line.phase = s.line.phase ∧ (s.write t).line.cancelled = s.line.cancelled := by
  have hpending := h.pending_eq
  obtain ⟨⟨⟨ring, pending, stored, looks, numbers⟩, below, phase, cancelled⟩, _⟩ := s
  obtain rfl : pending = none := hpending
  have hlt : stored < t.total := hlt
  simp [write, Pipeline.run, Pipeline.move, hlt, Diode.Session.produce, Diode.Session.delivered]

theorem Kept.write (h : Kept t s) : Kept t (s.write t) := by
  by_cases hlt : s.line.session.stored < t.total
  · obtain ⟨hstored, hpending, hdelivered, hphase, hcancelled⟩ := line_write h hlt
    -- A write is two steps of the producer with nobody between them.
    have hsound := (h.sound.move .produce).move .produce
    have hsettles := (h.sound.move .produce).settles_move
      (h.sound.settles_move h.settles (m := .produce) nofun) (m := .produce) nofun
    unfold Flush.write at *
    rw [if_pos hlt] at *
    exact {
      sound := hsound
      settles := hsettles
      pending_eq := hpending
      cancelled_of_checking := by
        intro hchecking
        rw [hcancelled]
        exact h.cancelled_of_checking (hphase.symm.trans hchecking)
      calls_eq := by
        rw [hdelivered, hphase]
        exact h.calls_eq
      results_eq := by
        rw [hstored, List.replicate_succ', ← h.results_eq]
        rfl
      hasTokens := h.hasTokens
      cancelled_eq := hcancelled.trans h.cancelled_eq
      guard_eq := by
        rw [hphase]
        exact h.guard_eq }
  · unfold Flush.write
    rw [if_neg hlt]
    exact h

theorem Kept.stop (h : Kept t s) (how : Stop) : Kept t (s.stop t how) := by
  unfold Flush.stop
  by_cases hlt : s.line.session.stored < t.total
  · rw [if_pos hlt]
    exact h
  · rw [if_neg hlt]
    obtain ⟨htokens, hcancelled, hguards⟩ := cancel_spec h.hasTokens how
    have hmove : { s.line with cancelled := true } =
        s.line.move t.writer t.entry t.total .cancel := by
      rw [Pipeline.move, if_neg hlt]
    simp only [hcancelled]
    exact { h with
      sound := hmove ▸ h.sound.move .cancel
      settles := by
        -- A consumer that waits after it found nothing was told to end before.
        by_cases hbefore : s.line.cancelled = true
        · exact fun _ => h.settles hbefore
        · have hphase := mt h.cancelled_of_checking hbefore
          exact hmove ▸ h.sound.settles_move h.settles (m := .cancel) fun _ => hphase
      cancelled_of_checking := fun _ => rfl
      hasTokens := htokens
      cancelled_eq := hcancelled.symm
      guard_eq := by
        rw [hguards]
        exact h.guard_eq }

/-- The consumer does not concern those who write and who tell the writer to end. -/
theorem advance_frame (w : Writer σ) (p : Pipeline σ) :
    (p.advance w).cancelled = p.cancelled ∧
      (p.advance w).session.stored = p.session.stored ∧
      (p.advance w).session.pending = p.session.pending := by
  unfold Pipeline.advance
  cases p.phase with
  | checking => cases hc : p.cancelled <;> exact ⟨by simp, rfl, rfl⟩
  | _ => exact ⟨rfl, rfl, rfl⟩

/-- What steps of the consumer keep. -/
theorem Kept.iterate (h : Kept t s) (k : Nat) :
    let line := (Pipeline.advance t.writer)^[k] s.line
    Pipeline.Sound t.writer t.below t.size t.total t.entry line ∧ line.Settles t.total ∧
      line.cancelled = s.line.cancelled ∧ line.session.stored = s.line.session.stored ∧
      line.session.pending = none := by
  induction k with
  | zero => exact ⟨h.sound, h.settles, rfl, rfl, h.pending_eq⟩
  | succ k ih =>
    obtain ⟨hsound, hsettles, hcancelled, hstored, hpending⟩ := ih
    rw [Function.iterate_succ_apply']
    obtain ⟨hc, hs, hp⟩ := advance_frame t.writer ((Pipeline.advance t.writer)^[k] s.line)
    exact ⟨hsound.advance, hsound.settles_move hsettles (m := .advance) nofun,
      hc.trans hcancelled, hs.trans hstored, hp.trans hpending⟩

/-- A consumer that goes on makes a call for what it found. -/
theorem Kept.goes_on (h : Kept t s) (k : Nat) {calls : List Call} {resumeAt : Nat}
    (hbefore : s.line.phase ≠ .ended)
    (hafter : ((Pipeline.advance t.writer)^[k] s.line).phase ≠ .ended)
    (hchecking : ((Pipeline.advance t.writer)^[k] s.line).phase = .checking →
      s.line.cancelled = true)
    (hcalls : calls = ((Pipeline.advance t.writer)^[k] s.line).session.delivered.map .write ++
      closeCall ((Pipeline.advance t.writer)^[k] s.line).phase) :
    Kept t { s with
      line := (Pipeline.advance t.writer)^[k] s.line, resumeAt := resumeAt, calls := calls } := by
  obtain ⟨hsound, hsettles, hcancelled, hstored, hpending⟩ := h.iterate k
  exact {
    sound := hsound
    settles := hsettles
    pending_eq := hpending
    cancelled_of_checking := fun hphase => hcancelled.trans (hchecking hphase)
    calls_eq := hcalls
    results_eq := h.results_eq.trans (by rw [hstored])
    hasTokens := h.hasTokens
    cancelled_eq := hcancelled.trans h.cancelled_eq
    guard_eq := by
      intro hguard
      rw [h.guard_eq hguard]
      simp [hbefore, hafter] }

/-- A look finds an entry; or nothing is left and the writer was told to end; or it was not. -/
theorem look_cases (h : Kept t s) (hphase : s.line.phase = .looking) :
    (∃ e, (s.line.advance t.writer).phase = .passing e ∧
        (s.line.advance t.writer).session.delivered = s.line.session.delivered ++ [e] ∧
        s.line.session.ring.readIndex < (s.line.advance t.writer).session.ring.readIndex ∧
        s.look t = { s with
          line := s.line.advance t.writer
          resumeAt := s.now + t.writing s.line.session.delivered.length
          calls := s.calls ++ [.write e] }) ∨
      ((s.line.advance t.writer).session.delivered = s.line.session.delivered ∧
        (s.line.advance t.writer).phase = .checking ∧
        (s.line.cancelled = true ∧ s.look t = { s with
            line := s.line.advance t.writer
            resumeAt := s.now + t.closing
            calls := s.calls ++ [.close] } ∨
          s.line.cancelled = false ∧ s.look t = { s with
            line := (s.line.advance t.writer).advance t.writer
            resumeAt := s.now + t.interval })) := by
  obtain ⟨hcancelled, -, -⟩ := advance_frame t.writer s.line
  -- What the ring gives decides, and only if it gives nothing the consumer asks for the end.
  rcases Diode.Session.consume_cases h.sound.kept.holds with
    ⟨-, -, hgot, -, -⟩ | ⟨hlt, k, hk, -, hgot, -, hread⟩
  · have hnone : s.line.session.ring.tryNext.1.got = none := by
      rw [Diode.Session.delivered_consume] at hgot
      simpa using hgot
    have hadvance := Pipeline.advance_of_none (w := t.writer) hphase hnone
    refine .inr ⟨by rw [hadvance]; exact hgot, by rw [hadvance], ?_⟩
    unfold look
    rw [hadvance] at hcancelled ⊢
    cases hc : s.line.cancelled with
    | false => exact .inr ⟨rfl, by simp⟩
    | true => exact .inl ⟨rfl, by simp⟩
  · have hsome : s.line.session.ring.tryNext.1.got = some (t.entry k) := by
      rw [Diode.Session.delivered_consume] at hgot
      exact Option.toList_eq_singleton_iff.1 (List.append_cancel_left hgot)
    have hadvance : s.line.advance t.writer =
        { s.line with session := s.line.session.consume, phase := .passing (t.entry k) } := by
      rw [Pipeline.advance, hphase]
      simp only [hsome]
    have hle : s.line.session.ring.readIndex ≤ k := hk ▸ Diode.le_latest _ _ _
    refine .inl ⟨t.entry k, by rw [hadvance], by rw [hadvance]; exact hgot, ?_, ?_⟩
    · rw [hadvance]
      change _ < s.line.session.consume.ring.readIndex
      omega
    · unfold look
      simp only [hadvance]

theorem Kept.look (h : Kept t s) (hphase : s.line.phase = .looking) : Kept t (s.look t) := by
  have hbefore : s.line.phase ≠ .ended := by simp [hphase]
  have hcalls := h.calls_eq
  rw [hphase] at hcalls
  have hcalls : s.calls = s.line.session.delivered.map .write := hcalls.trans (List.append_nil _)
  rcases look_cases h hphase with
    ⟨e, hpassing, hgot, -, heq⟩ | ⟨hgot, hchecking, ⟨hc, heq⟩ | ⟨hc, heq⟩⟩
  · have hnext : (s.line.advance t.writer).phase ≠ .ended ∧
        (s.line.advance t.writer).phase ≠ .checking := by simp [hpassing]
    rw [heq]
    refine h.goes_on 1 hbefore hnext.1 (fun hchecking => absurd hchecking hnext.2) ?_
    change _ = (s.line.advance t.writer).session.delivered.map Call.write ++
      closeCall (s.line.advance t.writer).phase
    rw [hpassing, hgot, hcalls, List.map_append]
    exact (List.append_nil _).symm
  · have hnext : (s.line.advance t.writer).phase ≠ .ended := by simp [hchecking]
    rw [heq]
    refine h.goes_on 1 hbefore hnext (fun _ => hc) ?_
    change _ = (s.line.advance t.writer).session.delivered.map Call.write ++
      closeCall (s.line.advance t.writer).phase
    rw [hchecking, hgot, hcalls]
    rfl
  · rw [heq]
    have hagain : (s.line.advance t.writer).advance t.writer =
        { s.line.advance t.writer with phase := .looking } := by
      rw [Pipeline.advance, hchecking]
      simp [(advance_frame t.writer s.line).1, hc]
    have hnext : ((s.line.advance t.writer).advance t.writer).phase ≠ .ended ∧
        ((s.line.advance t.writer).advance t.writer).phase ≠ .checking := by simp [hagain]
    refine h.goes_on 2 hbefore hnext.1 (fun hchecking => absurd hchecking hnext.2) ?_
    change _ = ((s.line.advance t.writer).advance t.writer).session.delivered.map Call.write ++
      closeCall ((s.line.advance t.writer).advance t.writer).phase
    rw [hagain, hcalls, ← hgot]
    exact (List.append_nil _).symm

/-- The writer below is done with an envelope. -/
theorem advance_of_passing {w : Writer σ} {p : Pipeline σ} {e : Envelope}
    (hphase : p.phase = .passing e) :
    p.advance w = { p with below := Buffered.pass w p.below e, phase := .looking } := by
  rw [Pipeline.advance, hphase]

/-- The writer below is closed. -/
theorem advance_of_closing {w : Writer σ} {p : Pipeline σ} (hphase : p.phase = .checking)
    (hc : p.cancelled = true) :
    p.advance w = { p with below := (w.close p.below).2, phase := .ended } := by
  rw [Pipeline.advance, hphase]
  simp only [hc, if_true]

theorem Kept.passed (h : Kept t s) {e : Envelope} (hphase : s.line.phase = .passing e) :
    Kept t { s with line := s.line.advance t.writer } := by
  have hadvance := advance_of_passing (w := t.writer) hphase
  have hlooking : ((Pipeline.advance t.writer)^[1] s.line).phase = .looking :=
    congrArg Pipeline.phase hadvance
  refine h.goes_on 1 (by simp [hphase]) (by simp [hadvance]) (by simp [hadvance]) ?_
  have hcalls := h.calls_eq
  rw [hphase] at hcalls
  rw [hlooking, hcalls]
  exact congrArg (fun p => p.session.delivered.map Call.write ++ closeCall .looking) hadvance.symm

theorem Kept.ends (h : Kept t s) (hphase : s.line.phase = .checking) :
    Kept t { s with
      line := s.line.advance t.writer
      tokens := if t.hasGuard then s.tokens.release 0 else s.tokens } := by
  obtain ⟨hsound, hsettles, hcancelled, hstored, hpending⟩ := h.iterate 1
  have hadvance := advance_of_closing (w := t.writer) hphase (h.cancelled_of_checking hphase)
  have hended : (s.line.advance t.writer).phase = .ended := congrArg Pipeline.phase hadvance
  have hcalls := h.calls_eq
  rw [hphase] at hcalls
  exact {
    sound := hsound
    settles := hsettles
    pending_eq := hpending
    cancelled_of_checking := fun hchecking => nomatch hended.symm.trans hchecking
    calls_eq := by
      change s.calls = (s.line.advance t.writer).session.delivered.map Call.write ++
        closeCall (s.line.advance t.writer).phase
      rw [hadvance, hcalls]
      rfl
    results_eq := h.results_eq.trans (by rw [← hstored]; rfl)
    hasTokens := by split <;> exact h.hasTokens
    cancelled_eq := by
      refine hcancelled.trans (h.cancelled_eq.trans ?_)
      split <;> rfl
    guard_eq := by
      intro hguard
      have hheld := h.guard_eq hguard
      obtain ⟨hlt, -⟩ := List.getElem?_eq_some_iff.1 hheld
      rw [hended, if_pos hguard]
      exact List.getElem?_set_self hlt }

theorem Kept.turn (h : Kept t s) : Kept t (s.turn t) := by
  unfold Flush.turn
  cases hphase : s.line.phase with
  | looking =>
    simp only
    split
    · exact h.look hphase
    · exact h
  | passing e =>
    simp only
    split
    · refine (h.passed hphase).look ?_
      exact congrArg Pipeline.phase (advance_of_passing (w := t.writer) hphase)
    · exact h
  | checking =>
    simp only
    split
    · exact h.ends hphase
    · exact h
  | ended => exact h

theorem Kept.takeGuard (h : Kept t s) : Kept t { s with tokens := s.tokens.takeGuard } :=
  { h with
    guard_eq := by
      intro hguard
      have hheld := h.guard_eq hguard
      obtain ⟨hlt, -⟩ := List.getElem?_eq_some_iff.1 hheld
      exact (List.getElem?_append_left hlt).trans hheld }

theorem Kept.releaseGuard (h : Kept t s) {g : Nat} (hg : ¬(t.hasGuard = true ∧ g = 0)) :
    Kept t { s with tokens := s.tokens.release g } :=
  { h with
    guard_eq := by
      intro hguard
      have hne : g ≠ 0 := fun hzero => hg ⟨hguard, hzero⟩
      exact (List.getElem?_set_ne hne).trans (h.guard_eq hguard) }

theorem Kept.move (h : Kept t s) (m : Move) : Kept t (s.move t m) := by
  cases m with
  | write => exact h.write
  | stop how => exact h.stop how
  | turn => exact h.turn
  | tick => exact { h with }
  | takeGuard => exact h.takeGuard
  | releaseGuard g =>
    rw [Flush.move]
    split
    · exact h
    · next hg => exact h.releaseGuard hg

theorem Kept.run (h : Kept t s) (moves : List Move) : Kept t (s.run t moves) := by
  induction moves generalizing s with
  | nil => exact h
  | cons m moves ih => exact ih (h.move m)

end Step

/-! ## The consumer comes to its end -/

/-- The consumer sleeps or waits as long as it has to, and goes on. -/
def rouse (s : Flush σ) : List Move := .replicate (s.resumeAt - s.now) .tick ++ [.turn]

section End

variable {t : Task σ} {s : Flush σ}

theorem run_ticks (t : Task σ) (s : Flush σ) (n : Nat) :
    s.run t (.replicate n .tick) = { s with now := s.now + n } := by
  induction n generalizing s with
  | zero => rfl
  | succ n ih =>
    change (s.move t .tick).run t (.replicate n .tick) = _
    rw [ih]
    simp [move, Nat.add_assoc, Nat.add_comm 1]

/-- How much the consumer has left to do once the writer was told to end. -/
def work (t : Task σ) (p : Pipeline σ) : Nat :=
  match p.phase with
  | .ended => 0
  | .checking => 1
  | _ => 2 + (t.total - p.session.ring.readIndex)

theorem look_line (t : Task σ) (s : Flush σ) :
    ∃ k, (s.look t).line = (Pipeline.advance t.writer)^[k] s.line := by
  unfold look
  dsimp only
  split
  · exact ⟨1, rfl⟩
  · split
    · exact ⟨1, rfl⟩
    · exact ⟨2, rfl⟩

/-- What the consumer does in time is what it does step by step. -/
theorem turn_line (t : Task σ) (s : Flush σ) :
    ∃ k, (s.turn t).line = (Pipeline.advance t.writer)^[k] s.line := by
  unfold turn
  cases s.line.phase with
  | looking =>
    dsimp only
    split
    · exact look_line t s
    · exact ⟨0, rfl⟩
  | passing e =>
    dsimp only
    split
    · obtain ⟨k, hk⟩ := look_line t { s with line := s.line.advance t.writer }
      exact ⟨k + 1, hk⟩
    · exact ⟨0, rfl⟩
  | checking =>
    dsimp only
    split
    · exact ⟨1, rfl⟩
    · exact ⟨0, rfl⟩
  | ended => exact ⟨0, rfl⟩

/-- A look of one that was told to end leaves it with less to do. -/
theorem work_look (h : Kept t s) (hphase : s.line.phase = .looking)
    (hc : s.line.cancelled = true) : (s.look t).line.phase ≠ .ended ∧
      (s.look t).tokens = s.tokens ∧ work t (s.look t).line < work t s.line := by
  have hread := (h.look hphase).sound.kept.holds.read_le
  have hstored := (h.look hphase).sound.stored_le
  rcases look_cases h hphase with
    ⟨e, hpassing, -, hlt, heq⟩ | ⟨-, hchecking, ⟨-, heq⟩ | ⟨hnot, -⟩⟩
  · rw [heq] at hread hstored ⊢
    refine ⟨by simp [hpassing], rfl, ?_⟩
    simp only [work, hpassing, hphase] at hread hstored ⊢
    omega
  · rw [heq]
    refine ⟨by simp [hchecking], rfl, ?_⟩
    simp only [work, hchecking, hphase]
    omega
  · exact nomatch hc.symm.trans hnot

/-- A consumer that goes on after it was told to end has ended, or has less left to do. -/
theorem turn_spec (h : Kept t s) (hdue : s.resumeAt ≤ s.now) (hc : s.line.cancelled = true)
    (hphase : s.line.phase ≠ .ended) :
    ((s.turn t).line.phase = .ended ∧
      (s.turn t).tokens = if t.hasGuard then s.tokens.release 0 else s.tokens) ∨
    ((s.turn t).line.phase ≠ .ended ∧ (s.turn t).tokens = s.tokens ∧
      work t (s.turn t).line < work t s.line) := by
  unfold turn
  cases hp : s.line.phase with
  | looking =>
    simp only [hdue, true_or, if_true]
    exact .inr (work_look h hp hc)
  | passing e =>
    simp only [hdue, if_true]
    have hadvance := advance_of_passing (w := t.writer) hp
    obtain ⟨hnot, htokens, hless⟩ := work_look (h.passed hp)
      (congrArg Pipeline.phase hadvance) ((congrArg Pipeline.cancelled hadvance).trans hc)
    refine .inr ⟨hnot, htokens, hless.trans_eq ?_⟩
    rw [hadvance]
    simp only [work, hp]
  | checking =>
    dsimp only
    rw [if_pos hdue]
    exact .inl ⟨congrArg Pipeline.phase (advance_of_closing hp hc), rfl⟩
  | ended => exact absurd hp hphase

/-- **The flush comes to its end.** Once the writer was told to end, the consumer needs nothing but
time and turns. -/
theorem exists_ended (h : Kept t s) (hc : s.line.cancelled = true)
    (hphase : s.line.phase ≠ .ended) : ∃ more : List Move, (∀ m ∈ more, m = .tick ∨ m = .turn) ∧
      (s.run t more).line.phase = .ended ∧
      (s.run t more).tokens = (if t.hasGuard then s.tokens.release 0 else s.tokens) ∧
      ∃ k, (s.run t more).line = (Pipeline.advance t.writer)^[k] s.line := by
  -- The induction is on what is left to do: to wait, and a turn, leave less of it.
  induction hwork : work t s.line using Nat.strong_induction_on generalizing s with
  | _ n ih =>
    have hawake := h.run (.replicate (s.resumeAt - s.now) .tick)
    rw [run_ticks] at hawake
    set s' : Flush σ := { s with now := s.now + (s.resumeAt - s.now) } with hs'
    have hdue : s'.resumeAt ≤ s'.now := by
      simp only [hs']
      omega
    have hrun : s.run t (rouse s) = s'.turn t := by
      rw [rouse, run_append_singleton, run_ticks]
      rfl
    have hmoves : ∀ m ∈ rouse s, m = .tick ∨ m = .turn := by
      intro m hm
      rcases List.mem_append.1 hm with hm | hm
      · exact .inl (List.eq_of_mem_replicate hm)
      · exact .inr (List.mem_singleton.1 hm)
    obtain ⟨k, hk⟩ := turn_line t s'
    rcases turn_spec hawake hdue hc hphase with ⟨hended, htokens⟩ | ⟨hnot, htokens, hless⟩
    · exact ⟨rouse s, hmoves, by rw [hrun]; exact hended, by rw [hrun]; exact htokens, k,
        by rw [hrun]; exact hk⟩
    · have hc' : (s'.turn t).line.cancelled = true := by
        rw [hk]
        exact ((hawake.iterate k).2.2.1).trans hc
      obtain ⟨more, hmore, hended, htokens', j, hj⟩ :=
        ih _ (hwork ▸ hless) hawake.turn hc' hnot rfl
      refine ⟨rouse s ++ more, ?_, ?_, ?_, j + k, ?_⟩
      · intro m hm
        exact (List.mem_append.1 hm).elim (hmoves m) (hmore m)
      · rw [run_append, hrun]
        exact hended
      · rw [run_append, hrun, htokens', htokens]
      · rw [run_append, hrun, hj, hk, Function.iterate_add_apply]

end End

/-! ## The chain as its owner sees it -/

section Owner

variable {t : Task σ} {s : Flush σ}

theorem toChain_start (t : Task σ) :
    (start t).toChain = Chain.start t.size t.hasGuard t.below := rfl

theorem toChain_write (h : Kept t s) (hlt : s.line.session.stored < t.total) :
    (s.write t).toChain = (s.toChain.write (t.entry s.line.session.stored)).2 := by
  have hwrite : (s.line.run t.writer t.entry t.total [.produce, .produce]).toBuffered =
      (s.line.toBuffered.write (t.entry s.line.session.stored)).2 :=
    Pipeline.toBuffered_write h.pending_eq hlt
  unfold write
  rw [if_pos hlt, toChain, hwrite]
  rfl

/-- The result of a write that the owner gets is the one that is recorded. -/
theorem results_write (hlt : s.line.session.stored < t.total) :
    (s.write t).results =
      s.results ++ (s.toChain.write (t.entry s.line.session.stored)).1.toList := by
  unfold write
  rw [if_pos hlt]
  rfl

theorem toChain_close (hall : t.total ≤ s.line.session.stored) :
    (s.stop t .close).toChain = s.toChain.close.2 := by
  unfold stop
  rw [if_neg (Nat.not_lt.2 hall)]
  rfl

theorem toChain_cancelSubscription (hall : t.total ≤ s.line.session.stored) :
    (s.stop t .subscription).toChain = s.toChain.cancelSubscription := by
  unfold stop
  rw [if_neg (Nat.not_lt.2 hall)]
  rfl

/-- A consumer that has ended does nothing more. -/
theorem iterate_eq_of_ended {w : Writer σ} {p : Pipeline σ} {j k : Nat}
    (hj : ((Pipeline.advance w)^[j] p).phase = .ended)
    (hk : ((Pipeline.advance w)^[k] p).phase = .ended) :
    (Pipeline.advance w)^[j] p = (Pipeline.advance w)^[k] p := by
  wlog hle : j ≤ k generalizing j k
  · exact (this hk hj (Nat.le_of_not_le hle)).symm
  have hfixed : ((Pipeline.advance w)^[j] p).advance w = (Pipeline.advance w)^[j] p := by
    rw [Pipeline.advance, hj]
  have hsame := Function.iterate_fixed hfixed (k - j)
  rw [← Function.iterate_add_apply, Nat.sub_add_cancel hle] at hsame
  exact hsame.symm

/-- In the end the chain is as it is for an owner that waits for the end. -/
theorem exists_awaitEnd (h : Kept t s) (hguard : t.hasGuard = true)
    (hc : s.line.cancelled = true) (hphase : s.line.phase = .looking) :
    ∃ more : List Move, (∀ m ∈ more, m = .tick ∨ m = .turn) ∧
      (s.run t more).toChain = s.toChain.awaitEnd t.writer := by
  obtain ⟨more, hmore, hended, htokens, k, hk⟩ := exists_ended h hc (by simp [hphase])
  -- The consumer that its owner waits for ends, too, and so in the same state.
  obtain ⟨j, hconsume, hj⟩ :=
    Pipeline.exists_consume t.writer t.total h.sound.kept.holds hphase
  rw [hc, ← Pipeline.iterate_advance] at hj
  rw [← Pipeline.iterate_advance, iterate_eq_of_ended hj (hk ▸ hended), ← hk] at hconsume
  have hcancelled : s.line.toBuffered.cancelled = true := hc
  refine ⟨more, hmore, ?_⟩
  have hflushed : (s.run t more).line.toBuffered.isFlushing = false := by
    simp [Buffered.isFlushing, Pipeline.toBuffered, hended]
  have hawait : s.toChain.awaitEnd t.writer =
      s.toChain.settle ((s.run t more).line.toBuffered) := by
    rw [hconsume, Chain.awaitEnd, Buffered.awaitEnd]
    simp only [toChain, hcancelled, if_true]
    rfl
  rw [hawait, Chain.settle, hflushed, toChain, htokens, hguard]
  rfl

end Owner

/-! ## What is true at any time -/

/-- The envelopes that the writer below was given. -/
def forwarded (s : Flush σ) : List Envelope := s.calls.filterMap Call.envelope?

/-- What is true of a buffered writer at any time. -/
structure Law (t : Task σ) (s : Flush σ) : Prop where
  /-- All writes went well. -/
  results_eq : s.results = List.replicate s.line.session.stored (.ok ())
  /-- The next one would, too, whatever the consumer is at, and without taking time. -/
  accepts : s.line.session.stored < t.total →
    (s.write t).results = s.results ++ [.ok ()] ∧ (s.write t).now = s.now ∧
      (s.write t).line.session.stored = s.line.session.stored + 1
  /-- The writer below gets some of the envelopes that were written, in order and each once. -/
  in_order : ∃ numbers : List Nat, numbers.Pairwise (· < ·) ∧
    (∀ k ∈ numbers, k < s.line.session.stored) ∧ s.forwarded = numbers.map t.entry
  /-- It is closed once, and asked for nothing after that. -/
  close_last : ∀ front back, s.calls = front ++ .close :: back → .close ∉ front ∧ back = []
  /-- It is not closed before the end is called for. -/
  cancelled_of_close : .close ∈ s.calls → s.line.cancelled = true
  /-- When the consumer has ended, each envelope was passed on or counted as missed, the last one
  was passed on, and the writer below is closed. -/
  of_ended : s.line.phase = .ended →
    s.forwarded.length + s.line.session.alerts.sum = t.total ∧
      s.line.session.stored = t.total ∧
      s.forwarded.getLast? = (if t.total = 0 then none else some (t.entry (t.total - 1))) ∧
      s.calls = s.forwarded.map .write ++ [.close] ∧
      s.line.below = (t.writer.close (s.forwarded.foldl (Buffered.pass t.writer) t.below)).2
  /-- Until then, and no longer, the controller counts it among those that flush. -/
  flushing_eq : t.hasGuard = true → s.tokens.flushing =
    (if s.line.phase = .ended then 0 else 1) + s.tokens.guards.tail.count true
  /-- The consumer ends after it was told to, if time goes on and it has turns. -/
  ends : s.line.cancelled = true → ∃ more : List Move, (∀ m ∈ more, m = .tick ∨ m = .turn) ∧
    (s.run t more).line.phase = .ended
  /-- Whoever tells the writer to end once all is written, it is told and has done nothing else
  yet, and then the consumer comes to its end. -/
  told : t.total ≤ s.line.session.stored → ∀ how : Stop, (s.stop t how).line.cancelled = true ∧
    (s.stop t how).calls = s.calls ∧ (s.stop t how).results = s.results ∧
      (s.stop t how).now = s.now ∧
      ∃ more : List Move, (∀ m ∈ more, m = .tick ∨ m = .turn) ∧
        ((s.stop t how).run t more).line.phase = .ended

section Law

variable {t : Task σ} {s : Flush σ}

theorem filterMap_envelope? (es : List Envelope) :
    (es.map Call.write).filterMap Call.envelope? = es := by
  rw [List.filterMap_map]
  exact List.filterMap_some

theorem Kept.forwarded_eq (h : Kept t s) : s.forwarded = s.line.session.delivered := by
  have hclose : (closeCall s.line.phase).filterMap Call.envelope? = [] := by
    cases s.line.phase <;> rfl
  rw [forwarded, h.calls_eq, List.filterMap_append, filterMap_envelope?, hclose, List.append_nil]

theorem Kept.of_ended (h : Kept t s) (hended : s.line.phase = .ended) :
    s.forwarded.length + s.line.session.alerts.sum = t.total ∧
      s.line.session.stored = t.total ∧
      s.forwarded.getLast? = (if t.total = 0 then none else some (t.entry (t.total - 1))) ∧
      s.calls = s.forwarded.map .write ++ [.close] ∧
      s.line.below = (t.writer.close (s.forwarded.foldl (Buffered.pass t.writer) t.below)).2 := by
  have hread : s.line.session.ring.readIndex = t.total :=
    h.settles (h.sound.cancelled_eq hended) (.inr hended)
  have hcounted := h.sound.kept.counted
  have hlast := h.sound.kept.last_eq
  have hcalls := h.calls_eq
  rw [hended] at hcalls
  rw [h.forwarded_eq, h.sound.kept.delivered_eq]
  refine ⟨?_, h.sound.stored_of_ended hended, ?_, ?_, ?_⟩
  · rw [List.length_map, hcounted, hread]
  · rw [List.getLast?_map, hlast, hread]
    split <;> rfl
  · rw [← h.sound.kept.delivered_eq]
    exact hcalls
  · rw [← h.sound.kept.delivered_eq]
    exact h.sound.below_of_ended hended

theorem close_not_mem_writes (es : List Envelope) : Call.close ∉ es.map Call.write := by
  simp

/-- The writer below was closed just if the consumer has nothing more to pass on. -/
theorem Kept.close_mem_iff (h : Kept t s) :
    .close ∈ s.calls ↔ s.line.phase = .checking ∨ s.line.phase = .ended := by
  rw [h.calls_eq, List.mem_append, or_iff_right (close_not_mem_writes _)]
  cases s.line.phase <;> simp [closeCall]

theorem Kept.close_last (h : Kept t s) {front back : List Call}
    (heq : s.calls = front ++ .close :: back) : .close ∉ front ∧ back = [] := by
  have hclosed := h.close_mem_iff.1 (heq ▸ List.mem_append_right _ List.mem_cons_self)
  have hcall : closeCall s.line.phase = [.close] := by
    rcases hclosed with hphase | hphase <;> rw [hphase] <;> rfl
  have hcalls := h.calls_eq
  rw [hcall, heq] at hcalls
  rcases List.append_eq_append_iff.1 hcalls with ⟨rest, hwrites, hrest⟩ | ⟨rest, hfront, hrest⟩
  · cases rest with
    | nil =>
      rw [List.append_nil] at hwrites
      exact ⟨hwrites ▸ close_not_mem_writes _, (List.cons.inj hrest).2⟩
    | cons call rest =>
      -- Otherwise the writer would have been closed between two writes.
      obtain ⟨rfl, -⟩ := List.cons.inj hrest
      exact absurd (hwrites ▸ List.mem_append_right _ List.mem_cons_self)
        (close_not_mem_writes s.line.session.delivered)
  · cases rest with
    | nil =>
      rw [List.append_nil] at hfront
      exact ⟨hfront ▸ close_not_mem_writes _, ((List.cons.inj hrest).2).symm⟩
    | cons call rest => simp at hrest

theorem Kept.flushing_eq (h : Kept t s) (hguard : t.hasGuard = true) : s.tokens.flushing =
    (if s.line.phase = .ended then 0 else 1) + s.tokens.guards.tail.count true := by
  -- The guard of the consumer is the first that was taken.
  have hown := h.guard_eq hguard
  rw [Shutdown.Controller.flushing]
  cases hguards : s.tokens.guards with
  | nil => simp [hguards] at hown
  | cons b others =>
    obtain rfl : b = decide (s.line.phase ≠ .ended) := by simpa [hguards] using hown
    by_cases hended : s.line.phase = .ended
    · simp [hended]
    · simp [hended, Nat.add_comm]

/-- One that was told to end ends, or has ended. -/
theorem Kept.ends_of_cancelled (h : Kept t s) (hc : s.line.cancelled = true) :
    ∃ more : List Move, (∀ m ∈ more, m = .tick ∨ m = .turn) ∧
      (s.run t more).line.phase = .ended := by
  by_cases hended : s.line.phase = .ended
  · exact ⟨[], nofun, hended⟩
  · obtain ⟨more, hmore, hend, -⟩ := exists_ended h hc hended
    exact ⟨more, hmore, hend⟩

/-- Once all is written, whoever tells the writer to end is heard. -/
theorem stop_spec (h : Kept t s) (hall : t.total ≤ s.line.session.stored) (how : Stop) :
    (s.stop t how).line.cancelled = true ∧ (s.stop t how).calls = s.calls ∧
      (s.stop t how).results = s.results ∧ (s.stop t how).now = s.now := by
  have hcancelled := (cancel_spec h.hasTokens how).2.1
  unfold stop
  rw [if_neg (Nat.not_lt.2 hall)]
  exact ⟨hcancelled, rfl, rfl, rfl⟩

theorem Kept.law (h : Kept t s) : Law t s where
  results_eq := h.results_eq
  accepts := by
    intro hlt
    refine ⟨?_, ?_, (line_write h hlt).1⟩
    · rw [results_write hlt]
      rfl
    · unfold Flush.write
      rw [if_pos hlt]
  in_order := by
    refine ⟨s.line.session.numbers, h.sound.kept.ascending, fun k hk => ?_, ?_⟩
    · exact Nat.lt_of_lt_of_le (h.sound.kept.lt_read k hk) h.sound.kept.holds.read_le
    · rw [h.forwarded_eq, h.sound.kept.delivered_eq]
  close_last _ _ heq := h.close_last heq
  cancelled_of_close := by
    intro hclose
    rcases h.close_mem_iff.1 hclose with hchecking | hended
    · exact h.cancelled_of_checking hchecking
    · exact h.sound.cancelled_eq hended
  of_ended := h.of_ended
  flushing_eq := h.flushing_eq
  ends := h.ends_of_cancelled
  told := by
    intro hall how
    obtain ⟨hcancelled, hcalls, hresults, hnow⟩ := stop_spec h hall how
    exact ⟨hcancelled, hcalls, hresults, hnow, (h.stop how).ends_of_cancelled hcancelled⟩

end Law

end Flush

end LogEgress.Egress
