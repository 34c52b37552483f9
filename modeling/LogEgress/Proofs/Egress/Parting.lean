import LogEgress.Proofs.Egress.Pipeline

set_option autoImplicit false

/-! # When a waiting reader gives up

A reader that waits for the next entry looks at the ring. If it finds nothing it asks whether the
ring was cancelled; if not, it rests for a while, and looks again. It gives up when it found
nothing and then the ring cancelled. These are two steps, and the producer may do all the rest of
its work between them: store entries, and cancel.

So what a reader leaves behind when it gives up are the entries that were stored between its last
look and the cancellation (`Watch.left_behind`), and `gives_up_on_entry` is a course in which one
is. The consumer of a buffered writer is such a reader (`Pipeline.exists_run_watch`).
-/

namespace LogEgress.Diode

variable {α : Type}

/-- What a waiting reader does next. -/
inductive Stage where
  | looking
  /-- It found nothing, and asks whether the ring was cancelled. -/
  | asking
  /-- It was not: the reader rests until some time has passed or the cancellation comes. -/
  | resting
  /-- It was: the reader has given up. -/
  | gone
  deriving DecidableEq, Repr

/-- A ring between its producer and a reader that waits for each next entry. -/
structure Watch (α : Type) where
  session : Session α
  stage : Stage := .looking
  /-- The producer has written all and has cancelled. -/
  cancelled : Bool := false

namespace Watch

/-- A ring that was not used yet. -/
def start (size : Nat) : Watch α := { session := .start size }

/-- A step of the reader. With an entry that it found it comes back to look for the next one. -/
def read (s : Watch α) : Watch α :=
  match s.stage with
  | .looking =>
    { s with
      session := s.session.consume
      stage := if s.session.ring.tryNext.1.got.isSome then .looking else .asking }
  | .asking => { s with stage := if s.cancelled then .gone else .resting }
  | .resting => { s with stage := .looking }
  | .gone => s

/-- A step of one of the two. -/
inductive Move where
  /-- The producer claims a number, or stores the entry that it claimed one for. -/
  | produce
  | cancel
  | read
  deriving DecidableEq, Repr

/-- Takes a step. The producer cancels between two entries, and writes nothing after that. -/
def move (entry : Nat → α) (s : Watch α) : Move → Watch α
  | .produce => if s.cancelled then s else { s with session := s.session.produce entry }
  | .cancel => if s.session.pending.isSome then s else { s with cancelled := true }
  | .read => s.read

/-- Takes steps in some order. -/
def run (entry : Nat → α) (s : Watch α) (moves : List Move) : Watch α := moves.foldl (move entry) s

theorem run_append (entry : Nat → α) (s : Watch α) (moves more : List Move) :
    s.run entry (moves ++ more) = (s.run entry moves).run entry more :=
  List.foldl_append

theorem run_append_singleton (entry : Nat → α) (s : Watch α) (moves : List Move) (m : Move) :
    s.run entry (moves ++ [m]) = (s.run entry moves).move entry m :=
  List.foldl_concat ..

/-- How many of the entries stored so far were delivered or counted as missed. -/
def accounted (s : Watch α) : Nat := s.session.numbers.length + s.session.alerts.sum

/-! ## Single steps -/

section Step

variable {entry : Nat → α} {n : Nat} {s : Watch α}

theorem read_of_looking (h : s.stage = .looking) : s.read =
    { s with
      session := s.session.consume
      stage := if s.session.ring.tryNext.1.got.isSome then .looking else .asking } := by
  rw [read, h]

theorem read_of_asking (h : s.stage = .asking) :
    s.read = { s with stage := if s.cancelled then .gone else .resting } := by
  rw [read, h]

theorem kept_move (h : s.session.Kept n entry) (m : Move) :
    (s.move entry m).session.Kept n entry := by
  cases m with
  | produce =>
    rw [move]
    split
    · exact h
    · exact h.produce
  | cancel =>
    rw [move]
    split
    · exact h
    · exact h
  | read =>
    rw [move, read]
    split
    · exact h.consume
    · exact h
    · exact h
    · exact h

/-- What the producer does concerns neither the reader nor what it has accounted for. -/
theorem reader_move (entry : Nat → α) {m : Move} (hm : m ≠ .read) :
    (s.move entry m).stage = s.stage ∧ (s.move entry m).accounted = s.accounted := by
  cases m with
  | produce =>
    rw [move]
    split
    · exact ⟨rfl, rfl⟩
    · obtain ⟨hLooks, hNumbers, -⟩ := Session.reader_produce entry s.session
      refine ⟨rfl, ?_⟩
      simp only [accounted, Session.alerts, hLooks, hNumbers]
  | cancel =>
    rw [move]
    split
    · exact ⟨rfl, rfl⟩
    · exact ⟨rfl, rfl⟩
  | read => exact absurd rfl hm

/-- After the cancellation nothing is stored. -/
theorem stored_move (entry : Nat → α) (h : s.cancelled = true) (m : Move) :
    (s.move entry m).cancelled = true ∧ (s.move entry m).session.stored = s.session.stored := by
  cases m with
  | produce =>
    rw [move, if_pos h]
    exact ⟨h, rfl⟩
  | cancel =>
    rw [move]
    split
    · exact ⟨h, rfl⟩
    · exact ⟨rfl, rfl⟩
  | read =>
    rw [move, read]
    split
    · exact ⟨h, rfl⟩
    · exact ⟨h, rfl⟩
    · exact ⟨h, rfl⟩
    · exact ⟨h, rfl⟩

end Step

theorem kept_run (entry : Nat → α) (size : Nat) (moves : List Move) :
    ((start size).run entry moves).session.Kept (max 1 size) entry := by
  induction moves using List.reverseRecOn with
  | nil => exact Session.kept_start entry size
  | append_singleton moves m ih =>
    rw [run_append_singleton]
    exact kept_move ih m

theorem stored_run {entry : Nat → α} {s : Watch α} (h : s.cancelled = true) (moves : List Move) :
    (s.run entry moves).session.stored = s.session.stored := by
  induction moves generalizing s with
  | nil => rfl
  | cons m moves ih =>
    obtain ⟨hCancelled, hStored⟩ := stored_move entry h m
    exact (ih hCancelled).trans hStored

/-! ## The last look -/

/-- The moves after which a reader asks whether the ring was cancelled: with the look after `front`
it found nothing, and it took no step in `mid`. -/
structure FoundNothing (size : Nat) (entry : Nat → α) (front mid : List Move) : Prop where
  looking : ((start size).run entry front).stage = .looking
  nothing : ((start size).run entry front).session.ring.tryNext.1.got = none
  not_read : .read ∉ mid
  /-- What was stored before the look is accounted for. -/
  accounted_eq : ((start size).run entry (front ++ .read :: mid)).accounted =
    ((start size).run entry front).session.stored

section Looks

variable {size : Nat} {entry : Nat → α} {moves front mid : List Move}

/-- A look finds nothing just if all that was stored is accounted for. -/
theorem got_eq_none_iff (size : Nat) (entry : Nat → α) (moves : List Move) :
    ((start size).run entry moves).session.ring.tryNext.1.got = none ↔
      ((start size).run entry moves).accounted = ((start size).run entry moves).session.stored := by
  have hLaw := (kept_run entry size moves).law
  rw [hLaw.none_iff, accounted, hLaw.counted]

theorem foundNothing_of_look (hLooking : ((start size).run entry moves).stage = .looking)
    (hNothing : ((start size).run entry moves).session.ring.tryNext.1.got = none) :
    FoundNothing size entry moves [] := by
  refine ⟨hLooking, hNothing, List.not_mem_nil, ?_⟩
  have hKept := kept_run entry size moves
  have hAccounted := (got_eq_none_iff size entry moves).1 hNothing
  rw [run_append_singleton, move, read_of_looking hLooking]
  rcases Session.consume_cases hKept.holds with ⟨-, hNumbers, -, hAlerts, -⟩ | ⟨hLt, -⟩
  · simpa only [accounted, hNumbers, hAlerts] using hAccounted
  · have hAll := hKept.law.none_iff.1 hNothing
    omega

theorem FoundNothing.snoc (h : FoundNothing size entry front mid) {m : Move} (hm : m ≠ .read) :
    FoundNothing size entry front (mid ++ [m]) := by
  refine ⟨h.looking, h.nothing, ?_, ?_⟩
  · rw [List.mem_append, List.mem_singleton, not_or]
    exact ⟨h.not_read, hm.symm⟩
  · rw [← List.cons_append, ← List.append_assoc, run_append_singleton, (reader_move entry hm).2]
    exact h.accounted_eq

/-- How a reader came to ask, and how it came to give up. -/
structure Traced (size : Nat) (entry : Nat → α) (moves : List Move) : Prop where
  of_asking : ((start size).run entry moves).stage = .asking →
    ∃ front mid, moves = front ++ .read :: mid ∧ FoundNothing size entry front mid
  of_gone : ((start size).run entry moves).stage = .gone →
    ∃ front mid back, moves = front ++ .read :: (mid ++ .read :: back) ∧
      FoundNothing size entry front mid ∧
      ((start size).run entry (front ++ .read :: mid)).cancelled = true ∧
      ((start size).run entry moves).accounted = ((start size).run entry front).session.stored

theorem Traced.snoc_of_ne (h : Traced size entry moves) {m : Move} (hm : m ≠ .read) :
    Traced size entry (moves ++ [m]) := by
  obtain ⟨hStage, hAccounted⟩ := reader_move entry
    (s := (start size).run entry moves) hm
  constructor
  · intro hAsking
    rw [run_append_singleton, hStage] at hAsking
    obtain ⟨front, mid, rfl, hFound⟩ := h.of_asking hAsking
    exact ⟨front, mid ++ [m], by simp, hFound.snoc hm⟩
  · intro hGone
    rw [run_append_singleton, hStage] at hGone
    obtain ⟨front, mid, back, rfl, hFound, hCancelled, hAll⟩ := h.of_gone hGone
    refine ⟨front, mid, back ++ [m], by simp, hFound, hCancelled, ?_⟩
    rw [run_append_singleton, hAccounted]
    exact hAll

theorem Traced.snoc_read (h : Traced size entry moves) : Traced size entry (moves ++ [.read]) := by
  cases hStage : ((start size).run entry moves).stage with
  | looking =>
    have hRead := read_of_looking hStage
    constructor
    · intro hAsking
      rw [run_append_singleton, move, hRead] at hAsking
      have hNothing : ((start size).run entry moves).session.ring.tryNext.1.got = none := by
        by_contra hSome
        simp [Option.isSome_iff_ne_none.2 hSome] at hAsking
      exact ⟨moves, [], rfl, foundNothing_of_look hStage hNothing⟩
    · intro hGone
      rw [run_append_singleton, move, hRead] at hGone
      simp only at hGone
      split at hGone <;> cases hGone
  | asking =>
    have hRead := read_of_asking hStage
    constructor
    · intro hAsking
      rw [run_append_singleton, move, hRead] at hAsking
      simp only at hAsking
      split at hAsking <;> cases hAsking
    · intro hGone
      rw [run_append_singleton, move, hRead] at hGone
      have hCancelled : ((start size).run entry moves).cancelled = true := by
        by_contra hNot
        simp [hNot] at hGone
      obtain ⟨front, mid, rfl, hFound⟩ := h.of_asking hStage
      refine ⟨front, mid, [], by simp, hFound, hCancelled, ?_⟩
      rw [run_append_singleton, move, hRead]
      exact hFound.accounted_eq
  | resting =>
    have hRead : ((start size).run entry (moves ++ [.read])).stage = .looking := by
      rw [run_append_singleton, move, read, hStage]
    constructor
    · intro hAsking
      rw [hRead] at hAsking
      cases hAsking
    · intro hGone
      rw [hRead] at hGone
      cases hGone
  | gone =>
    have hRead : (start size).run entry (moves ++ [.read]) = (start size).run entry moves := by
      rw [run_append_singleton, move, read, hStage]
    constructor
    · intro hAsking
      rw [hRead, hStage] at hAsking
      cases hAsking
    · intro _
      obtain ⟨front, mid, back, rfl, hFound, hCancelled, hAll⟩ := h.of_gone hStage
      exact ⟨front, mid, back ++ [.read], by simp, hFound, hCancelled, hRead ▸ hAll⟩

end Looks

theorem traced_run (size : Nat) (entry : Nat → α) (moves : List Move) :
    Traced size entry moves := by
  induction moves using List.reverseRecOn with
  | nil => exact ⟨nofun, nofun⟩
  | append_singleton moves m ih =>
    by_cases hm : m = .read
    · rw [hm]
      exact ih.snoc_read
    · exact ih.snoc_of_ne hm

/-! ## What is left behind -/

/-- The reader of a course has given up. After `front` it looked for the last time, and after `mid`
it found that the ring was cancelled. -/
structure LeftBehind (size : Nat) (entry : Nat → α) (moves front mid back : List Move) : Prop where
  moves_eq : moves = front ++ .read :: (mid ++ .read :: back)
  lastLook : FoundNothing size entry front mid
  cancelled : ((start size).run entry (front ++ .read :: mid)).cancelled = true
  /-- Nothing is stored after that. -/
  stored_eq : ((start size).run entry moves).session.stored =
    ((start size).run entry (front ++ .read :: mid)).session.stored
  /-- Delivered or counted as missed are the entries that were stored before the last look. -/
  accounted_eq : ((start size).run entry moves).accounted =
    ((start size).run entry front).session.stored
  /-- These are all entries just if none was stored between the last look and the question. -/
  all_iff : ((start size).run entry moves).accounted =
      ((start size).run entry moves).session.stored ↔
    ((start size).run entry (front ++ .read :: mid)).session.stored =
      ((start size).run entry front).session.stored
  /-- So they are if the cancellation came before the last look. -/
  all_of_cancelled : ((start size).run entry front).cancelled = true →
    ((start size).run entry moves).accounted = ((start size).run entry moves).session.stored

theorem exists_leftBehind {size : Nat} {entry : Nat → α} {moves : List Move}
    (h : ((start size).run entry moves).stage = .gone) :
    ∃ front mid back, LeftBehind size entry moves front mid back := by
  obtain ⟨front, mid, back, hMoves, hFound, hCancelled, hAccounted⟩ :=
    (traced_run size entry moves).of_gone h
  have hSplit : (start size).run entry moves =
      ((start size).run entry (front ++ .read :: mid)).run entry (.read :: back) := by
    rw [hMoves, ← run_append]
    simp
  have hStored : ((start size).run entry moves).session.stored =
      ((start size).run entry (front ++ .read :: mid)).session.stored := by
    rw [hSplit]
    exact stored_run hCancelled _
  refine ⟨front, mid, back, hMoves, hFound, hCancelled, hStored, hAccounted, ?_, fun hBefore => ?_⟩
  · rw [hAccounted, hStored]
    exact eq_comm
  · have hNothing : ((start size).run entry moves).session.stored =
        ((start size).run entry front).session.stored := by
      rw [hMoves, run_append]
      exact stored_run hBefore _
    rw [hAccounted, hNothing]

end Watch

end LogEgress.Diode

namespace LogEgress.Egress

open Diode (Stage Watch)

/-! ## The consumer of a buffered writer -/

/-- The consumer as a waiting reader: while it passes an envelope on it has not looked again. -/
def Phase.stage : Phase → Stage
  | .looking => .looking
  | .passing _ => .looking
  | .checking => .asking
  | .ended => .gone

namespace Pipeline

variable {σ : Type}

/-- The diode of a buffered writer, with its producer and its consumer. -/
def watch (p : Pipeline σ) : Watch Envelope := ⟨p.session, p.phase.stage, p.cancelled⟩

/-- What a step of a pipeline is for its diode: one step, or none, or, where the consumer is not
cancelled and need not rest, two. -/
theorem exists_move_watch {w : Writer σ} {below : σ} {size n : Nat} {entry : Nat → Envelope}
    {p : Pipeline σ} (h : Sound w below size n entry p) (m : Move) :
    ∃ moves, (p.move w entry n m).watch = p.watch.run entry moves := by
  cases m with
  | produce =>
    by_cases hlt : p.session.stored < n
    · have hOpen : ¬ p.cancelled = true := fun hc => by
        have hAll := h.stored_eq hc
        omega
      refine ⟨[.produce], ?_⟩
      rw [Pipeline.move, if_pos hlt]
      show _ = if p.cancelled = true then _ else _
      rw [if_neg hOpen]
      rfl
    · exact ⟨[], by rw [Pipeline.move, if_neg hlt]; rfl⟩
  | cancel =>
    by_cases hlt : p.session.stored < n
    · exact ⟨[], by rw [Pipeline.move, if_pos hlt]; rfl⟩
    · have hPending := h.pending_eq (Nat.le_antisymm h.stored_le (Nat.le_of_not_lt hlt))
      refine ⟨[.cancel], ?_⟩
      rw [Pipeline.move, if_neg hlt]
      show _ = if p.session.pending.isSome = true then _ else _
      rw [hPending]
      rfl
  | advance =>
    obtain ⟨session, b, phase, cancelled⟩ := p
    cases phase with
    | looking =>
      refine ⟨[.read], ?_⟩
      simp only [Pipeline.move, Pipeline.advance, watch, Watch.run, List.foldl_cons, List.foldl_nil,
        Watch.move, Watch.read, Phase.stage]
      cases session.ring.tryNext.1.got <;> rfl
    | passing e => exact ⟨[], rfl⟩
    | checking =>
      cases cancelled with
      | false => exact ⟨[.read, .read], rfl⟩
      | true => exact ⟨[.read], rfl⟩
    | ended => exact ⟨[], rfl⟩

theorem exists_run_watch (w : Writer σ) (below : σ) (size n : Nat) (entry : Nat → Envelope)
    (moves : List Move) : ∃ looks, ((start size below).run w entry n moves).watch =
      (Watch.start size).run entry looks := by
  induction moves using List.reverseRecOn with
  | nil => exact ⟨[], rfl⟩
  | append_singleton moves m ih =>
    obtain ⟨looks, hLooks⟩ := ih
    obtain ⟨more, hMore⟩ := exists_move_watch (sound_run w below size n entry moves) m
    refine ⟨looks ++ more, ?_⟩
    rw [run_append_singleton, hMore, hLooks, ← Watch.run_append]

/-- **What a waiting reader leaves behind.** A reader that has given up has delivered or counted as
missed what was stored before its last look. Left behind is what was stored between that look and
the question whether the ring was cancelled. The consumer of a buffered writer is such a reader,
and has closed the writer below after passing on what was delivered. -/
theorem leaves_what_came_after_last_look {α : Type} (size : Nat) :
    (∀ (entry : Nat → α) (moves : List Watch.Move),
      ((Watch.start size).run entry moves).stage = .gone →
        ∃ front mid back, Watch.LeftBehind size entry moves front mid back) ∧
    ∀ (w : Writer σ) (below : σ) (n : Nat) (entry : Nat → Envelope) (moves : List Move),
      ((start size below).run w entry n moves).phase = .ended →
        ((start size below).run w entry n moves).below =
          (w.close (((start size below).run w entry n moves).session.delivered.foldl
            (Buffered.pass w) below)).2 ∧
        ∃ looks front mid back,
          ((start size below).run w entry n moves).watch = (Watch.start size).run entry looks ∧
            Watch.LeftBehind size entry looks front mid back := by
  refine ⟨fun entry moves => Watch.exists_leftBehind, fun w below n entry moves hEnded => ?_⟩
  have hSound := sound_run w below size n entry moves
  obtain ⟨looks, hLooks⟩ := exists_run_watch w below size n entry moves
  have hGone : ((Watch.start size).run entry looks).stage = .gone := by
    rw [← hLooks, watch, hEnded]
    rfl
  obtain ⟨front, mid, back, hLeft⟩ := Watch.exists_leftBehind hGone
  exact ⟨hSound.below_of_ended hEnded, looks, front, mid, back, hLooks, hLeft⟩

/-- The reader takes the first entry, rests, and looks in vain. Then the second entry is stored and
the ring is cancelled, so that one entry of two is accounted for. In another course the
cancellation comes first, and the reader gives up after both. A consumer that gives up on a writer
to which nothing was written has closed it. -/
theorem left_behind_after_rest :
    let entry : Nat → Nat := (10 * ·)
    let late : List Watch.Move :=
      [.read, .read, .produce, .read, .produce, .read, .read, .produce, .produce, .cancel, .read]
    let early : List Watch.Move :=
      [.produce, .produce, .read, .produce, .produce, .cancel, .read, .read, .read]
    let p := (start 1 (Script.ofAnswers [] (.ok ()))).run Script.writer
      (fun _ => ⟨"app", "0", 0, {}, none⟩) 0 [.cancel, .advance, .advance]
    (((Watch.start 2).run entry late).accounted = 1 ∧
      ((Watch.start 2).run entry late).session.stored = 2 ∧
      ∃ front mid back, Watch.LeftBehind 2 entry late front mid back) ∧
    (((Watch.start 2).run entry early).accounted = 2 ∧
      ∃ front mid back, Watch.LeftBehind 2 entry early front mid back) ∧
    p.phase = .ended ∧ p.below = (Script.writer.close (Script.ofAnswers [] (.ok ()))).2 := by
  intro entry late early p
  obtain ⟨hReader, -⟩ := leaves_what_came_after_last_look (α := Nat) (σ := Script) 2
  obtain ⟨-, hConsumer⟩ := leaves_what_came_after_last_look (α := Nat) (σ := Script) 1
  have hEnded : p.phase = .ended := by decide
  refine ⟨⟨by decide, by decide, hReader entry late (by decide)⟩,
    ⟨by decide, hReader entry early (by decide)⟩, hEnded, ?_⟩
  exact (hConsumer _ _ _ _ _ hEnded).1

/-- **An entry is stored and the ring is cancelled, and the reader gives up.** It looked before the
entry was stored and asks after the cancellation, so the entry was neither delivered nor counted as
missed: one more look would give it. The consumer that does so has closed the writer below. -/
theorem gives_up_on_entry :
    let s := (Watch.start 4).run (fun k => k + 7) [.read, .produce, .produce, .cancel, .read]
    let p := (start 4 (Script.ofAnswers [] (.ok ()))).run Script.writer
      (fun _ => ⟨"app", "0", 0, {}, some ⟨[104, 105], .out⟩⟩) 1
      [.advance, .produce, .produce, .cancel, .advance]
    (s.stage = .gone ∧ s.session.stored = 1 ∧ s.session.delivered = [] ∧ s.session.alerts = [] ∧
      s.session.ring.tryNext.1.got = some 7) ∧
    p.phase = .ended ∧ p.session.stored = 1 ∧ p.session.alerts = [] ∧ p.below.calls = 0 ∧
      p.below.closes = 1 := by
  decide

end Pipeline

end LogEgress.Egress
