import LogEgress.Proofs.Adapter.Log
import Mathlib.Data.List.Induction

set_option autoImplicit false

/-! # What a subscription does

A course is a pump with the log of what it has learned and done so far. What each turn adds to the
log keeps what is true of it (`Kept`), and so any course is lawful, whatever the pump learns and
whenever it is told to end (`Lawful`).
-/

namespace LogEgress.Adapter

open Pump (Phase Event Action)

/-! ## Courses -/

/-- A pump, whether it was told to end, the number of its round, counted from 1, and its log. -/
structure Course where
  phase : Phase := .idle
  told : Bool := false
  round : Nat := 0
  log : Log := []

namespace Course

open Log

/-- The round in which something is learned. -/
def roundOf : Event → Nat → Nat
  | .proceed, k => k + 1
  | _, k => k

/-- The pump learns something, if it can. -/
def learn (b : Binding) (event : Event) (c : Course) : Course :=
  if Pump.fits c.told c.phase event then
    { c with
      phase := (Pump.step b c.phase event).1
      round := roundOf event c.round
      log := c.log ++ turn (roundOf event c.round) c.phase event (Pump.step b c.phase event).2 }
  else c

/-- What happens to a subscription. -/
inductive Move where
  /-- It is told to end. -/
  | tell
  | learn (event : Event)

/-- A move. -/
def move (b : Binding) (c : Course) : Move → Course
  | .tell => { c with told := true }
  | .learn event => c.learn b event

/-- A number of moves. -/
def run (b : Binding) (c : Course) (moves : List Move) : Course := moves.foldl (move b) c

theorem run_append (b : Binding) (c : Course) (moves more : List Move) :
    c.run b (moves ++ more) = (c.run b moves).run b more :=
  List.foldl_append

theorem run_append_singleton (b : Binding) (c : Course) (moves : List Move) (m : Move) :
    c.run b (moves ++ [m]) = (c.run b moves).move b m :=
  List.foldl_append

/-- How many writers were obtained in a round. -/
abbrev obtainedIn (k : Nat) (log : Log) : Nat := timesIn k Line.isObtained log

/-- How often the writer of a round was closed. -/
abbrev closedIn (k : Nat) (log : Log) : Nat := timesIn k Line.isClose log

/-- A writer was obtained in a round, and was not closed. -/
def IsOpen (k : Nat) (log : Log) : Prop := obtainedIn k log = 1 ∧ closedIn k log = 0

instance (k : Nat) (log : Log) : Decidable (IsOpen k log) :=
  inferInstanceAs (Decidable (obtainedIn k log = 1 ∧ closedIn k log = 0))

/-- How many writers of a round are in use. -/
def inUse (phase : Phase) (round k : Nat) : Nat := if phase.hasWriter ∧ round = k then 1 else 0

/-! ## Single turns -/

section Turns

variable {b : Binding} {told : Bool} {phase next : Phase} {event : Event} {actions : List Action}

theorem written_turn (h : Pump.Turn b told phase event next actions) (k : Nat) :
    entries Line.written? (turn k phase event actions) =
      entries Line.logLine? (turn k phase event actions) := by
  cases h with
  | logLine c e hLog =>
    simp only [entries, turn, List.map_cons, List.map_nil, List.filterMap_cons, List.filterMap_nil,
      Line.written?, Line.logLine?, hLog, if_true, Option.map_none, Option.map_some]
  | other c e hLog =>
    simp only [entries, turn, List.map_nil, List.filterMap_cons, List.filterMap_nil,
      Line.written?, Line.logLine?, hLog, Bool.false_eq_true, if_false, Option.map_none]
  | _ => rfl

theorem counted_turn (h : Pump.Turn b told phase event next actions) (k : Nat) :
    times Line.isCount (turn k phase event actions) =
      (entries Line.written? (turn k phase event actions)).length := by
  cases h <;> rfl

theorem invalidated_turn (h : Pump.Turn b told phase event next actions) (k : Nat) :
    entries Line.invalidated? (turn k phase event actions) =
      entries Line.broken? (turn k phase event actions) := by
  cases h with
  | cut _ hWriter => cases phase <;> rfl
  | _ => rfl

/-- The lines of a turn are of its round. -/
theorem timesIn_turn (k round : Nat) (p : Line → Bool) :
    timesIn k p (turn round phase event actions) =
      if round = k then times p (turn round phase event actions) else 0 := by
  by_cases hRound : round = k
  · simp [timesIn, times, turn, hRound, List.countP_cons, Function.comp_def]
  · simp [timesIn, turn, hRound, Function.comp_def]

/-- A writer is in use from when it is obtained until it is closed. -/
theorem writer_turn (h : Pump.Turn b told phase event next actions) (round k : Nat) :
    closedIn k (turn round phase event actions) + inUse next round k =
      obtainedIn k (turn round phase event actions) + inUse phase round k := by
  by_cases hRound : round = k
  · rw [closedIn, obtainedIn, timesIn_turn, timesIn_turn, if_pos hRound, if_pos hRound]
    cases h with
    | cut _ hWriter =>
      have hIdle : Pump.Phase.hasWriter .idle = false := rfl
      simp [inUse, hRound, hWriter, hIdle, times, turn, Line.isObtained, Line.isClose]
    | _ =>
      simp [inUse, hRound, Pump.Phase.hasWriter, times, turn, Line.isObtained, Line.isClose]
  · simp [closedIn, obtainedIn, timesIn_turn, inUse, hRound]

/-- A writer is obtained when it was asked for. -/
theorem obtained_turn (h : Pump.Turn b told phase event next actions) (round : Nat) :
    times Line.isObtained (turn round phase event actions) =
      if phase = .connecting ∧ next = .choosing then 1 else 0 := by
  cases h <;> simp [times, turn, Line.isObtained]

theorem refused_turn (h : Pump.Turn b told phase event next actions) (k : Nat) :
    entries Line.aborted? (turn k phase event actions) =
      entries Line.refused? (turn k phase event actions) := by
  cases h <;> rfl

end Turns

/-! ## What every turn keeps -/

/-- What is true of a line and those before it. -/
def Proper (b : Binding) (past : Log) : Nat × Line → Prop
  -- Only a writer that is open is written to or closed.
  | (k, .did (.write _)) => IsOpen k past
  | (k, .did .close) => IsOpen k past
  | (_, .did .connect) => ∀ j, closedIn j past = obtainedIn j past
  | (k, .did (.openStream c r)) =>
    r = Pump.requestOf b ∧ (k, .learned .choosing (.chosen c)) ∈ past
  | (k, .learned phase (.received _)) =>
    ∃ c, phase = .receiving c ∧ (k, .did (.openStream c (Pump.requestOf b))) ∈ past
  | _ => True

/-- What is true between any two moves. -/
structure Kept (b : Binding) (c : Course) : Prop where
  written_eq : entries Line.written? c.log = entries Line.logLine? c.log
  counted_eq : times Line.isCount c.log = (entries Line.written? c.log).length
  invalidated_eq : entries Line.invalidated? c.log = entries Line.broken? c.log
  aborted_eq : entries Line.aborted? c.log = entries Line.refused? c.log
  closed_eq : ∀ k, closedIn k c.log + inUse c.phase c.round k = obtainedIn k c.log
  obtained_le : ∀ k, obtainedIn k c.log ≤ 1
  not_obtained : ∀ k, c.round < k ∨ c.phase = .connecting ∧ c.round = k → obtainedIn k c.log = 0
  proper : Throughout (Proper b) [] c.log
  asked : ∀ client, c.phase = .opening client ∨ c.phase = .receiving client →
    (c.round, .did (.openStream client (Pump.requestOf b))) ∈ c.log
  /-- A pump that was refused a writer has ended, and did nothing after it gave up. -/
  refused_cases : entries Line.refused? c.log = [] ∨ c.phase = .ended ∧ ∃ front k e,
    c.log = front ++ [(k, .learned .connecting (.connected (.error e))), (k, .did (.abort e))] ∧
      entries Line.refused? front = []

theorem kept_start (b : Binding) : Kept b {} where
  written_eq := rfl
  counted_eq := rfl
  invalidated_eq := rfl
  aborted_eq := rfl
  closed_eq _ := rfl
  obtained_le _ := Nat.zero_le 1
  not_obtained _ _ := rfl
  proper := trivial
  asked := nofun
  refused_cases := .inl rfl

section Step

variable {b : Binding} {c : Course} {next : Phase} {event : Event} {actions : List Action}

/-- The writer of a round is open as long as the pump has one. -/
theorem Kept.open_of_hasWriter (h : Kept b c) (hWriter : c.phase.hasWriter = true) :
    IsOpen c.round c.log := by
  have hClosed := h.closed_eq c.round
  have hObtained := h.obtained_le c.round
  rw [inUse, if_pos ⟨hWriter, rfl⟩] at hClosed
  unfold IsOpen
  omega

/-- Without a writer all that were obtained are closed. -/
theorem Kept.closed_of_idle (h : Kept b c) (hIdle : c.phase = .idle) (k : Nat) :
    closedIn k c.log = obtainedIn k c.log := by
  have hClosed := h.closed_eq k
  rw [hIdle] at hClosed
  exact hClosed

/-- Lines that concern no writer leave it open. -/
theorem IsOpen.append {k : Nat} {log more : Log} (h : IsOpen k log)
    (hObtained : times Line.isObtained more = 0) (hClosed : times Line.isClose more = 0) :
    IsOpen k (log ++ more) := by
  rwa [IsOpen, obtainedIn, closedIn, timesIn_append_of_none hObtained,
    timesIn_append_of_none hClosed]

theorem Kept.proper_turn (h : Kept b c) (hTurn : Pump.Turn b c.told c.phase event next actions) :
    Throughout (Proper b) c.log (turn (roundOf event c.round) c.phase event actions) := by
  have hOpen := h.open_of_hasWriter
  have hAsked := h.asked
  have hClosed := h.closed_of_idle
  obtain ⟨phase, told, round, log⟩ := c
  simp only at hTurn hOpen hAsked hClosed
  cases hTurn with
  | finished | opened =>
    simp only [turn, List.map_nil, Throughout, and_true]
    trivial
  | begun =>
    simp only [turn, List.map_cons, List.map_nil, Throughout, and_true]
    refine ⟨trivial, fun j => ?_⟩
    rw [closedIn, obtainedIn, timesIn_append_of_none rfl, timesIn_append_of_none rfl]
    exact hClosed rfl j
  | obtained | refused | unopened =>
    simp only [turn, List.map_cons, List.map_nil, Throughout, and_true]
    exact ⟨trivial, trivial⟩
  | chosen client =>
    simp only [turn, List.map_cons, List.map_nil, Throughout, and_true]
    exact ⟨trivial, rfl, List.mem_append_right _ (List.mem_singleton_self _)⟩
  | rested =>
    simp only [turn, List.map_cons, List.map_nil, Throughout, and_true]
    exact ⟨trivial, (hOpen rfl).append rfl rfl⟩
  | logLine client e hLog =>
    simp only [turn, List.map_cons, List.map_nil, Throughout, and_true]
    exact ⟨⟨client, rfl, hAsked client (.inr rfl)⟩, trivial,
      ((hOpen rfl).append rfl rfl).append rfl rfl⟩
  | other client e hLog =>
    simp only [turn, List.map_nil, Throughout, and_true]
    exact ⟨client, rfl, hAsked client (.inr rfl)⟩
  | broken client e =>
    simp only [turn, List.map_cons, List.map_nil, Throughout, and_true]
    exact ⟨⟨client, rfl, hAsked client (.inr rfl)⟩, trivial,
      ((hOpen rfl).append rfl rfl).append rfl rfl⟩
  | cut hTold hWriter =>
    simp only [turn, List.map_cons, List.map_nil, Throughout, and_true]
    exact ⟨trivial, (hOpen hWriter).append rfl rfl⟩

theorem Kept.asked_turn (h : Kept b c) (hTurn : Pump.Turn b c.told c.phase event next actions)
    (client : Nat) (hNext : next = .opening client ∨ next = .receiving client) :
    (roundOf event c.round, .did (.openStream client (Pump.requestOf b))) ∈
      c.log ++ turn (roundOf event c.round) c.phase event actions := by
  have hAsked := h.asked
  obtain ⟨phase, told, round, log⟩ := c
  simp only at hTurn hAsked
  cases hTurn with
  | chosen client' =>
    obtain rfl : client' = client := by simpa using hNext
    exact List.mem_append_right _ (List.mem_cons_of_mem _ (List.mem_singleton_self _))
  | opened client' | logLine client' | other client' =>
    obtain rfl : client' = client := by simpa using hNext
    exact List.mem_append_left _ (hAsked client' (by simp))
  | _ => simp at hNext

theorem Kept.refused_cases_turn (h : Kept b c)
    (hTurn : Pump.Turn b c.told c.phase event next actions) :
    entries Line.refused? (c.log ++ turn (roundOf event c.round) c.phase event actions) = [] ∨
      next = .ended ∧ ∃ front k e,
        c.log ++ turn (roundOf event c.round) c.phase event actions =
          front ++ [(k, .learned .connecting (.connected (.error e))), (k, .did (.abort e))] ∧
        entries Line.refused? front = [] := by
  have hNone : entries Line.refused? c.log = [] := by
    refine h.refused_cases.resolve_right fun hEnded => ?_
    rw [hEnded.1] at hTurn
    cases hTurn with
    | cut _ hWriter => cases hWriter
  rw [entries_append, hNone]
  generalize c.log = log at hNone ⊢
  generalize c.phase = phase at hTurn ⊢
  cases hTurn with
  | refused e => exact .inr ⟨rfl, log, c.round, e, rfl, hNone⟩
  | _ => exact .inl rfl

/-- A round begins only where there is no writer. -/
theorem inUse_roundOf (hTurn : Pump.Turn b c.told c.phase event next actions) (k : Nat) :
    inUse c.phase (roundOf event c.round) k = inUse c.phase c.round k := by
  generalize c.phase = phase at hTurn ⊢
  cases hTurn <;> rfl

theorem Kept.closed_eq_turn (h : Kept b c)
    (hTurn : Pump.Turn b c.told c.phase event next actions) (k : Nat) :
    closedIn k (c.log ++ turn (roundOf event c.round) c.phase event actions) +
        inUse next (roundOf event c.round) k =
      obtainedIn k (c.log ++ turn (roundOf event c.round) c.phase event actions) := by
  have hBefore := h.closed_eq k
  have hNow := writer_turn hTurn (roundOf event c.round) k
  rw [inUse_roundOf hTurn] at hNow
  simp only [closedIn, obtainedIn, timesIn_append] at *
  omega

/-- What a turn adds to the writers of a round. -/
theorem obtainedIn_append_turn (hTurn : Pump.Turn b c.told c.phase event next actions) (k : Nat) :
    obtainedIn k (c.log ++ turn (roundOf event c.round) c.phase event actions) =
      obtainedIn k c.log + if roundOf event c.round = k ∧ c.phase = .connecting ∧ next = .choosing
        then 1 else 0 := by
  rw [obtainedIn, timesIn_append, timesIn_turn, obtained_turn hTurn, ← ite_and]

theorem roundOf_of_ne_idle (hTurn : Pump.Turn b c.told c.phase event next actions)
    (hIdle : c.phase ≠ .idle) : roundOf event c.round = c.round := by
  generalize c.phase = phase at hTurn hIdle
  cases hTurn with
  | begun => exact absurd rfl hIdle
  | _ => rfl

theorem Kept.obtained_le_turn (h : Kept b c)
    (hTurn : Pump.Turn b c.told c.phase event next actions) (k : Nat) :
    obtainedIn k (c.log ++ turn (roundOf event c.round) c.phase event actions) ≤ 1 := by
  rw [obtainedIn_append_turn hTurn]
  split
  · next hObtained =>
    obtain ⟨rfl, hConnecting, -⟩ := hObtained
    have hNone := h.not_obtained (roundOf event c.round) (.inr ⟨hConnecting,
      (roundOf_of_ne_idle hTurn (by simp [hConnecting])).symm⟩)
    omega
  · exact h.obtained_le k

theorem Kept.not_obtained_turn (h : Kept b c)
    (hTurn : Pump.Turn b c.told c.phase event next actions) (k : Nat)
    (hRound : roundOf event c.round < k ∨ next = .connecting ∧ roundOf event c.round = k) :
    obtainedIn k (c.log ++ turn (roundOf event c.round) c.phase event actions) = 0 := by
  have hBefore : c.round < k := by
    generalize c.phase = phase at hTurn
    cases hTurn with
    | begun =>
      have hNew : roundOf .proceed c.round = c.round + 1 := rfl
      omega
    | _ => simpa [roundOf] using hRound
  rw [obtainedIn_append_turn hTurn, h.not_obtained k (.inl hBefore), if_neg]
  rintro ⟨rfl, -, rfl⟩
  simp at hRound

theorem Kept.learn (h : Kept b c) (event : Event) : Kept b (c.learn b event) := by
  by_cases hFits : Pump.fits c.told c.phase event = true
  · have hTurn := Pump.turn_of_fits b hFits
    rw [Course.learn, if_pos hFits]
    exact {
      written_eq := by rw [entries_append, entries_append, h.written_eq, written_turn hTurn]
      counted_eq := by
        rw [times_append, entries_append, List.length_append, h.counted_eq, counted_turn hTurn]
      invalidated_eq := by
        rw [entries_append, entries_append, h.invalidated_eq, invalidated_turn hTurn]
      aborted_eq := by rw [entries_append, entries_append, h.aborted_eq, refused_turn hTurn]
      closed_eq := h.closed_eq_turn hTurn
      obtained_le := h.obtained_le_turn hTurn
      not_obtained := h.not_obtained_turn hTurn
      proper := (throughout_append _ _ _).mpr ⟨h.proper, h.proper_turn hTurn⟩
      asked := h.asked_turn hTurn
      refused_cases := h.refused_cases_turn hTurn }
  · rwa [Course.learn, if_neg hFits]

theorem Kept.move (h : Kept b c) (m : Move) : Kept b (c.move b m) := by
  cases m with
  | tell => exact { h with }
  | learn event => exact h.learn event

end Step

theorem kept_run (b : Binding) (moves : List Move) : Kept b (run b {} moves) := by
  induction moves using List.reverseRecOn with
  | nil => exact kept_start b
  | append_singleton moves m ih =>
    rw [run_append_singleton]
    exact ih.move m

/-! ## The law of courses -/

/-- What is true of a subscription at any moment. -/
structure Lawful (b : Binding) (c : Course) : Prop where
  /-- The log lines that came in were written, each once, in order and in the round in which it
  came in. Nothing else was written. -/
  written_eq : entries Line.written? c.log = entries Line.logLine? c.log
  counted_eq : times Line.isCount c.log = (entries Line.written? c.log).length
  /-- What is written goes to the writer that was obtained in this round, before it is closed. -/
  open_of_write : ∀ front back k e, c.log = front ++ (k, .did (.write e)) :: back → IsOpen k front
  open_of_close : ∀ front back k, c.log = front ++ (k, .did .close) :: back → IsOpen k front
  obtained_le : ∀ k, obtainedIn k c.log ≤ 1
  /-- Every writer that was obtained was closed once, but for the one that is in use. -/
  closed_eq : ∀ k, closedIn k c.log + inUse c.phase c.round k = obtainedIn k c.log
  /-- When a writer is asked for, all that were obtained before are closed. -/
  closed_of_connect : ∀ front back k, c.log = front ++ (k, .did .connect) :: back →
    ∀ j, closedIn j front = obtainedIn j front
  /-- Streams are opened of the client that the pool gave in this round. -/
  request_of_open : ∀ front back k client r,
    c.log = front ++ (k, .did (.openStream client r)) :: back →
      r = Pump.requestOf b ∧ (k, .learned .choosing (.chosen client)) ∈ front
  /-- What is received comes from the stream that was opened in this round. -/
  stream_of_received : ∀ front back k phase result,
    c.log = front ++ (k, .learned phase (.received result)) :: back →
      ∃ client, phase = .receiving client ∧
        (k, .did (.openStream client (Pump.requestOf b))) ∈ front
  /-- A client becomes invalid when receiving from its stream failed, and then only. -/
  invalidated_eq : entries Line.invalidated? c.log = entries Line.broken? c.log
  /-- The subscription is given up when there is no writer, and then only. -/
  aborted_eq : entries Line.aborted? c.log = entries Line.refused? c.log
  /-- After a writer was refused, all that is done is to give up. It was the first one refused. -/
  given_up : ∀ front back k e,
    c.log = front ++ (k, .learned .connecting (.connected (.error e))) :: back →
      c.phase = .ended ∧ back = [(k, .did (.abort e))] ∧ entries Line.refused? front = []
  /-- Nothing follows the end. -/
  ended : c.phase = .ended → ∀ moves, (c.run b moves).log = c.log
  /-- Wherever a subscription with a writer learns that it is to end, it closes the writer and does
  nothing more. -/
  cut : c.told = true → c.phase.hasWriter = true →
    c.run b [.learn .cancelled, .learn .cancelled] = { c with
      phase := .ended
      log := c.log ++ [(c.round, .learned c.phase .cancelled), (c.round, .did .close),
        (c.round, .learned .idle .cancelled)] }

/-- Where an entry is if it is one of the last two. -/
theorem last_but_one {α : Type} {front front' back : List α} {x y z : α}
    (h : front ++ x :: back = front' ++ [y, z]) (hNot : x ∉ front') (hNe : x ≠ z) :
    front = front' ∧ x = y ∧ back = [z] := by
  induction front' generalizing front with
  | nil =>
    match front, h with
    | [], h => simpa using h
    | [_], h => exact absurd (by simpa using congrArg (·.tail.head?) h) hNe
    | _ :: _ :: _, h => simp at h
  | cons w front' ih =>
    cases front with
    | nil =>
      obtain ⟨rfl, -⟩ := List.cons.inj h
      exact absurd (List.mem_cons_self ..) hNot
    | cons v front =>
      obtain ⟨rfl, hTail⟩ := List.cons.inj h
      obtain ⟨rfl, hRest⟩ := ih hTail fun hIn => hNot (List.mem_cons_of_mem _ hIn)
      exact ⟨rfl, hRest⟩

/-- A refused writer is found nowhere but at the end. -/
theorem Kept.given_up {b : Binding} {c : Course} (h : Kept b c) {front back : Log} {k : Nat}
    {e : Egress.Error}
    (hSplit : c.log = front ++ (k, .learned .connecting (.connected (.error e))) :: back) :
    c.phase = .ended ∧ back = [(k, .did (.abort e))] ∧ entries Line.refused? front = [] := by
  have hMem : ∀ log : Log, entries Line.refused? log = [] →
      (k, .learned .connecting (.connected (.error e))) ∉ log := fun log hNone hIn =>
    List.ne_nil_of_mem (a := (k, e)) (List.mem_filterMap.mpr ⟨_, hIn, rfl⟩) hNone
  obtain hNone | ⟨hEnded, front', k', e', hLog, hNone⟩ := h.refused_cases
  · exact absurd (by simp [hSplit]) (hMem c.log hNone)
  · rw [hSplit] at hLog
    obtain ⟨rfl, hLine, rfl⟩ := last_but_one hLog (hMem front' hNone) (by simp)
    obtain ⟨rfl, ⟨⟩⟩ : k = k' ∧ e = e' := by simpa using hLine
    exact ⟨hEnded, rfl, hNone⟩

theorem ended_run {b : Binding} {c : Course} (hEnded : c.phase = .ended) (moves : List Move) :
    (c.run b moves).phase = .ended ∧ (c.run b moves).log = c.log := by
  induction moves using List.reverseRecOn with
  | nil => exact ⟨hEnded, rfl⟩
  | append_singleton moves m ih =>
    rw [run_append_singleton]
    cases m with
    | tell => exact ih
    | learn event =>
      have hNot : Pump.fits (c.run b moves).told (c.run b moves).phase event = false := by
        rw [ih.1]
        cases event <;> rfl
      rw [Course.move, learn, hNot]
      exact ih

theorem run_cut (b : Binding) {c : Course} (hTold : c.told = true)
    (hWriter : c.phase.hasWriter = true) :
    c.run b [.learn .cancelled, .learn .cancelled] = { c with
      phase := .ended
      log := c.log ++ [(c.round, .learned c.phase .cancelled), (c.round, .did .close),
        (c.round, .learned .idle .cancelled)] } := by
  obtain ⟨phase, told, round, log⟩ := c
  obtain rfl : told = true := hTold
  have hOnce : (Course.mk phase true round log).learn b .cancelled =
      ⟨.idle, true, round, log ++ [(round, .learned phase .cancelled), (round, .did .close)]⟩ := by
    cases phase <;> first | rfl | cases hWriter
  show ((Course.mk phase true round log).learn b .cancelled).learn b .cancelled = _
  rw [hOnce]
  simp [learn, Pump.fits, Pump.step, turn, roundOf]

theorem Kept.lawful {b : Binding} {c : Course} (h : Kept b c) : Lawful b c where
  written_eq := h.written_eq
  counted_eq := h.counted_eq
  open_of_write _ _ _ _ := h.proper.at
  open_of_close _ _ _ := h.proper.at
  obtained_le := h.obtained_le
  closed_eq := h.closed_eq
  closed_of_connect _ _ _ := h.proper.at
  request_of_open _ _ _ _ _ := h.proper.at
  stream_of_received _ _ _ _ _ := h.proper.at
  invalidated_eq := h.invalidated_eq
  aborted_eq := h.aborted_eq
  given_up _ _ _ _ := h.given_up
  ended hEnded moves := (ended_run hEnded moves).2
  cut := run_cut b

end Course

end LogEgress.Adapter
