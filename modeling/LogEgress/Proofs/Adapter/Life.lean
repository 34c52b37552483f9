import LogEgress.Adapter.Timeline
import LogEgress.Proofs.Adapter.Course

set_option autoImplicit false

/-! # The life of a subscription as a course

A life runs a pump in surroundings that are fixed in advance. Each of its steps is a move or two of
a course that comes to the same (`exists_course_of_life`), so that what is true of all courses is true
of it (`every_course_lawful`).
-/

namespace LogEgress.Adapter

open Pump (Phase Event Action)

namespace Course

open Log

/-! ## Lives as courses -/

/-- What a line does to the writer. -/
def useWriter (writer : Egress.Script) : Line → Egress.Script
  | .did (.write e) => (writer.write e).2
  | .did .close => writer.close.2
  | _ => writer

/-- A life in which was done what a log says. -/
structure Reflects (writer : Egress.Script) (l : Timeline) (log : Log) : Prop where
  requests_eq : l.requests = (entries Line.request? log).map Prod.snd
  connects_eq : l.connects = times Line.isConnect log
  counted_eq : l.counted = times Line.isCount log
  aborted_eq : l.aborted = (entries Line.aborted? log).length
  closes_eq : l.closeTimes.length = times Line.isClose log
  writer_eq : l.writer = log.foldl (fun w x => useWriter w x.2) writer

/-- A course that comes to the same as a life. -/
structure Follows (s : Surroundings) (writer : Egress.Script) (l : Timeline) (c : Course) :
    Prop where
  phase_eq : c.phase = l.phase
  reflects : Reflects writer l c.log
  stop_le_of_told : c.told = true → s.stop ≤ l.now
  now_le_stop : l.now ≤ s.stop

/-- Before the end of a subscription time passed, and the pool and the stream may have changed. -/
structure Passed (s : Surroundings) (l l' : Timeline) : Prop where
  now_le : l.now ≤ l'.now
  now_le_stop : l'.now ≤ s.stop
  eq : l' = { l with
    now := l'.now, pool := l'.pool, monitor := l'.monitor, stream := l'.stream
    notices := l'.notices }

section Lives

variable {s : Surroundings} {writer : Egress.Script} {l l' : Timeline} {log : Log}

theorem now_passTo (s : Surroundings) (time : Nat) (l : Timeline) :
    (l.passTo s time).now = time := by
  unfold Timeline.passTo
  split <;> rfl

theorem passed_passTo {time : Nat} (hNow : l.now ≤ time) (hTime : time ≤ s.stop) :
    Passed s l (l.passTo s time) := by
  unfold Timeline.passTo
  split <;> exact ⟨hNow, hTime, rfl⟩

theorem passed_wait (hNow : l.now ≤ s.stop) (time : Nat) : Passed s l (l.wait s time) :=
  passed_passTo (Nat.le_min.mpr ⟨hNow, Nat.le_add_right ..⟩) (Nat.min_le_left ..)

/-- Whether a pump learns something only from a look at the pool, or at the end of a pause. -/
def isAwaited : Event → Bool
  | .chosen _ => true
  | .rested => true
  | _ => false

/-- How a pump comes to learn something: at once, by a look at the pool, at the end of a pause, or
at the end of the subscription. -/
inductive Learns (s : Surroundings) (l : Timeline) : Option Event × Timeline → Prop
  | atOnce (e : Event) (stream : Stream) : isAwaited e = false →
      Pump.fits (decide (s.stop ≤ l.now)) l.phase e = true → Learns s l (some e, { l with stream })
  | found (c : Nat) (pool : Ingress.Pool) : l.phase = .choosing → l.now < s.stop →
      l.pool.look = (some c, pool) → Learns s l (some (.chosen c), { l with pool })
  | inVain (pool : Ingress.Pool) : l.phase = .choosing → l.now < s.stop →
      l.pool.look = (none, pool) →
      Learns s l (none, Timeline.wait s s.rules.retryWait { l with pool })
  | paused : l.phase = .pausing → Learns s l
      (some (if s.stop ≤ (l.wait s s.reopenWait).now then .cancelled else .rested),
        l.wait s s.reopenWait)
  | stopped (c : Nat) : l.phase = .receiving c → Learns s l (some .cancelled, l.passTo s s.stop)
  | ended : l.phase = .ended → Learns s l (none, l)

theorem learns_learn (s : Surroundings) (l : Timeline) : Learns s l (l.learn s) := by
  unfold Timeline.learn
  split
  · next hIdle =>
    by_cases hStop : s.stop ≤ l.now
    · rw [if_pos hStop]
      exact .atOnce .cancelled l.stream rfl (by simp [hIdle, hStop, Pump.fits])
    · rw [if_neg hStop]
      exact .atOnce .proceed l.stream rfl (by simp [hIdle, hStop, Pump.fits])
  · next hConnecting =>
    exact .atOnce _ l.stream rfl (by simp [hConnecting, Pump.fits])
  · next hChoosing =>
    split
    · next hStop =>
      exact .atOnce .cancelled l.stream rfl (by simp [hChoosing, hStop, Pump.fits])
    · next hStop =>
      split
      · next c pool hLook => exact .found c pool hChoosing (Nat.lt_of_not_le hStop) hLook
      · next pool hLook => exact .inVain pool hChoosing (Nat.lt_of_not_le hStop) hLook
  · next hOpening =>
    split <;> exact .atOnce _ l.stream rfl (by simp [hOpening, Pump.fits])
  · next hPausing => exact .paused hPausing
  · next c hReceiving =>
    split
    · exact .atOnce _ _ rfl (by simp [hReceiving, Pump.fits])
    · split
      · exact .atOnce _ l.stream rfl (by simp [hReceiving, Pump.fits])
      · exact .stopped c hReceiving
  · next hEnded => exact .ended hEnded

/-- Until a pump learns something nothing is done, and it can learn that. -/
theorem Learns.passed {answer : Option Event × Timeline} (h : Learns s l answer)
    (hNow : l.now ≤ s.stop) : Passed s l answer.2 ∧
      ∀ e, answer.1 = some e → Pump.fits (decide (s.stop ≤ answer.2.now)) l.phase e = true := by
  cases h with
  | atOnce e stream _ hFits =>
    refine ⟨⟨Nat.le_refl _, hNow, rfl⟩, ?_⟩
    rintro e' ⟨⟩
    exact hFits
  | found c pool hChoosing hStop =>
    refine ⟨⟨Nat.le_refl _, hNow, rfl⟩, ?_⟩
    rintro e ⟨⟩
    simp [hChoosing, Pump.fits]
  | inVain pool hChoosing =>
    have hWait := passed_wait (l := { l with pool }) hNow s.rules.retryWait
    exact ⟨⟨hWait.now_le, hWait.now_le_stop, hWait.eq⟩, fun e he => by cases he⟩
  | paused hPausing =>
    refine ⟨passed_wait hNow s.reopenWait, ?_⟩
    rintro e ⟨⟩
    by_cases hStop : s.stop ≤ (l.wait s s.reopenWait).now <;> simp [hStop, hPausing, Pump.fits]
  | stopped c hReceiving =>
    refine ⟨passed_passTo hNow (Nat.le_refl _), ?_⟩
    rintro e ⟨⟩
    simp [hReceiving, Pump.fits, now_passTo]
  | ended => exact ⟨⟨Nat.le_refl _, hNow, rfl⟩, fun e he => by cases he⟩

theorem Reflects.passed (h : Reflects writer l log) (hPassed : Passed s l l') :
    Reflects writer l' log := by
  rw [hPassed.eq]
  exact { h with }

theorem Reflects.learned (h : Reflects writer l log) (k : Nat) (phase : Phase) (event : Event) :
    Reflects writer l (log ++ [(k, .learned phase event)]) where
  requests_eq := by rw [h.requests_eq, entries_append]; simp [entries, Line.request?]
  connects_eq := by rw [h.connects_eq, times_append]; rfl
  counted_eq := by rw [h.counted_eq, times_append]; rfl
  aborted_eq := by rw [h.aborted_eq, entries_append]; simp [entries, Line.aborted?]
  closes_eq := by rw [h.closes_eq, times_append]; rfl
  writer_eq := by rw [h.writer_eq, List.foldl_append]; rfl

theorem Reflects.perform (h : Reflects writer l log) (s : Surroundings) (k : Nat) (a : Action) :
    Reflects writer (l.perform s a) (log ++ [(k, .did a)]) where
  requests_eq := by
    cases a <;> simp [Timeline.perform, h.requests_eq, entries, Line.request?]
  connects_eq := by
    cases a <;> simp [Timeline.perform, h.connects_eq, times, Line.isConnect]
  counted_eq := by
    cases a <;> simp [Timeline.perform, h.counted_eq, times, Line.isCount]
  aborted_eq := by
    cases a <;> simp [Timeline.perform, h.aborted_eq, entries, Line.aborted?]
  closes_eq := by
    cases a <;> simp [Timeline.perform, h.closes_eq, times, Line.isClose]
  writer_eq := by
    cases a <;> simp [Timeline.perform, h.writer_eq, useWriter]

theorem Reflects.performAll (h : Reflects writer l log) (s : Surroundings) (k : Nat)
    (actions : List Action) :
    Reflects writer (actions.foldl (Timeline.perform s) l)
      (log ++ actions.map fun a => (k, .did a)) := by
  induction actions generalizing l log with
  | nil => simpa using h
  | cons a actions ih => simpa using ih (h.perform s k a)

/-- Actions take no time. -/
theorem performAll_spec (s : Surroundings) (actions : List Action) (l : Timeline) :
    (actions.foldl (Timeline.perform s) l).now = l.now ∧
      (actions.foldl (Timeline.perform s) l).phase = l.phase := by
  induction actions generalizing l with
  | nil => exact ⟨rfl, rfl⟩
  | cons a actions ih =>
    rw [List.foldl_cons, (ih _).1, (ih _).2]
    cases a <;> exact ⟨rfl, rfl⟩

/-- In time a course is told to end. -/
theorem run_tell_of_stop {c : Course} (h : c.told = true → s.stop ≤ l.now) :
    c.run s.binding (if s.stop ≤ l.now then [.tell] else []) =
      { c with told := decide (s.stop ≤ l.now) } := by
  by_cases hStop : s.stop ≤ l.now
  · rw [if_pos hStop, decide_eq_true hStop]
    rfl
  · have hNot : c.told = false := by simpa [hStop] using h
    rw [if_neg hStop, decide_eq_false hStop, ← hNot]
    rfl

theorem Follows.passed {c : Course} (h : Follows s writer l c) (hPassed : Passed s l l') :
    Follows s writer l' c where
  phase_eq := by
    rw [hPassed.eq]
    exact h.phase_eq
  reflects := h.reflects.passed hPassed
  stop_le_of_told hTold := Nat.le_trans (h.stop_le_of_told hTold) hPassed.now_le
  now_le_stop := hPassed.now_le_stop

theorem Follows.learn {c : Course} (h : Follows s writer l c) {event : Event}
    (hFits : Pump.fits c.told l.phase event = true) :
    Follows s writer ((Pump.step s.binding l.phase event).2.foldl (Timeline.perform s)
      { l with phase := (Pump.step s.binding l.phase event).1 }) (c.learn s.binding event) := by
  rw [← h.phase_eq] at hFits ⊢
  rw [Course.learn, if_pos hFits]
  obtain ⟨hNow, hPhase⟩ := performAll_spec s (Pump.step s.binding c.phase event).2
    { l with phase := (Pump.step s.binding c.phase event).1 }
  constructor
  · exact hPhase.symm
  · have hEntered : Reflects writer
        { l with phase := (Pump.step s.binding c.phase event).1 } c.log :=
      { h.reflects with }
    simpa [turn] using (hEntered.learned (roundOf event c.round) c.phase event).performAll s
      (roundOf event c.round) (Pump.step s.binding c.phase event).2
  · rw [hNow]
    exact h.stop_le_of_told
  · rw [hNow]
    exact h.now_le_stop

/-- Each step of a life is a move or two of the course. -/
theorem Follows.advance {c : Course} (h : Follows s writer l c) :
    ∃ moves, Follows s writer (l.advance s) (c.run s.binding moves) := by
  obtain ⟨hPassed, hFits⟩ := (learns_learn s l).passed h.now_le_stop
  have hPhase : (l.learn s).2.phase = l.phase := by rw [hPassed.eq]
  have hFollows := h.passed hPassed
  unfold Timeline.advance
  split
  · next l' hLearn =>
    rw [hLearn] at hFollows
    exact ⟨[], hFollows⟩
  · next e l' hLearn =>
    rw [hLearn] at hFollows hFits hPhase
    refine ⟨(if s.stop ≤ l'.now then [.tell] else []) ++ [.learn e], ?_⟩
    rw [run_append_singleton, run_tell_of_stop hFollows.stop_le_of_told]
    have hTold : Follows s writer l' { c with told := decide (s.stop ≤ l'.now) } :=
      { hFollows with stop_le_of_told := of_decide_eq_true }
    exact hTold.learn (hPhase ▸ hFits e rfl)

/-- **Every life is a course.** -/
theorem exists_course_of_life (s : Surroundings) (streams : List Stream) (writer : Egress.Script)
    (n : Nat) : ∃ moves, Follows s writer
      (((Timeline.start s streams writer).passTo s 0).advanceFor s n) (run s.binding {} moves) := by
  have hStart : Follows s writer (Timeline.start s streams writer) {} :=
    ⟨rfl, ⟨rfl, rfl, rfl, rfl, rfl, rfl⟩, nofun, Nat.zero_le _⟩
  have hFollows : ∃ moves, Follows s writer ((Timeline.start s streams writer).passTo s 0)
      (run s.binding {} moves) :=
    ⟨[], hStart.passed (passed_passTo (Nat.le_refl 0) (Nat.zero_le _))⟩
  generalize (Timeline.start s streams writer).passTo s 0 = l at hFollows
  induction n generalizing l with
  | zero => exact hFollows
  | succ n ih =>
    rw [Timeline.advanceFor]
    split
    · exact hFollows
    · obtain ⟨moves, hFollows⟩ := hFollows
      obtain ⟨more, hNext⟩ := hFollows.advance
      exact ih _ ⟨moves ++ more, run_append .. ▸ hNext⟩

end Lives

/-- Who was told to end before the first round does nothing. -/
theorem no_deed_of_told (b : Binding) (moves : List Move) :
    (run b {} (.tell :: moves)).told = true ∧
      ((run b {} (.tell :: moves)).phase = .idle ∨ (run b {} (.tell :: moves)).phase = .ended) ∧
      times Line.isDeed (run b {} (.tell :: moves)).log = 0 := by
  induction moves using List.reverseRecOn with
  | nil => exact ⟨rfl, .inl rfl, rfl⟩
  | append_singleton moves m ih =>
    rw [← List.cons_append, run_append_singleton]
    generalize run b {} (.tell :: moves) = c at ih
    obtain ⟨hTold, hPhase, hNone⟩ := ih
    cases m with
    | tell => exact ⟨rfl, hPhase, hNone⟩
    | learn event =>
      obtain ⟨phase, told, round, log⟩ := c
      obtain rfl : told = true := hTold
      obtain rfl | rfl : phase = .idle ∨ phase = .ended := hPhase
      · cases event with
        | cancelled =>
          refine ⟨rfl, .inr rfl, ?_⟩
          simpa [move, learn, Pump.fits, Pump.step, turn, times, Line.isDeed] using hNone
        | _ => exact ⟨rfl, .inl rfl, hNone⟩
      · cases event <;> exact ⟨rfl, .inr rfl, hNone⟩

/-- **Every course is lawful**, whatever the connector, the pool and the streams answer, and
whenever it is told to end. If it is told at once it does nothing at all. -/
theorem every_course_lawful :
    (∀ b moves, Lawful b (run b {} moves)) ∧
    (∀ b moves, times Line.isDeed (run b {} (.tell :: moves)).log = 0) ∧
    ∀ s streams writer n, ∃ moves, Follows s writer
      (((Timeline.start s streams writer).passTo s 0).advanceFor s n) (run s.binding {} moves) :=
  ⟨fun b moves => (kept_run b moves).lawful, fun b moves => (no_deed_of_told b moves).2.2,
    exists_course_of_life⟩

/-- The first stream yields a log line and another record and then fails. The second one is being
opened when the subscription learns that it is to end. -/
theorem lawful_when_cut_while_opening :
    let b : Binding := ⟨"app", "host", "drain"⟩
    let line : Envelope := ⟨"app", "0", 0, ∅, some ⟨[104, 105], .out⟩⟩
    let c := run b {} [.learn .proceed, .learn (.connected (.ok ())), .learn (.chosen 3),
      .learn (.opened (.ok ())), .learn (.received (.ok { line with log := none })),
      .learn (.received (.ok line)), .learn (.received (.error .closed)), .learn .proceed,
      .learn (.connected (.ok ())), .learn (.chosen 4), .tell]
    let d := c.run b [.learn .cancelled, .learn .cancelled]
    entries Line.written? c.log = [(1, line)] ∧ entries Line.invalidated? c.log = [(1, 3)] ∧
      closedIn 1 c.log = 1 ∧ IsOpen 2 c.log ∧ d.phase = .ended ∧ closedIn 2 d.log = 1 := by
  intro b line c d
  have hLawful : Lawful b c := every_course_lawful.1 b _
  have hCut := hLawful.cut rfl rfl
  refine ⟨by decide, by decide, by decide, by decide, ?_, ?_⟩
  · exact congrArg Course.phase hCut
  · rw [show d.log = _ from congrArg Course.log hCut]
    decide

end Course

end LogEgress.Adapter
