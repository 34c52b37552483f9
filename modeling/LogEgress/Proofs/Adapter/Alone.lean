import LogEgress.Proofs.Adapter.Crowd
import LogEgress.Proofs.Adapter.Life

set_option autoImplicit false

/-! # The life of a subscription as a crowd of one

A life runs a pump and the monitor of a pool with one slot in surroundings that are fixed in
advance. A crowd in which one member alone takes turns comes to the same (`exists_crowd_of_life`):
its pool is checked at the ticks of the monitor, and the member is told to end when the life is to
end. So what is true of all crowds is true of lives (`no_reconnect_storm`).
-/

namespace LogEgress

/-- The ticks until a time are due by then, and the next one is due later. -/
theorem Ticker.ticksBefore_spec {t : Ticker} (hPeriod : 0 < t.period) (time : Nat) :
    (∀ k < t.ticksBefore (time + 1), t.due + k * t.period ≤ time) ∧
      time ≤ t.due + t.ticksBefore (time + 1) * t.period := by
  refine ⟨fun k hk => ?_, ?_⟩
  · have hBound := (Nat.le_div_iff_mul_le hPeriod).mp (Nat.succ_le_of_lt hk)
    rw [Nat.succ_mul] at hBound
    omega
  · have hBound := Nat.lt_mul_div_succ (time + 1 - t.due + t.period - 1) hPeriod
    rw [Nat.mul_comm, Nat.succ_mul] at hBound
    rw [ticksBefore]
    omega

namespace Adapter

open Course (Learns isAwaited learns_learn)
open Pump (Phase Event Action)
open Ingress.Pool (Session)

/-- What is fixed for a subscription in its surroundings. -/
def Surroundings.setting (s : Surroundings) : Setting where
  binding _ := s.binding
  dial := s.dial
  rules := s.rules
  reopenWait := s.reopenWait

/-- The client of which a stream was opened, or was to be. -/
@[simp]
def Deed.opened? : Deed → Option Nat
  | .opened c => some c
  | _ => none

namespace Crowd

/-- A pool that is as in a life. -/
structure Accords (l : Timeline) (p : Session) : Prop where
  pool_eq : p.pool = l.pool
  now_eq : p.now = l.now
  idle : p.Idle
  ticks : ∀ t ∈ l.monitor, 0 < t.period ∧ l.now ≤ t.due

/-- A member that is as the pump in a life, and still has some actions to do. If it is to look for
a client, it may do so at `wake`. -/
structure Plays (s : Surroundings) (l : Timeline) (todo : List Action) (wake : Nat) (m : Member) :
    Prop where
  phase_eq : m.phase = l.phase
  todo_eq : m.todo = todo
  told_eq : m.told = decide (s.stop ≤ l.now)
  choosing : l.phase = .choosing → todo = [.choose] ∨
    todo = [] ∧ (m.wakes ≤ wake ∨ s.stop ≤ wake)
  pausing : l.phase = .pausing → todo = [.rest] ∨ todo = [] ∧ m.wakes ≤ wake + s.reopenWait

/-- A crowd whose first member is as the pump in a life, with the record of that member. -/
structure Joins (s : Surroundings) (l : Timeline) (todo : List Action) (wake : Nat) (c : Crowd)
    (records : List (Nat × Deed)) : Prop where
  accords : Accords l c.session
  plays : Plays s l todo wake (c.members 0)
  requests_eq : l.requests.map Prod.fst = records.filterMap fun x => x.2.opened?

/-- Some crowd of one comes to the same as a life. -/
def Reaches (s : Surroundings) (l : Timeline) (todo : List Action) (wake : Nat) : Prop :=
  ∃ moves, Joins s l todo wake ((start 1 0).run s.setting moves)
    ((start 1 0).records s.setting 0 moves)

theorem records_append (S : Setting) (i : Nat) (s : Crowd) (moves more : List Move) :
    s.records S i (moves ++ more) = s.records S i moves ++ (s.run S moves).records S i more := by
  induction moves generalizing s with
  | nil => rfl
  | cons m moves ih =>
    rw [List.cons_append, records, records, ih, List.append_assoc]
    rfl

theorem members_move_turn (S : Setting) (i : Nat) (s : Crowd) (h : Happening) :
    (s.move S (.turn i h)).members i =
      ((s.members i).turn S (S.binding i) s.session h).member :=
  Function.update_self ..

/-- What happens to the pool alone changes no member, and is not recorded. -/
theorem run_pool (S : Setting) (i : Nat) (s : Crowd) (moves : List Session.Move) :
    s.run S (moves.map .pool) = { s with session := s.session.run S.dial S.rules.lifetime moves } ∧
      s.records S i (moves.map .pool) = [] := by
  induction moves generalizing s with
  | nil => exact ⟨rfl, rfl⟩
  | cons m moves ih => exact ih _

section Lives

variable {s : Surroundings} {l l' : Timeline} {todo todo' : List Action} {wake wake' time : Nat}

/-! ## Time -/

/-- While time passes in a life, the pool is checked at the ticks of its monitor. -/
theorem Accords.passTo {p : Session} (h : Accords l p) (s : Surroundings) (hNow : l.now ≤ time) :
    ∃ moves, Accords (l.passTo s time) (p.run s.dial s.rules.lifetime moves) := by
  have hTime : p.now ≤ time := h.now_eq ▸ hNow
  unfold Timeline.passTo
  split
  · next hNone =>
    refine ⟨[.pass (time - p.now)], h.pool_eq, Nat.add_sub_cancel' hTime, h.idle, ?_⟩
    simp [hNone]
  · next t hSome =>
    obtain ⟨hPeriod, hDue⟩ := h.ticks t hSome
    obtain ⟨hTicks, hNext⟩ := Ticker.ticksBefore_spec hPeriod time
    obtain ⟨moves, log, hRun⟩ := Session.exists_run_checks s.dial s.rules.lifetime _ h.idle
      (h.now_eq ▸ hDue) hTime hTicks
    refine ⟨moves, ?_, ?_, ?_, ?_⟩
    · rw [hRun, ← h.pool_eq]
    · rw [hRun]
    · rw [hRun]
      exact h.idle
    · rintro t' ⟨⟩
      exact ⟨hPeriod, hNext⟩

theorem passTo_spec (s : Surroundings) (time : Nat) (l : Timeline) :
    (l.passTo s time).now = time ∧ (l.passTo s time).phase = l.phase ∧
      (l.passTo s time).requests = l.requests := by
  unfold Timeline.passTo
  split <;> exact ⟨rfl, rfl, rfl⟩

/-- A member is told to end when it is time. -/
theorem Plays.passTo {m : Member} (h : Plays s l todo wake m) (time : Nat) :
    Plays s (l.passTo s time) todo wake { m with told := decide (s.stop ≤ time) } := by
  obtain ⟨hNow, hPhase, -⟩ := passTo_spec s time l
  exact {
    phase_eq := h.phase_eq.trans hPhase.symm
    todo_eq := h.todo_eq
    told_eq := congrArg (fun n => decide (s.stop ≤ n)) hNow.symm
    choosing := hPhase ▸ h.choosing
    pausing := hPhase ▸ h.pausing }

theorem Reaches.passTo (h : Reaches s l todo wake) (hNow : l.now ≤ time) :
    Reaches s (l.passTo s time) todo wake := by
  obtain ⟨moves, hJoins⟩ := h
  obtain ⟨checks, hAccords⟩ := hJoins.accords.passTo s hNow
  have hPlays := hJoins.plays.passTo time
  have hRequests := (passTo_spec s time l).2.2 ▸ hJoins.requests_eq
  refine ⟨moves ++ (checks.map .pool ++ if s.stop ≤ time then [.turn 0 .tell] else []), ?_⟩
  rw [run_append, records_append, run_append, records_append,
    (run_pool s.setting 0 _ checks).1, (run_pool s.setting 0 _ checks).2]
  by_cases hStop : s.stop ≤ time
  · rw [if_pos hStop]
    rw [decide_eq_true hStop] at hPlays
    refine ⟨hAccords, ?_, ?_⟩
    · show Plays s _ todo wake ((move s.setting _ (.turn 0 .tell)).members 0)
      rw [members_move_turn]
      exact hPlays
    · simpa [records, record, Member.turn] using hRequests
  · rw [if_neg hStop]
    have hTold : (((start 1 0).run s.setting moves).members 0).told = decide (s.stop ≤ time) := by
      have hBefore : ¬ s.stop ≤ l.now := fun hStop' => hStop (Nat.le_trans hStop' hNow)
      rw [hJoins.plays.told_eq, decide_eq_false hStop, decide_eq_false hBefore]
    refine ⟨hAccords, ?_, ?_⟩
    · rwa [← hTold] at hPlays
    · simpa [records] using hRequests

/-! ## Turns -/

/-- A turn of the member is a step of the life. -/
theorem Reaches.turn (h : Reaches s l todo wake) (happening : Happening)
    (hTurn : ∀ p m, Accords l p → Plays s l todo wake m →
      Accords l' (p.run s.dial s.rules.lifetime
        (m.turn s.setting s.binding p happening).moves) ∧
      Plays s l' todo' wake' (m.turn s.setting s.binding p happening).member ∧
      l'.requests.map Prod.fst = l.requests.map Prod.fst ++
        ((m.turn s.setting s.binding p happening).deed.bind Deed.opened?).toList) :
    Reaches s l' todo' wake' := by
  obtain ⟨moves, hJoins⟩ := h
  obtain ⟨hAccords, hPlays, hRequests⟩ := hTurn _ _ hJoins.accords hJoins.plays
  refine ⟨moves ++ [.turn 0 happening], ?_⟩
  rw [run_append, records_append]
  generalize (start 1 0).run s.setting moves = c at *
  refine ⟨hAccords, ?_, ?_⟩
  · show Plays s l' todo' wake' ((c.move s.setting (.turn 0 happening)).members 0)
    rw [members_move_turn]
    exact hPlays
  · rw [hRequests, hJoins.requests_eq, List.filterMap_append, records, records, List.append_nil,
      record, if_pos rfl]
    show _ = _ ++ List.filterMap _ (Option.map _
      ((c.members 0).turn s.setting s.binding c.session happening).deed).toList
    congr 1
    cases ((c.members 0).turn s.setting s.binding c.session happening).deed with
    | none => rfl
    | some d => cases d <;> rfl

/-- When it may look, the member does so. -/
theorem Plays.turn_look {p : Session} {m : Member} (h : Plays s l [] l.now m)
    (hAccords : Accords l p) (hChoosing : l.phase = .choosing) (hStop : l.now < s.stop) :
    m.turn s.setting s.binding p .look = m.look s.setting s.binding p := by
  have hWakes : m.wakes ≤ p.now := by
    rw [hAccords.now_eq]
    obtain hTodo | ⟨-, hWakes⟩ := h.choosing hChoosing
    · cases hTodo
    · exact hWakes.resolve_right (Nat.not_le_of_lt hStop)
  rw [Member.turn, if_pos ⟨h.phase_eq.trans hChoosing, h.todo_eq, hWakes⟩]

theorem Reaches.look (h : Reaches s l [] l.now) {client : Nat} {pool : Ingress.Pool}
    (hChoosing : l.phase = .choosing) (hStop : l.now < s.stop)
    (hLook : l.pool.look = (some client, pool)) :
    Reaches s { l with pool, phase := .opening client }
      [.openStream client (Pump.requestOf s.binding)] l.now := by
  refine h.turn .look fun p m hAccords hPlays => ?_
  have hPool : p.pool.look = (some client, pool) := hAccords.pool_eq ▸ hLook
  have hPhase : m.phase = .choosing := hPlays.phase_eq.trans hChoosing
  rw [hPlays.turn_look hAccords hChoosing hStop, Member.look, hPool]
  refine ⟨?_, ?_, (List.append_nil _).symm⟩
  · exact { hAccords with pool_eq := congrArg Prod.snd hPool }
  · exact {
      phase_eq := by simp [Member.learn, hPhase, Pump.step]
      todo_eq := by simp [Member.learn, hPhase, Pump.step]
      told_eq := hPlays.told_eq
      choosing := by simp
      pausing := by simp }

/-- After a look in vain the next one is later. -/
theorem Reaches.lookInVain (h : Reaches s l [] l.now) {pool : Ingress.Pool}
    (hChoosing : l.phase = .choosing) (hStop : l.now < s.stop)
    (hLook : l.pool.look = (none, pool)) :
    Reaches s { l with pool } [] (min s.stop (l.now + s.rules.retryWait)) := by
  refine h.turn .look fun p m hAccords hPlays => ?_
  have hPool : p.pool.look = (none, pool) := hAccords.pool_eq ▸ hLook
  rw [hPlays.turn_look hAccords hChoosing hStop, Member.look, hPool]
  refine ⟨?_, ?_, (List.append_nil _).symm⟩
  · exact { hAccords with pool_eq := congrArg Prod.snd hPool }
  · exact { hPlays with
      choosing := fun _ => .inr ⟨rfl, by
        show p.now + s.rules.retryWait ≤ _ ∨ _
        rw [hAccords.now_eq]
        omega⟩
      pausing := by simp [hChoosing] }

/-- The member learns what fits its phase. -/
theorem Reaches.learn (h : Reaches s l [] wake) {event : Event}
    (hFits : Pump.fits (decide (s.stop ≤ l.now)) l.phase event = true)
    (hWait : isAwaited event = true → event = .rested ∧ wake + s.reopenWait ≤ l.now) :
    Reaches s { l with phase := (Pump.step s.binding l.phase event).1 }
      (Pump.step s.binding l.phase event).2 l.now := by
  refine h.turn (.learn event) fun p m hAccords hPlays => ?_
  have hReady : m.ready p.now event = true := by
    cases event with
    | chosen c => cases (hWait rfl).1
    | rested =>
      have hPausing : l.phase = .pausing := by
        generalize l.phase = phase at hFits
        cases phase <;> first | rfl | cases hFits
      obtain hTodo | ⟨-, hWakes⟩ := hPlays.pausing hPausing
      · cases hTodo
      · rw [Member.ready, hAccords.now_eq]
        exact decide_eq_true (Nat.le_trans hWakes (hWait rfl).2)
    | _ => rfl
  have hTurn := Pump.turn_of_fits s.binding hFits
  rw [← hPlays.told_eq, ← hPlays.phase_eq] at hFits
  rw [Member.turn, if_pos ⟨hPlays.todo_eq, hFits, hReady⟩, Member.learn, hPlays.phase_eq]
  generalize Pump.step s.binding l.phase event = next at hTurn
  generalize l.phase = before at hTurn
  obtain ⟨phase, actions⟩ := next
  refine ⟨{ hAccords with }, ?_, ?_⟩
  · refine ⟨rfl, rfl, hPlays.told_eq, fun hChoosing => ?_, fun hPausing => ?_⟩
    · obtain rfl : phase = .choosing := hChoosing
      cases hTurn
      exact .inl rfl
    · obtain rfl : phase = .pausing := hPausing
      cases hTurn
      exact .inl rfl
  · unfold Deed.ofEvent?
    split <;> exact (List.append_nil _).symm

theorem Plays.act {m : Member} {a : Action} (h : Plays s l (a :: todo) wake m) {wakes : Nat}
    (hChoose : a = .choose → wakes ≤ l.now) (hRest : a = .rest → wakes ≤ l.now + s.reopenWait) :
    Plays s (l.perform s a) todo l.now { m with todo, wakes } := by
  obtain ⟨hNow, hPhase⟩ : (l.perform s a).now = l.now ∧ (l.perform s a).phase = l.phase := by
    cases a <;> exact ⟨rfl, rfl⟩
  refine ⟨h.phase_eq.trans hPhase.symm, rfl, hNow ▸ h.told_eq, fun hChoosing => ?_,
    fun hPausing => ?_⟩
  · obtain hOne | ⟨hNone, -⟩ := h.choosing (hPhase ▸ hChoosing)
    · obtain ⟨hSame, rfl⟩ := List.cons.inj hOne
      exact .inr ⟨rfl, .inl (hChoose hSame)⟩
    · cases hNone
  · obtain hOne | ⟨hNone, -⟩ := h.pausing (hPhase ▸ hPausing)
    · obtain ⟨hSame, rfl⟩ := List.cons.inj hOne
      exact .inr ⟨rfl, hRest hSame⟩
    · cases hNone

/-- The member does the next thing that it has to do. -/
theorem Reaches.act {a : Action} (h : Reaches s l (a :: todo) wake) :
    Reaches s (l.perform s a) todo l.now := by
  refine h.turn .act fun p m hAccords hPlays => ?_
  have hTodo := hPlays.todo_eq
  rw [Member.turn, Member.act]
  cases a with
  | choose =>
    simp only [hTodo]
    exact ⟨{ hAccords with }, hPlays.act (fun _ => Nat.le_of_eq hAccords.now_eq) (by simp),
      (List.append_nil _).symm⟩
  | rest =>
    simp only [hTodo]
    have hWakes : p.now + s.reopenWait ≤ l.now + s.reopenWait :=
      Nat.le_of_eq (congrArg (· + s.reopenWait) hAccords.now_eq)
    exact ⟨{ hAccords with }, hPlays.act (by simp) fun _ => hWakes, (List.append_nil _).symm⟩
  | openStream c r =>
    simp only [hTodo]
    exact ⟨{ hAccords with }, hPlays.act (by simp) (by simp), List.map_append⟩
  | invalidate c =>
    simp only [hTodo]
    exact ⟨{ hAccords with pool_eq := congrArg (Ingress.Pool.invalidate c) hAccords.pool_eq },
      hPlays.act (by simp) (by simp), (List.append_nil _).symm⟩
  | _ =>
    simp only [hTodo]
    exact ⟨{ hAccords with }, hPlays.act (by simp) (by simp), (List.append_nil _).symm⟩

theorem Reaches.acts (h : Reaches s l todo l.now) :
    Reaches s (todo.foldl (Timeline.perform s) l) [] (todo.foldl (Timeline.perform s) l).now := by
  induction todo generalizing l with
  | nil => exact h
  | cons a todo ih =>
    have hNow : (l.perform s a).now = l.now := by cases a <;> rfl
    exact ih (hNow ▸ h.act)

/-! ## Lives -/

theorem Reaches.readStream (h : Reaches s l todo wake) (stream : Stream) :
    Reaches s { l with stream } todo wake := by
  obtain ⟨moves, hJoins⟩ := h
  exact ⟨moves, { hJoins.accords with }, { hJoins.plays with }, hJoins.requests_eq⟩

/-- Each step of a life is a turn of the member or a few, and checks of the pool beside them. -/
theorem Reaches.advance (h : Reaches s l [] l.now) (hStop : l.now ≤ s.stop) :
    Reaches s (l.advance s) [] (l.advance s).now := by
  have hLearns := learns_learn s l
  unfold Timeline.advance
  generalize l.learn s = answer at hLearns ⊢
  cases hLearns with
  | atOnce e stream hAtOnce hFits =>
    exact ((h.readStream stream).learn hFits (by simp [hAtOnce])).acts
  | found c pool hChoosing hLater hLook =>
    simp only [hChoosing, Pump.step]
    exact (h.look hChoosing hLater hLook).acts
  | inVain pool hChoosing hLater hLook =>
    have hWait : l.now ≤ min s.stop (l.now + s.rules.retryWait) := by omega
    show Reaches s (Timeline.passTo s _ _) [] (Timeline.passTo s _ _).now
    rw [Course.now_passTo]
    exact (h.lookInVain hChoosing hLater hLook).passTo hWait
  | paused hPausing =>
    have hWait : l.now ≤ min s.stop (l.now + s.reopenWait) := by omega
    have hPassed : Reaches s (l.wait s s.reopenWait) [] l.now := h.passTo hWait
    have hNow : (l.wait s s.reopenWait).now = min s.stop (l.now + s.reopenWait) :=
      Course.now_passTo ..
    have hPhase : (l.wait s s.reopenWait).phase = .pausing :=
      (passTo_spec s _ l).2.1.trans hPausing
    refine (hPassed.learn ?_ ?_).acts
    · by_cases hOver : s.stop ≤ (l.wait s s.reopenWait).now <;> simp [hOver, hPhase, Pump.fits]
    · split
      · simp [isAwaited]
      · exact fun _ => ⟨rfl, by omega⟩
  | stopped c hReceiving =>
    have hPassed : Reaches s (l.passTo s s.stop) [] l.now := h.passTo hStop
    have hFits : Pump.fits (decide (s.stop ≤ (l.passTo s s.stop).now))
        (l.passTo s s.stop).phase .cancelled = true := by
      rw [Course.now_passTo, (passTo_spec s _ l).2.1, hReceiving]
      exact decide_eq_true (Nat.le_refl _)
    exact (hPassed.learn hFits (by simp [isAwaited])).acts
  | ended => exact h

theorem now_advance_le (hStop : l.now ≤ s.stop) : (l.advance s).now ≤ s.stop := by
  have hPassed := ((learns_learn s l).passed hStop).1.now_le_stop
  unfold Timeline.advance
  generalize l.learn s = answer at hPassed
  obtain ⟨_ | e, l'⟩ := answer
  · exact hPassed
  · exact Nat.le_trans (Nat.le_of_eq (Course.performAll_spec s _ _).1) hPassed

theorem reaches_start (s : Surroundings) (streams : List Stream) (writer : Egress.Script) :
    Reaches s (Timeline.start s streams writer) [] 0 := by
  have hAccords : Accords (Timeline.start s streams writer) (Session.start 1 0) := by
    refine ⟨rfl, rfl, ⟨rfl, rfl, rfl⟩, fun t hMonitor => ?_⟩
    obtain ⟨hPeriod, rfl⟩ : s.rules.checkInterval ≠ 0 ∧ ⟨s.rules.checkInterval, 0⟩ = t := by
      simpa [Timeline.start, Ticker.start?] using hMonitor
    exact ⟨Nat.pos_of_ne_zero hPeriod, Nat.le_refl _⟩
  by_cases hStop : s.stop ≤ 0
  · refine ⟨[.turn 0 .tell], hAccords, ⟨rfl, rfl, ?_, by simp [Timeline.start], by simp [Timeline.start]⟩, rfl⟩
    exact (decide_eq_true hStop).symm
  · refine ⟨[], hAccords, ⟨rfl, rfl, ?_, by simp [Timeline.start], by simp [Timeline.start]⟩, rfl⟩
    exact (decide_eq_false hStop).symm

/-- **Every life is a crowd of one.** -/
theorem exists_crowd_of_life (s : Surroundings) (streams : List Stream) (writer : Egress.Script)
    (n : Nat) :
    let l := ((Timeline.start s streams writer).passTo s 0).advanceFor s n
    ∃ moves, Joins s l [] l.now ((start 1 0).run s.setting moves)
      ((start 1 0).records s.setting 0 moves) := by
  show Reaches s _ [] (Timeline.now _)
  have hStart : Reaches s ((Timeline.start s streams writer).passTo s 0) []
      ((Timeline.start s streams writer).passTo s 0).now := by
    rw [Course.now_passTo]
    exact (reaches_start s streams writer).passTo (Nat.le_refl 0)
  have hStop : ((Timeline.start s streams writer).passTo s 0).now ≤ s.stop := by
    rw [Course.now_passTo]
    exact Nat.zero_le _
  generalize (Timeline.start s streams writer).passTo s 0 = l at hStart hStop
  induction n generalizing l with
  | zero => exact hStart
  | succ n ih =>
    rw [Timeline.advanceFor]
    split
    · exact hStart
    · exact ih _ (hStart.advance hStop) (now_advance_le hStop)

end Lives

/-- **No reconnect storm.** In any crowd every member is calm, and every life is a crowd of one. -/
theorem no_reconnect_storm :
    (∀ S size now front moves i, Calm S size i ((start size now).run S front) moves) ∧
    ∀ s streams writer n,
      let l := ((Timeline.start s streams writer).passTo s 0).advanceFor s n
      ∃ moves, Joins s l [] l.now ((start 1 0).run s.setting moves)
        ((start 1 0).records s.setting 0 moves) :=
  ⟨calm_run, exists_crowd_of_life⟩

/-- Two slots, and one subscription. Its first stream fails, its second cannot be opened, and after
the pause it looks in vain, since the client in the next slot failed before. The third stream is of
the other client and fails, too. -/
theorem calm_with_two_slots :
    let S : Setting := { binding := fun _ => ⟨"app", "host", "drain"⟩, dial := fun _ => .ok () }
    let s := (start 2 0).run S (.pool .check :: List.replicate 4 (.pool .proceed))
    let turns : List Happening → List Move := List.map (.turn 0)
    let begins := turns [.learn .proceed, .act, .learn (.connected (.ok ())), .act]
    let opens (e : Event) := turns [.look, .act, .learn e]
    let fails := turns [.learn (.received (.error .closed)), .act, .act]
    let moves := begins ++ opens (.opened (.ok ())) ++ fails ++
      begins ++ opens (.opened (.error (.stream "503"))) ++ turns [.act] ++ [.pool (.pass 100)] ++
      turns [.learn .rested, .act] ++
      begins ++ turns [.look] ++ [.pool (.pass 100)] ++ opens (.opened (.ok ())) ++ fails
    Unreplaced S s moves ∧
      s.records S 0 moves = [(0, .chosen 0), (0, .opened 0), (0, .broke 0), (0, .chosen 1),
        (0, .opened 1), (0, .refused 1), (200, .chosen 1), (200, .opened 1), (200, .broke 1)] ∧
      brokeIn (sinceChosen (s.records S 0 moves)) = [0, 1] ∧
      (brokeIn (sinceChosen (s.records S 0 moves))).length ≤ 2 := by
  intro S s turns begins opens fails moves
  have hSlots : Unreplaced S s moves := by decide +kernel
  have hCalm : Calm S 2 0 s moves := no_reconnect_storm.1 S 2 0 _ moves 0
  exact ⟨hSlots, by decide +kernel, by decide +kernel, hCalm.broke_le hSlots⟩

end Crowd

end Adapter

end LogEgress
