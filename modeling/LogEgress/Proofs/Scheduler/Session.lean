import LogEgress.Scheduler.Term
import Mathlib.Algebra.GroupWithZero.Nat
import Mathlib.Data.List.Nodup

set_option autoImplicit false

/-! # Terms with interleaved calls

A term makes its calls in three stages: it asks all adapters what they hold, carries out the
deletions of its plan, and then the creations. Within a stage each adapter has a worker that makes
the calls to it one after the other, and the workers take their turns in any order; a call begins in
one turn and comes back in another. The scheduler waits for the last of them before it goes on to
the next stage. What the workers do in between depends on the schedule, but what each of them comes
to does not (`outlook_act`), and so a stage that has ended looks the same for every schedule.
-/

namespace LogEgress.Scheduler

variable {σ : Type}

/-! ## Calls -/

/-- A call to an adapter. -/
inductive Call where
  | list
  | change (c : Change) (b : Binding)
  deriving DecidableEq

/-- What is seen of the calls: that one begins, and what comes of it. There is no result if the
task that made the call broke down. -/
inductive Event where
  | called (addr : String) (call : Call)
  | listed (addr : String) (result : Option (Except Rpc.Error (List Binding)))
  | changed (addr : String) (c : Change) (b : Binding) (result : Option (Except Rpc.Error Unit))

/-- The adapter that an event is about. -/
def Event.addr : Event → String
  | .called addr _ => addr
  | .listed addr _ => addr
  | .changed addr _ _ _ => addr

/-- The events about one adapter. -/
def eventsAt (addr : String) (t : List Event) : List Event := t.filter fun e => e.addr = addr

/-- What an adapter answered when it was asked what it holds. -/
def Event.answer? : Event → Option (String × List Binding)
  | .listed addr (some (.ok bs)) => some (addr, bs)
  | _ => none

/-- What is known of the adapters after some events: their answers, in the order in which they
came. -/
def known (t : List Event) : Holdings :=
  SortedMap.ofList ((t.filterMap Event.answer?).map fun a => (a.1, SortedSet.ofList a.2))

/-- A call that came back: what is seen of it, the adapter's state, and whether the call succeeded,
if its task did not break down. -/
structure Returned (σ : Type) where
  event : Event
  state : σ
  verdict : Option Bool

/-- Makes a call. -/
def Call.perform (srv : Server σ) (deadlines : Deadlines) (addr : String) :
    Call → σ → Returned σ
  | .list, s =>
    let (r, s) := srv.list deadlines.list s
    let result := (settle addr "list" deadlines.list r).1
    ⟨.listed addr result, s, result.map Except.isOk⟩
  | .change c b, s =>
    let (r, s) := srv.change c b deadlines.change s
    let result := (settle addr c.name deadlines.change r).1
    ⟨.changed addr c b result, s, result.map Except.isOk⟩

/-! ## Workers -/

/-- The task that makes the calls to one adapter: the calls that have not come back yet, whether the
first of them has begun, and how many others succeeded. -/
structure Worker (σ : Type) where
  addr : String
  state : σ
  left : List Call := []
  calling : Bool := false
  succeeded : Nat := 0

/-- One turn of a worker: a call begins, or comes back. -/
def Worker.step (srv : Server σ) (deadlines : Deadlines) (w : Worker σ) : Worker σ × List Event :=
  match w.left with
  | [] => (w, [])
  | call :: rest =>
    if w.calling then
      let r := call.perform srv deadlines w.addr w.state
      match r.verdict with
      -- A task that breaks down makes no more calls, and its successes do not count.
      | none => (⟨w.addr, r.state, [], false, 0⟩, [r.event])
      | some ok =>
        (⟨w.addr, r.state, rest, false, if ok then w.succeeded + 1 else w.succeeded⟩, [r.event])
    else ({ w with calling := true }, [.called w.addr call])

/-- What a worker comes to: the adapter's state, the number of successes, and what is seen until
then. -/
structure Solo (σ : Type) where
  state : σ
  succeeded : Nat
  events : List Event

/-- Makes calls one after the other. -/
def solo (srv : Server σ) (deadlines : Deadlines) (addr : String) :
    List Call → σ → Nat → Solo σ
  | [], s, n => ⟨s, n, []⟩
  | call :: rest, s, n =>
    let r := call.perform srv deadlines addr s
    match r.verdict with
    | none => ⟨r.state, 0, [.called addr call, r.event]⟩
    | some ok =>
      let o := solo srv deadlines addr rest r.state (if ok then n + 1 else n)
      { o with events := .called addr call :: r.event :: o.events }

/-- What a worker comes to from here. -/
def Worker.finish (srv : Server σ) (deadlines : Deadlines) (w : Worker σ) : Solo σ :=
  let o := solo srv deadlines w.addr w.left w.state w.succeeded
  { o with events := if w.calling then o.events.tail else o.events }

/-- The worker when it has come to its end. -/
def Worker.conclude (srv : Server σ) (deadlines : Deadlines) (w : Worker σ) : Worker σ :=
  { addr := w.addr
    state := (w.finish srv deadlines).state
    succeeded := (w.finish srv deadlines).succeeded }

/-- Gives a worker the changes that concern its adapter. -/
def Worker.assign (c : Change) (changes : List (String × Binding)) (w : Worker σ) : Worker σ :=
  { addr := w.addr
    state := w.state
    left := (changes.filter (·.1 = w.addr)).map fun p => .change c p.2 }

/-- The adapters that some workers work on. -/
def fleetOf (ws : List (Worker σ)) : Fleet σ := ws.map fun w => (w.addr, w.state)

/-- A worker without calls is not in a call. -/
def Worker.Sound (w : Worker σ) : Prop := w.left = [] → w.calling = false

/-! ## Sessions -/

/-- What a term is doing. -/
inductive Stage where
  | listing
  | deleting
  | creating
  | ended
  deriving DecidableEq

/-- A term under way. -/
structure Session (σ : Type) where
  workers : List (Worker σ)
  stage : Stage := .listing
  plan : Placement.Plan := ⟨[], []⟩
  deleted : Nat := 0
  created : Nat := 0
  /-- What has been seen, first things first. -/
  trace : List Event := []

/-- Whose turn it is: that of the worker of an adapter, or that of the scheduler. -/
inductive Turn where
  | worker (addr : String)
  | scheduler

/-- Lets the worker of an adapter take its turn. -/
def act (srv : Server σ) (deadlines : Deadlines) (addr : String) (ws : List (Worker σ)) :
    List (Worker σ) × List Event :=
  (ws.map fun w => if w.addr = addr then (w.step srv deadlines).1 else w,
    match ws.find? (·.addr = addr) with
    | some w => (w.step srv deadlines).2
    | none => [])

namespace Session

/-- A term that has just begun: each adapter is to be asked what it holds. -/
def start (fleet : Fleet σ) : Session σ :=
  { workers := fleet.map fun e => { addr := e.1, state := e.2, left := [.list] } }

/-- The adapters of a session. -/
def fleet (s : Session σ) : Fleet σ := fleetOf s.workers

/-- Goes on to the next stage if all workers are done with this one. -/
def join (desired : List Binding) (s : Session σ) : Session σ :=
  if ∀ w ∈ s.workers, w.left = [] then
    match s.stage with
    | .listing =>
      let plan := Placement.plan desired (known s.trace) (s.workers.map (·.addr))
      { s with
        workers := s.workers.map (·.assign .delete plan.deletes)
        stage := .deleting
        plan := plan }
    | .deleting =>
      { s with
        workers := s.workers.map (·.assign .create s.plan.creates)
        stage := .creating
        deleted := (s.workers.map (·.succeeded)).sum }
    | .creating => { s with stage := .ended, created := (s.workers.map (·.succeeded)).sum }
    | .ended => s
  else s

/-- One turn. -/
def turn (srv : Server σ) (deadlines : Deadlines) (desired : List Binding) (s : Session σ) :
    Turn → Session σ
  | .worker addr =>
    let (ws, es) := act srv deadlines addr s.workers
    { s with workers := ws, trace := s.trace ++ es }
  | .scheduler => s.join desired

/-- The session after the turns of a schedule. -/
def run (srv : Server σ) (deadlines : Deadlines) (desired : List Binding) (s : Session σ)
    (schedule : List Turn) : Session σ :=
  schedule.foldl (turn srv deadlines desired) s

/-- What a term reports at its end. -/
def report (desired : List Binding) (s : Session σ) : Report :=
  ⟨desired.length, (known s.trace).size, s.created, s.deleted⟩

end Session

variable {srv : Server σ} {deadlines : Deadlines}

/-! ## One worker -/

theorem eventsAt_append (addr : String) (t u : List Event) :
    eventsAt addr (t ++ u) = eventsAt addr t ++ eventsAt addr u := List.filter_append ..

@[simp] theorem addr_perform (addr : String) (call : Call) (s : σ) :
    (call.perform srv deadlines addr s).event.addr = addr := by
  cases call with
  | list => rfl
  | change c b => rfl

/-- What a turn of a worker can be: nothing, the begin of a call, its return to a task that breaks
down, or its return to one that goes on. -/
theorem Worker.step_cases (srv : Server σ) (deadlines : Deadlines) (w : Worker σ) :
    (w.left = [] ∧ w.step srv deadlines = (w, [])) ∨
      ∃ call rest, w.left = call :: rest ∧
        ((w.calling = false ∧
            w.step srv deadlines = ({ w with calling := true }, [.called w.addr call])) ∨
          (w.calling = true ∧ (call.perform srv deadlines w.addr w.state).verdict = none ∧
            w.step srv deadlines =
              (⟨w.addr, (call.perform srv deadlines w.addr w.state).state, [], false, 0⟩,
                [(call.perform srv deadlines w.addr w.state).event])) ∨
          ∃ ok, w.calling = true ∧
            (call.perform srv deadlines w.addr w.state).verdict = some ok ∧
            w.step srv deadlines =
              (⟨w.addr, (call.perform srv deadlines w.addr w.state).state, rest, false,
                if ok then w.succeeded + 1 else w.succeeded⟩,
                [(call.perform srv deadlines w.addr w.state).event])) := by
  cases hl : w.left with
  | nil => exact .inl ⟨rfl, by simp only [step, hl]⟩
  | cons call rest =>
    refine .inr ⟨call, rest, rfl, ?_⟩
    cases hc : w.calling with
    | false => exact .inl ⟨rfl, by simp only [step, hl, hc, Bool.false_eq_true, if_false]⟩
    | true =>
      cases hv : (call.perform srv deadlines w.addr w.state).verdict with
      | none => exact .inr (.inl ⟨rfl, rfl, by simp only [step, hl, hc, hv, if_true]⟩)
      | some ok => exact .inr (.inr ⟨ok, rfl, rfl, by simp only [step, hl, hc, hv, if_true]⟩)

/-- What calls made one after the other come to, by what comes of the first. -/
theorem solo_cons (addr : String) (call : Call) (rest : List Call) (s : σ) (n : Nat) :
    solo srv deadlines addr (call :: rest) s n =
      match (call.perform srv deadlines addr s).verdict with
      | none => ⟨(call.perform srv deadlines addr s).state, 0,
          [.called addr call, (call.perform srv deadlines addr s).event]⟩
      | some ok =>
        let o := solo srv deadlines addr rest (call.perform srv deadlines addr s).state
          (if ok then n + 1 else n)
        { o with
          events := .called addr call :: (call.perform srv deadlines addr s).event :: o.events } :=
  rfl

/-- The first call does not break the task down. -/
theorem solo_cons_of_verdict {addr : String} {call : Call} {s : σ} {ok : Bool}
    (h : (call.perform srv deadlines addr s).verdict = some ok) (rest : List Call) (n : Nat) :
    let o := solo srv deadlines addr rest (call.perform srv deadlines addr s).state
      (if ok then n + 1 else n)
    (solo srv deadlines addr (call :: rest) s n).succeeded = o.succeeded ∧
      (solo srv deadlines addr (call :: rest) s n).state = o.state := by
  rw [solo_cons, h]
  exact ⟨rfl, rfl⟩

theorem addr_of_mem_step {w : Worker σ} {e : Event} (h : e ∈ (w.step srv deadlines).2) :
    e.addr = w.addr := by
  obtain ⟨-, hw⟩ | ⟨call, rest, -, ⟨-, hw⟩ | ⟨-, -, hw⟩ | ⟨ok, -, -, hw⟩⟩ :=
    w.step_cases srv deadlines
  · rw [hw] at h
    cases h
  · rw [hw] at h
    rw [List.mem_singleton.1 h, Event.addr]
  · rw [hw] at h
    rw [List.mem_singleton.1 h, addr_perform]
  · rw [hw] at h
    rw [List.mem_singleton.1 h, addr_perform]

theorem addr_of_mem_solo {addr : String} {calls : List Call} {s : σ} {n : Nat} {e : Event}
    (h : e ∈ (solo srv deadlines addr calls s n).events) : e.addr = addr := by
  induction calls generalizing s n with
  | nil => cases h
  | cons call rest ih =>
    rw [solo_cons] at h
    cases hv : (call.perform srv deadlines addr s).verdict with
    | none =>
      simp only [hv, List.mem_cons, List.not_mem_nil, or_false] at h
      rcases h with rfl | rfl
      · rfl
      · exact addr_perform ..
    | some ok =>
      simp only [hv, List.mem_cons] at h
      rcases h with rfl | rfl | h
      · rfl
      · exact addr_perform ..
      · exact ih h

/-- The events of some calls that came before. -/
def Solo.after (es : List Event) (o : Solo σ) : Solo σ := { o with events := es ++ o.events }

theorem Solo.after_after (es es' : List Event) (o : Solo σ) :
    (o.after es).after es' = o.after (es' ++ es) := by
  simp only [Solo.after, List.append_assoc]

@[simp] theorem addr_step (w : Worker σ) : (w.step srv deadlines).1.addr = w.addr := by
  obtain ⟨-, hw⟩ | ⟨call, rest, -, ⟨-, hw⟩ | ⟨-, -, hw⟩ | ⟨ok, -, -, hw⟩⟩ :=
    w.step_cases srv deadlines
  all_goals rw [hw]

theorem sound_step {w : Worker σ} (h : w.Sound) : (w.step srv deadlines).1.Sound := by
  obtain ⟨-, hw⟩ | ⟨call, rest, hl, ⟨-, hw⟩ | ⟨-, -, hw⟩ | ⟨ok, -, -, hw⟩⟩ :=
    w.step_cases srv deadlines
  · rw [hw]
    exact h
  · rw [hw]
    intro hnil
    rw [hl] at hnil
    cases hnil
  · rw [hw]
    exact fun _ => rfl
  · rw [hw]
    exact fun _ => rfl

/-- A turn does not change what a worker comes to. -/
theorem finish_step (w : Worker σ) :
    ((w.step srv deadlines).1.finish srv deadlines).after (w.step srv deadlines).2 =
      w.finish srv deadlines := by
  obtain ⟨-, hw⟩ | ⟨call, rest, hl, ⟨hc, hw⟩ | ⟨hc, hv, hw⟩ | ⟨ok, hc, hv, hw⟩⟩ :=
    w.step_cases srv deadlines
  · rw [hw]
    rfl
  · rw [hw]
    simp only [Worker.finish, hl, hc, Bool.false_eq_true, if_false, if_true, solo_cons]
    split
    · rfl
    · rfl
  · rw [hw]
    simp only [Worker.finish, hl, hc, if_true, solo_cons, hv]
    rfl
  · rw [hw]
    simp only [Worker.finish, hl, hc, if_true, solo_cons, hv]
    rfl

theorem finish_of_idle {w : Worker σ} (hs : w.Sound) (h : w.left = []) :
    w.finish srv deadlines = ⟨w.state, w.succeeded, []⟩ := by
  rw [Worker.finish, h, hs h]
  rfl

/-- The number of turns after which a worker has come to its end, if its task does not break
down. -/
def Worker.turnsLeft (w : Worker σ) : Nat := 2 * w.left.length - if w.calling then 1 else 0

theorem turnsLeft_step_lt {w : Worker σ} (h : w.left ≠ []) :
    (w.step srv deadlines).1.turnsLeft < w.turnsLeft := by
  obtain ⟨hnil, -⟩ | ⟨call, rest, hl, ⟨hc, hw⟩ | ⟨hc, -, hw⟩ | ⟨ok, hc, -, hw⟩⟩ :=
    w.step_cases srv deadlines
  · exact absurd hnil h
  · simp only [hw, Worker.turnsLeft, hl, hc, List.length_cons, Bool.false_eq_true, if_false,
      if_true]
    omega
  · simp only [hw, Worker.turnsLeft, hl, hc, List.length_cons, List.length_nil,
      Bool.false_eq_true, if_false, if_true]
    omega
  · simp only [hw, Worker.turnsLeft, hl, hc, List.length_cons, Bool.false_eq_true, if_false,
      if_true]
    omega

theorem turnsLeft_step_le (w : Worker σ) : (w.step srv deadlines).1.turnsLeft ≤ w.turnsLeft := by
  by_cases h : w.left = []
  · exact Nat.le_of_eq (by rw [Worker.step, h])
  · exact Nat.le_of_lt (turnsLeft_step_lt h)

/-! ## The workers of a stage -/

theorem eventsAt_eq_self {addr : String} {t : List Event} (h : ∀ e ∈ t, e.addr = addr) :
    eventsAt addr t = t := by
  refine List.filter_eq_self.2 fun e he => ?_
  rw [h e he, decide_eq_true rfl]

theorem eventsAt_eq_nil {addr : String} {t : List Event} (h : ∀ e ∈ t, e.addr ≠ addr) :
    eventsAt addr t = [] := by
  refine List.filter_eq_nil_iff.2 fun e he => ?_
  rw [decide_eq_true_eq]
  exact h e he

theorem find?_addr {ws : List (Worker σ)} (hn : (ws.map (·.addr)).Nodup) {w : Worker σ}
    (hw : w ∈ ws) : ws.find? (·.addr = w.addr) = some w := by
  induction ws with
  | nil => cases hw
  | cons v ws ih =>
    rw [List.map_cons, List.nodup_cons] at hn
    rcases List.mem_cons.1 hw with rfl | hw
    · exact List.find?_cons_of_pos (decide_eq_true rfl)
    · have hne : v.addr ≠ w.addr := fun e => hn.1 (e ▸ List.mem_map_of_mem hw)
      rw [List.find?_cons_of_neg (by simpa using hne)]
      exact ih hn.2 hw

theorem addr_of_mem_act {addr : String} {ws : List (Worker σ)} {e : Event}
    (h : e ∈ (act srv deadlines addr ws).2) : e.addr = addr ∧ addr ∈ ws.map (·.addr) := by
  simp only [act] at h
  split at h
  · rename_i w hw
    have ha : w.addr = addr := by simpa using List.find?_some hw
    exact ⟨(addr_of_mem_step h).trans ha, ha ▸ List.mem_map_of_mem (List.mem_of_find?_eq_some hw)⟩
  · cases h

theorem eventsAt_act {ws : List (Worker σ)} (hn : (ws.map (·.addr)).Nodup) (addr : String)
    {w : Worker σ} (hw : w ∈ ws) :
    eventsAt w.addr (act srv deadlines addr ws).2 =
      if w.addr = addr then (w.step srv deadlines).2 else [] := by
  by_cases h : w.addr = addr
  · subst h
    have he : (act srv deadlines w.addr ws).2 = (w.step srv deadlines).2 := by
      simp only [act, find?_addr hn hw]
    rw [if_pos rfl, he]
    exact eventsAt_eq_self fun e he => addr_of_mem_step he
  · rw [if_neg h]
    exact eventsAt_eq_nil fun e he hw => h (hw.symm.trans (addr_of_mem_act he).1)

/-- What each adapter comes to, after some events: what was seen of it, and what its worker will
do from here. -/
def outlook (srv : Server σ) (deadlines : Deadlines) (ws : List (Worker σ)) (t : List Event) :
    List (String × Solo σ) :=
  ws.map fun w => (w.addr, (w.finish srv deadlines).after (eventsAt w.addr t))

/-- No turn of any worker changes what the adapters come to. -/
theorem outlook_act {ws : List (Worker σ)} (hn : (ws.map (·.addr)).Nodup) (addr : String)
    (t : List Event) :
    outlook srv deadlines (act srv deadlines addr ws).1 (t ++ (act srv deadlines addr ws).2) =
      outlook srv deadlines ws t := by
  unfold outlook
  rw [show (act srv deadlines addr ws).1 = ws.map _ from rfl, List.map_map]
  refine List.map_congr_left fun w hw => ?_
  have hat : eventsAt w.addr (act srv deadlines addr ws).2 = _ := eventsAt_act hn addr hw
  rw [Function.comp_apply]
  by_cases h : w.addr = addr
  · rw [if_pos h] at hat
    rw [if_pos h, addr_step, eventsAt_append, hat, ← Solo.after_after, finish_step]
  · rw [if_neg h] at hat
    rw [if_neg h, eventsAt_append, hat, List.append_nil]

/-- Workers that began as `us` are at `ws` now, and `t` is what was seen meanwhile. -/
structure Underway (srv : Server σ) (deadlines : Deadlines) (us ws : List (Worker σ))
    (t : List Event) : Prop where
  outlook_eq : outlook srv deadlines ws t = outlook srv deadlines us []
  sound : ∀ w ∈ ws, w.Sound
  addrs : ∀ e ∈ t, e.addr ∈ us.map (·.addr)

/-- Workers that began as `us` have come to their end, and `t` is what was seen meanwhile. -/
structure Over (srv : Server σ) (deadlines : Deadlines) (us : List (Worker σ))
    (t : List Event) : Prop where
  events : ∀ u ∈ us, eventsAt u.addr t = (u.finish srv deadlines).events
  addrs : ∀ e ∈ t, e.addr ∈ us.map (·.addr)

theorem addrs_outlook (ws : List (Worker σ)) (t : List Event) :
    (outlook srv deadlines ws t).map Prod.fst = ws.map (·.addr) := by
  rw [outlook, List.map_map]
  rfl

theorem Underway.addrs_eq {us ws : List (Worker σ)} {t : List Event}
    (h : Underway srv deadlines us ws t) : ws.map (·.addr) = us.map (·.addr) := by
  rw [← addrs_outlook ws t, h.outlook_eq, addrs_outlook]

theorem underway_refl {us : List (Worker σ)} (h : ∀ u ∈ us, u.Sound) :
    Underway srv deadlines us us [] :=
  ⟨rfl, h, fun _ he => absurd he List.not_mem_nil⟩

theorem Underway.act {us ws : List (Worker σ)} {t : List Event}
    (h : Underway srv deadlines us ws t) (hn : (us.map (·.addr)).Nodup) (addr : String) :
    Underway srv deadlines us (act srv deadlines addr ws).1
      (t ++ (Scheduler.act srv deadlines addr ws).2) where
  outlook_eq := by
    rw [outlook_act (h.addrs_eq ▸ hn), h.outlook_eq]
  sound := by
    intro v hv
    obtain ⟨w, hw, rfl⟩ := List.mem_map.1 hv
    split
    · exact sound_step (h.sound w hw)
    · exact h.sound w hw
  addrs := by
    intro e he
    rcases List.mem_append.1 he with he | he
    · exact h.addrs e he
    · obtain ⟨ha, hm⟩ := addr_of_mem_act he
      rw [ha, ← h.addrs_eq]
      exact hm

/-- When the workers of a stage are done, each has come to what it comes to alone. -/
theorem Underway.over {us ws : List (Worker σ)} {t : List Event}
    (h : Underway srv deadlines us ws t) (hd : ∀ w ∈ ws, w.left = []) :
    ws = us.map (·.conclude srv deadlines) ∧ Over srv deadlines us t := by
  have hl : ws.map (fun w => (w.addr, (⟨w.state, w.succeeded, eventsAt w.addr t⟩ : Solo σ))) =
      us.map fun u => (u.addr, u.finish srv deadlines) := by
    refine Eq.trans (List.map_congr_left fun w hw => ?_) h.outlook_eq
    rw [finish_of_idle (h.sound w hw) (hd w hw), Solo.after, List.append_nil]
  refine ⟨?_, ?_, h.addrs⟩
  · have hc := congrArg (List.map fun (p : String × Solo σ) =>
      ({ addr := p.1, state := p.2.state, succeeded := p.2.succeeded } : Worker σ)) hl
    rw [List.map_map, List.map_map] at hc
    refine Eq.trans ?_ hc
    refine (List.map_id ws).symm.trans (List.map_congr_left fun w hw => ?_)
    obtain ⟨addr, s, left, calling, n⟩ := w
    have hleft : left = [] := hd _ hw
    have hcalling : calling = false := h.sound _ hw hleft
    rw [hleft, hcalling]
    rfl
  · intro u hu
    have hm : (u.addr, u.finish srv deadlines) ∈ us.map fun u => (u.addr, u.finish srv deadlines) :=
      List.mem_map_of_mem hu
    rw [← hl] at hm
    obtain ⟨w, -, hw⟩ := List.mem_map.1 hm
    obtain ⟨ha, ho⟩ := Prod.mk.inj hw
    rw [← ho, ← ha]

end LogEgress.Scheduler
