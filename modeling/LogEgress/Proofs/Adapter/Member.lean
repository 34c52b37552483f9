import LogEgress.Proofs.Adapter.Turn
import LogEgress.Proofs.Ingress.Upkeep

set_option autoImplicit false

/-! # A subscription among others

A member of a crowd is a pump that shares a pool with others. It looks for a client, learns what
fits its phase, or does the next thing it has to do. `does_turn` lists what may come of such a turn,
for the member and for the pool, and what is recorded of it.
-/

namespace LogEgress.Adapter

open Pump (Phase Event Action)
open Ingress.Pool (Session)

/-- What is fixed for subscriptions that share a pool. -/
structure Setting where
  binding : Nat → Binding
  dial : Ingress.Dialer
  rules : Ingress.Pool.Rules := {}
  /-- The pause after a stream that could not be opened. -/
  reopenWait : Nat := 100

/-- A pump, whether it was told to end, and what it has still to do. -/
structure Member where
  phase : Phase := .idle
  told : Bool := false
  /-- When the wait is over. -/
  wakes : Nat := 0
  todo : List Action := []

/-- What is recorded of a member. -/
inductive Deed where
  /-- The pool gave it a client. -/
  | chosen (client : Nat)
  /-- It opened a stream, or tried to. -/
  | opened (client : Nat)
  /-- The stream could not be opened. -/
  | refused (client : Nat)
  /-- Receiving from the stream failed. -/
  | broke (client : Nat)
  deriving DecidableEq

namespace Deed

/-- What is recorded when something is learned. -/
@[simp]
def ofEvent? : Phase → Event → Option Deed
  | .opening c, .opened (.error _) => some (.refused c)
  | .receiving c, .received (.error _) => some (.broke c)
  | _, _ => none

/-- The client that the pool gave. -/
@[simp]
def chosen? : Deed → Option Nat
  | .chosen c => some c
  | _ => none

/-- The client whose stream failed. -/
@[simp]
def broke? : Deed → Option Nat
  | .broke c => some c
  | _ => none

/-- Whether a stream was opened. -/
@[simp]
def isOpened : Deed → Bool
  | .opened _ => true
  | _ => false

/-- Whether a stream could not be opened. -/
@[simp]
def isRefused : Deed → Bool
  | .refused _ => true
  | _ => false

end Deed

/-- What a member does, or what happens to it. -/
inductive Happening where
  /-- It is told to end. -/
  | tell
  /-- It looks for a client. -/
  | look
  | learn (event : Event)
  /-- It does the next thing it has to do. -/
  | act

/-- What comes of it, for the member, for the pool, and on record. -/
structure Effect where
  member : Member
  moves : List Session.Move := []
  deed : Option Deed := none

namespace Member

/-- A member that has learned something. -/
def learn (b : Binding) (event : Event) (m : Member) : Member :=
  { m with phase := (Pump.step b m.phase event).1, todo := (Pump.step b m.phase event).2 }

/-- Whether it is time to learn something. A client is found by looks, and a pause has an end. -/
def ready (now : Nat) (m : Member) : Event → Bool
  | .chosen _ => false
  | .rested => decide (m.wakes ≤ now)
  | _ => true

/-- Looks at the next slot. If there is no client that is of use, the next look is after a wait. -/
def look (S : Setting) (b : Binding) (p : Session) (m : Member) : Effect :=
  match p.pool.look.1 with
  | some c => { member := m.learn b (.chosen c), moves := [.look], deed := some (.chosen c) }
  | none => { member := { m with wakes := p.now + S.rules.retryWait }, moves := [.look] }

/-- Does the next thing that is to be done. -/
def act (S : Setting) (p : Session) (m : Member) : Effect :=
  match m.todo with
  | [] => { member := m }
  | .choose :: rest => { member := { m with todo := rest, wakes := p.now } }
  | .openStream c _ :: rest => { member := { m with todo := rest }, deed := some (.opened c) }
  | .rest :: rest => { member := { m with todo := rest, wakes := p.now + S.reopenWait } }
  | .invalidate c :: rest => { member := { m with todo := rest }, moves := [.invalidate c] }
  | _ :: rest => { member := { m with todo := rest } }

/-- A turn of a member. It looks and learns only when nothing is left to be done. -/
def turn (S : Setting) (b : Binding) (p : Session) (m : Member) : Happening → Effect
  | .tell => { member := { m with told := true } }
  | .look =>
    if m.phase = .choosing ∧ m.todo = [] ∧ m.wakes ≤ p.now then m.look S b p else { member := m }
  | .learn event =>
    if m.todo = [] ∧ Pump.fits m.told m.phase event = true ∧ m.ready p.now event = true then
      { member := m.learn b event, deed := Deed.ofEvent? m.phase event }
    else { member := m }
  | .act => m.act S p

/-- The outcomes of turns. -/
inductive Does (S : Setting) (b : Binding) (p : Session) (m : Member) : Effect → Prop
  | nothing : Does S b p m { member := m }
  | told : Does S b p m { member := { m with told := true } }
  | inVain : m.phase = .choosing → m.todo = [] → p.pool.look.1 = none →
      Does S b p m { member := { m with wakes := p.now + S.rules.retryWait }, moves := [.look] }
  | chose (c : Nat) : m.phase = .choosing → m.todo = [] → p.pool.look.1 = some c →
      Does S b p m {
        member := { m with phase := .opening c, todo := [.openStream c (Pump.requestOf b)] }
        moves := [.look]
        deed := some (.chosen c) }
  | learned {event : Event} {next : Phase} {actions : List Action} : m.todo = [] →
      Pump.Turn b m.told m.phase event next actions → m.ready p.now event = true →
      Does S b p m {
        member := { m with phase := next, todo := actions }
        deed := Deed.ofEvent? m.phase event }
  | opened (c : Nat) (r : Pump.Request) (rest : List Action) : m.todo = .openStream c r :: rest →
      Does S b p m { member := { m with todo := rest }, deed := some (.opened c) }
  | paused (rest : List Action) : m.todo = .rest :: rest →
      Does S b p m { member := { m with todo := rest, wakes := p.now + S.reopenWait } }
  | invalidated (c : Nat) (rest : List Action) : m.todo = .invalidate c :: rest →
      Does S b p m { member := { m with todo := rest }, moves := [.invalidate c] }
  | other (wakes : Nat) (a : Action) (rest : List Action) : m.todo = a :: rest → a ≠ .rest →
      (∀ c r, a ≠ .openStream c r) → (∀ c, a ≠ .invalidate c) →
      Does S b p m { member := { m with todo := rest, wakes } }

/-- **What a turn comes to is one of these outcomes.** -/
theorem does_turn (S : Setting) (b : Binding) (p : Session) (m : Member) (h : Happening) :
    Does S b p m (m.turn S b p h) := by
  cases h with
  | tell => exact .told
  | look =>
    rw [turn]
    split
    · next hLook =>
      obtain ⟨hChoosing, hTodo, -⟩ := hLook
      rw [look]
      split
      · next c hFound =>
        rw [learn, hChoosing]
        exact .chose c hChoosing hTodo hFound
      · next hNone => exact .inVain hChoosing hTodo hNone
    · exact .nothing
  | learn event =>
    rw [turn]
    split
    · next hLearn =>
      obtain ⟨hTodo, hFits, hReady⟩ := hLearn
      exact .learned hTodo (Pump.turn_of_fits b hFits) hReady
    · exact .nothing
  | act =>
    rw [turn, act]
    split
    · exact .nothing
    · next rest hTodo => exact .other _ .choose rest hTodo nofun nofun nofun
    · next c r rest hTodo => exact .opened c r rest hTodo
    · next rest hTodo => exact .paused rest hTodo
    · next c rest hTodo => exact .invalidated c rest hTodo
    · next a rest hNotChoose hNotOpen hNotRest hNotInvalidate hTodo =>
      exact .other m.wakes a rest hTodo hNotRest hNotOpen hNotInvalidate

/-- Whether a stream is being opened, or received from. -/
def Holds (c : Nat) (m : Member) : Prop := m.phase = .opening c ∨ m.phase = .receiving c

/-- Whether a stream is to be opened. -/
@[simp]
def opensStream : Action → Bool
  | .openStream .. => true
  | _ => false

/-- How many streams may be asked for in a phase before one fails. -/
def prospect (told : Bool) : Phase → Nat
  | .idle => if told then 0 else 1
  | .pausing => if told then 0 else 1
  | .connecting => 1
  | .choosing => 1
  | _ => 0

/-- How many streams a member may open before one fails. -/
def prospects (m : Member) : Nat := m.todo.countP opensStream + prospect m.told m.phase

/-- Who was told to end goes on only if it waits for a writer or for a client, or is about to open
a stream. -/
theorem prospects_eq_zero {m : Member} (hTold : m.told = true) (hConnecting : m.phase ≠ .connecting)
    (hChoosing : m.phase ≠ .choosing) (hTodo : ∀ c r, .openStream c r ∉ m.todo) :
    m.prospects = 0 := by
  have hNone : m.todo.countP opensStream = 0 := by
    rw [List.countP_eq_zero]
    intro a ha
    cases a with
    | openStream c r => exact absurd ha (hTodo c r)
    | _ => exact Bool.false_ne_true
  rw [prospects, hNone, hTold]
  cases hPhase : m.phase with
  | connecting => exact absurd hPhase hConnecting
  | choosing => exact absurd hPhase hChoosing
  | _ => rfl

/-- After a stream could not be opened at a time, the pause is over, is about to begin, has begun,
or was cut so that no stream is opened any more. -/
inductive Rests (wait time now : Nat) (m : Member) : Prop
  | past : time + wait ≤ now → Rests wait time now m
  | due : m.phase = .pausing → m.todo = [.rest] → Rests wait time now m
  | begun : m.phase = .pausing → m.todo = [] → time + wait ≤ m.wakes → Rests wait time now m
  | cut : m.told = true → m.phase = .idle ∨ m.phase = .ended → (∀ c r, .openStream c r ∉ m.todo) →
      Rests wait time now m

theorem Holds.unique {m : Member} {c d : Nat} (hc : m.Holds c) (hd : m.Holds d) : c = d := by
  obtain hc | hc := hc <;> obtain hd | hd := hd <;> simp_all

section Does

variable {S : Setting} {b : Binding} {p : Session} {m : Member} {o : Effect}

/-- A client is given from a slot, and is of use then. -/
theorem Does.chosen (h : Does S b p m o) {c : Nat} (hDeed : o.deed = some (.chosen c)) :
    0 < p.pool.slotsWith c ∧ p.pool.isValid c = true ∧ m.todo = [] ∧ ∀ d, ¬ m.Holds d := by
  cases h with
  | chose client hChoosing hTodo hFound =>
    obtain rfl : client = c := by simpa using hDeed
    obtain ⟨hSlot, hValid⟩ := Ingress.Pool.of_look hFound
    exact ⟨hSlot, hValid, hTodo, fun d => by simp [Holds, hChoosing]⟩
  | learned hTodo hTurn hReady =>
    unfold Deed.ofEvent? at hDeed
    split at hDeed <;> cases hDeed
  | _ => cases hDeed

/-- A stream that fails is one that was received from, and its client is marked next. -/
theorem Does.broke (h : Does S b p m o) {c : Nat} (hDeed : o.deed = some (.broke c)) :
    m.Holds c ∧ m.todo = [] ∧ (∀ d, ¬ o.member.Holds d) ∧ .invalidate c ∈ o.member.todo := by
  cases h with
  | learned hTodo hTurn hReady =>
    generalize hPhase : m.phase = phase at hTurn hDeed
    cases hTurn with
    | broken client e =>
      obtain rfl : client = c := by simpa [Deed.ofEvent?] using hDeed
      exact ⟨.inr hPhase, hTodo, fun d => by simp [Holds], List.mem_cons_self ..⟩
    | _ => simp at hDeed
  | _ => cases hDeed

/-- A member has no other client than the one that it was given last. -/
theorem Does.holds (h : Does S b p m o) {c : Nat} (hHolds : o.member.Holds c) :
    m.Holds c ∨ o.deed = some (.chosen c) := by
  cases h with
  | chose client hChoosing hTodo hFound =>
    obtain rfl : client = c := by simpa [Holds] using hHolds
    exact .inr rfl
  | learned hTodo hTurn hReady =>
    left
    unfold Holds at hHolds ⊢
    generalize m.phase = phase at hTurn ⊢
    cases hTurn with
    | chosen client => cases hReady
    | opened client => exact .inl (by simpa using hHolds)
    | logLine client e => exact hHolds
    | other client e => exact hHolds
    | _ => simp at hHolds
  | _ => exact .inl hHolds

/-- What is to be marked stays so until it is marked. -/
theorem Does.marked (h : Does S b p m o) {c : Nat} (hTodo : .invalidate c ∈ m.todo) :
    .invalidate c ∈ o.member.todo ∨ .invalidate c ∈ o.moves := by
  cases h with
  | nothing => exact .inl hTodo
  | told => exact .inl hTodo
  | inVain _ hNone => exact .inl hTodo
  | chose _ _ hNone => simp [hNone] at hTodo
  | learned hNone => simp [hNone] at hTodo
  | opened _ _ rest hCons => simp_all
  | paused rest hCons => simp_all
  | invalidated client rest hCons =>
    rw [hCons, List.mem_cons] at hTodo
    exact hTodo.symm.imp id fun hSame => by simp_all
  | other _ a rest hCons _ _ hNot =>
    rw [hCons, List.mem_cons] at hTodo
    exact .inl (hTodo.resolve_left fun hSame => hNot c hSame.symm)

/-- A stream is opened where there was a prospect, which comes back after a failure unless the
member was told to end. -/
theorem Does.prospects_le (h : Does S b p m o) :
    o.deed.toList.countP Deed.isOpened + o.member.prospects ≤ m.prospects +
      if m.told then 0
      else o.deed.toList.countP Deed.isRefused + (o.deed.toList.filterMap Deed.broke?).length := by
  cases h with
  | nothing => simp
  | told => cases hPhase : m.phase <;> simp [prospects, prospect, hPhase]
  | inVain => simp [prospects]
  | chose c hChoosing hTodo => simp [prospects, prospect, hChoosing, hTodo]
  | learned hTodo hTurn hReady =>
    generalize hPhase : m.phase = phase at hTurn
    cases hTurn with
    | chosen c => cases hReady
    | cut hTold => cases phase <;> simp [prospects, prospect, hPhase, hTold]
    | _ => cases hTold : m.told <;> simp_all [prospects, prospect]
  | opened c r rest hCons =>
    simp [prospects, hCons, List.countP_cons]
    omega
  | paused rest hCons => simp [prospects, hCons]
  | invalidated c rest hCons => simp [prospects, hCons]
  | other wakes a rest hCons => simp [prospects, hCons]

theorem prospect_le_one (told : Bool) (phase : Phase) : prospect told phase ≤ 1 := by
  cases phase <;> cases told <;> simp [prospect]

theorem Does.prospects_le_one (h : Does S b p m o) (hOne : m.prospects ≤ 1) :
    o.member.prospects ≤ 1 := by
  cases h with
  | nothing => exact hOne
  | told =>
    refine Nat.le_trans ?_ hOne
    cases hPhase : m.phase <;> simp [prospects, prospect, hPhase]
  | inVain => exact hOne
  | chose => simp [prospects, prospect]
  | learned hTodo hTurn hReady =>
    -- A stream is to be opened only when a client was given.
    generalize m.phase = phase at hTurn
    cases hTurn with
    | chosen c => cases hReady
    | _ => simpa [prospects] using prospect_le_one ..
  | opened _ _ rest hCons | paused rest hCons | invalidated _ rest hCons | other _ _ rest hCons =>
    rw [prospects, hCons, List.countP_cons] at hOne
    show rest.countP opensStream + prospect m.told m.phase ≤ 1
    omega

theorem Does.told_of_told (h : Does S b p m o) (hTold : m.told = true) : o.member.told = true := by
  cases h <;> first | exact hTold | rfl

theorem Rests.mono {wait time now later : Nat} (h : Rests wait time now m) (hNow : now ≤ later) :
    Rests wait time later m := by
  cases h with
  | past hPast => exact .past (Nat.le_trans hPast hNow)
  | due hPhase hTodo => exact .due hPhase hTodo
  | begun hPhase hTodo hWakes => exact .begun hPhase hTodo hWakes
  | cut hTold hPhase hTodo => exact .cut hTold hPhase hTodo

theorem Does.rests_of_refused (h : Does S b p m o) {c : Nat} (hDeed : o.deed = some (.refused c)) :
    Rests S.reopenWait p.now p.now o.member := by
  cases h with
  | learned hTodo hTurn hReady =>
    generalize m.phase = phase at hTurn hDeed
    cases hTurn with
    | unopened client e => exact .due rfl rfl
    | _ => simp at hDeed
  | _ => cases hDeed

/-- A stream is opened, or cannot be opened again, only after the pause. -/
theorem Does.rests (h : Does S b p m o) {time : Nat} (hTime : time ≤ p.now)
    (hRests : Rests S.reopenWait time p.now m) :
    Rests S.reopenWait time p.now o.member ∧
      ∀ d ∈ o.deed, d.isOpened = true ∨ d.isRefused = true → time + S.reopenWait ≤ p.now := by
  cases hRests with
  | past hPast => exact ⟨.past hPast, fun _ _ _ => hPast⟩
  | due hPhase hTodo =>
    cases h with
    | nothing => exact ⟨.due hPhase hTodo, nofun⟩
    | told => exact ⟨.due hPhase hTodo, nofun⟩
    | paused rest hTodo' =>
      obtain ⟨-, rfl⟩ : Action.rest = .rest ∧ [] = rest := by simpa [hTodo] using hTodo'
      exact ⟨.begun hPhase rfl (Nat.add_le_add_right hTime _), nofun⟩
    | _ => simp_all
  | begun hPhase hTodo hWakes =>
    cases h with
    | nothing => exact ⟨.begun hPhase hTodo hWakes, nofun⟩
    | told => exact ⟨.begun hPhase hTodo hWakes, nofun⟩
    | learned _ hTurn hReady =>
      rw [hPhase] at hTurn ⊢
      cases hTurn with
      | rested => exact ⟨.past (Nat.le_trans hWakes (of_decide_eq_true hReady)), nofun⟩
      | cut hTold => exact ⟨.cut hTold (.inl rfl) (by simp), nofun⟩
    | _ => simp_all
  | cut hTold hPhase hTodo =>
    have hRest : ∀ {a rest}, m.todo = a :: rest → ∀ c r, .openStream c r ∉ rest :=
      fun hCons c r hIn => hTodo c r (hCons ▸ List.mem_cons_of_mem _ hIn)
    cases h with
    | nothing => exact ⟨.cut hTold hPhase hTodo, nofun⟩
    | told => exact ⟨.cut rfl hPhase hTodo, nofun⟩
    | inVain hChoosing => simp_all
    | chose c hChoosing => simp_all
    | learned _ hTurn =>
      obtain hIdle | hEnded := hPhase
      · rw [hIdle] at hTurn ⊢
        cases hTurn with
        | finished => exact ⟨.cut hTold (.inr rfl) nofun, nofun⟩
        | begun hNot => simp_all
        | cut _ hWriter => cases hWriter
      · rw [hEnded] at hTurn
        cases hTurn with
        | cut _ hWriter => cases hWriter
    | opened c r rest hCons => exact absurd (hCons ▸ List.mem_cons_self ..) (hTodo c r)
    | paused rest hCons => exact ⟨.cut hTold hPhase (hRest hCons), nofun⟩
    | invalidated c rest hCons => exact ⟨.cut hTold hPhase (hRest hCons), nofun⟩
    | other wakes a rest hCons => exact ⟨.cut hTold hPhase (hRest hCons), nofun⟩

end Does

end Member

end LogEgress.Adapter
