import LogEgress.Shutdown
import Mathlib.Data.List.Induction
import Mathlib.Data.List.Infix

set_option autoImplicit false

/-! # Waiting for the last guard

Releasing a guard takes two steps: the count of writers goes down, and if it came to zero whoever
waits is told. Waiting takes three: the wait registers with the notifier, it reads the count, and
from then on it looks whether it was told, or whether its time is over. Other guards are taken
meanwhile, and time goes on. The steps of all of them come in any order (`Vigil.run`).

What is true after any step is in `Vigil.Sound`. So a wait that sleeps on a count of zero is about
to be told (`Sound.awake`), and one that was told never comes back empty-handed (`Sound.not_late`).
-/

namespace LogEgress.Shutdown

/-- How far the release of a guard has come. -/
inductive Hold where
  | held
  /-- It counts no longer, and it was the last that did: whoever waits is still to be told. -/
  | telling
  | gone
  deriving DecidableEq, Repr

/-- What a wait does next. -/
inductive Stage where
  | idle
  /-- It will be told from now on, and reads the count next. -/
  | registered
  | waiting (deadline : Nat)
  /-- It has returned at a time, at which the count was this. -/
  | returned (flushed : Bool) (time : Nat) (count : Int)
  deriving DecidableEq, Repr

/-- A controller between two steps of those who hold its guards and of one who waits. All clones of
a controller share its count and its notifier. -/
structure Vigil where
  /-- The count of writers. Nothing in its type keeps it from falling below zero. -/
  count : Int
  /-- The guards in the order in which they were taken. -/
  holds : List Hold
  now : Nat := 0
  stage : Stage := .idle
  /-- The count that the wait has read, and when. -/
  seen : Option (Int × Nat) := none
  /-- When the wait was told for the first time since it registered. -/
  told : Option Nat := none
  /-- Whether some release has brought the count to zero. -/
  emptied : Bool := false
  deriving DecidableEq, Repr

namespace Vigil

/-- A controller for which nobody waits yet. -/
def ofController (c : Controller) : Vigil where
  count := c.flushing
  holds := c.guards.map fun b => if b then .held else .gone

/-- Whether the wait is told when somebody tells. -/
def isListening (v : Vigil) : Bool :=
  match v.stage with
  | .registered => true
  | .waiting _ => true
  | _ => false

/-! ## Steps -/

/-- A guard is taken. -/
def take (v : Vigil) : Vigil := { v with count := v.count + 1, holds := v.holds ++ [.held] }

/-- The count goes down for a guard that is released. -/
def leave (g : Nat) (v : Vigil) : Vigil :=
  if v.holds[g]? = some .held then
    { v with
      count := v.count - 1
      holds := v.holds.set g (if v.count = 1 then .telling else .gone)
      emptied := v.emptied || v.count = 1 }
  else v

/-- The release of the last guard tells whoever waits. -/
def tell (g : Nat) (v : Vigil) : Vigil :=
  if v.holds[g]? = some .telling then
    { v with
      holds := v.holds.set g .gone
      told := if v.isListening then some (v.told.getD v.now) else v.told }
  else v

/-- The wait begins. -/
def register (v : Vigil) : Vigil := if v.stage = .idle then { v with stage := .registered } else v

/-- The wait reads the count, and sleeps from now on if it is not zero. -/
def read (timeout : Nat) (v : Vigil) : Vigil :=
  if v.stage = .registered then
    { v with
      seen := some (v.count, v.now)
      stage := if v.count = 0 then .returned true v.now v.count else .waiting (v.now + timeout) }
  else v

/-- The wait is awake for a moment. Whoever was told need not know what time it is. -/
def look (v : Vigil) : Vigil :=
  match v.stage with
  | .waiting deadline =>
    if v.told.isSome then { v with stage := .returned true v.now v.count }
    else if deadline ≤ v.now then { v with stage := .returned false v.now v.count }
    else v
  | _ => v

/-- Time goes on. -/
def tick (v : Vigil) : Vigil := { v with now := v.now + 1 }

/-- A step of one of those involved. -/
inductive Move where
  | take
  | leave (guard : Nat)
  | tell (guard : Nat)
  | register
  | read
  | look
  | tick
  deriving DecidableEq, Repr

/-- Takes a step, if it can be taken now. -/
def move (timeout : Nat) (v : Vigil) : Move → Vigil
  | .take => v.take
  | .leave g => v.leave g
  | .tell g => v.tell g
  | .register => v.register
  | .read => v.read timeout
  | .look => v.look
  | .tick => v.tick

/-- Takes steps in some order. -/
def run (timeout : Nat) (v : Vigil) (moves : List Move) : Vigil := moves.foldl (move timeout) v

theorem run_append (timeout : Nat) (v : Vigil) (moves more : List Move) :
    v.run timeout (moves ++ more) = (v.run timeout moves).run timeout more :=
  List.foldl_append

theorem run_append_singleton (timeout : Nat) (v : Vigil) (moves : List Move) (m : Move) :
    v.run timeout (moves ++ [m]) = (v.run timeout moves).move timeout m :=
  List.foldl_concat ..

/-! ## What every step keeps -/

/-- What is true of a controller and a wait between any two steps. -/
structure Sound (timeout : Nat) (v : Vigil) : Prop where
  count_eq : v.count = v.holds.count .held
  /-- Who is still to tell has brought the count to zero. -/
  emptied_of_telling : .telling ∈ v.holds → v.emptied = true
  /-- One who was told is about to return, or has. -/
  told_eq : ∀ u, v.told = some u → v.emptied = true ∧ u ≤ v.now ∧
    (v.isListening = true ∨ ∃ w c, v.stage = .returned true w c)
  /-- A wait does not sleep on a count of zero, unless somebody is about to wake it. -/
  awake : ∀ d, v.stage = .waiting d → v.told = none → v.count = 0 → .telling ∈ v.holds
  /-- A wait that sleeps has read a count above zero. -/
  seen_of_waiting : ∀ d, v.stage = .waiting d →
    ∃ k t, v.seen = some (k, t) ∧ 0 < k ∧ d = t + timeout
  /-- A wait that returned had read zero, or was told, or was not told in time. -/
  seen_of_over : ∀ b w c, v.stage = .returned b w c → ∃ k t, v.seen = some (k, t) ∧
    ((b = true ∧ k = 0 ∧ w = t ∧ c = 0) ∨ (b = true ∧ 0 < k ∧ ∃ u, v.told = some u ∧ u ≤ w) ∨
      (b = false ∧ 0 < k ∧ v.told = none ∧ t + timeout ≤ w))
  /-- Nobody has read before the wait. -/
  unseen : v.stage = .idle ∨ v.stage = .registered → v.seen = none
  untold : v.stage = .idle → v.told = none

/-- The guards of a controller that are held are those that it counts. -/
theorem count_held_ofController (c : Controller) :
    (ofController c).holds.count .held = c.flushing := by
  have hheld : ∀ gs : List Bool,
      (gs.map fun b => if b then Hold.held else .gone).count .held = gs.count true := by
    intro gs
    induction gs with
    | nil => rfl
    | cons b gs ih => cases b <;> simp [ih]
  exact hheld c.guards

theorem sound_ofController (timeout : Nat) (c : Controller) : Sound timeout (ofController c) where
  count_eq := congrArg Nat.cast (count_held_ofController c).symm
  emptied_of_telling := by
    intro h
    obtain ⟨b, -, hb⟩ := List.mem_map.1 h
    cases b <;> cases hb
  told_eq := nofun
  awake := nofun
  seen_of_waiting := nofun
  seen_of_over := nofun
  unseen _ := rfl
  untold _ := rfl

section Step

variable {timeout : Nat} {v : Vigil}

/-- A guard that is held counts. -/
theorem Sound.one_le (h : Sound timeout v) {g : Nat} (hg : v.holds[g]? = some .held) :
    1 ≤ v.count := by
  have hmem : Hold.held ∈ v.holds := List.mem_of_getElem? hg
  have hpos := List.count_pos_iff.2 hmem
  have hcount := h.count_eq
  omega

theorem count_set_of_held {hs : List Hold} {g : Nat} (h : hs[g]? = some .held) {new : Hold}
    (hnew : new ≠ .held) : (hs.set g new).count .held + 1 = hs.count .held := by
  obtain ⟨hlt, hget⟩ := List.getElem?_eq_some_iff.1 h
  have hpos : 0 < hs.count .held := List.count_pos_iff.2 (List.mem_of_getElem? h)
  rw [List.count_set hlt]
  simp [hget, hnew]
  omega

theorem count_set_of_telling {hs : List Hold} {g : Nat} (h : hs[g]? = some .telling) :
    (hs.set g .gone).count .held = hs.count .held := by
  obtain ⟨hlt, hget⟩ := List.getElem?_eq_some_iff.1 h
  rw [List.count_set hlt]
  simp [hget]

theorem Sound.take (h : Sound timeout v) : Sound timeout v.take := by
  have hcount := h.count_eq
  exact { h with
    count_eq := by
      simp [Vigil.take]
      omega
    emptied_of_telling := by
      intro hmem
      refine h.emptied_of_telling ?_
      simpa [Vigil.take] using hmem
    awake := by
      intro d _ _ hzero
      have hzero : v.count + 1 = 0 := hzero
      omega }

theorem Sound.leave (h : Sound timeout v) (g : Nat) : Sound timeout (v.leave g) := by
  unfold Vigil.leave
  by_cases hg : v.holds[g]? = some .held
  · rw [if_pos hg]
    have hcount := h.count_eq
    have hlt : g < v.holds.length := (List.getElem?_eq_some_iff.1 hg).1
    exact { h with
      count_eq := by
        have hnew : (if v.count = 1 then Hold.telling else .gone) ≠ .held := by split <;> decide
        have hset := count_set_of_held hg hnew
        simp only
        omega
      emptied_of_telling := by
        intro hmem
        -- Only the release that brings the count to zero leaves somebody to tell.
        rcases List.mem_or_eq_of_mem_set hmem with hold | hnew
        · simp [h.emptied_of_telling hold]
        · by_cases hone : v.count = 1
          · simp [hone]
          · simp [hone] at hnew
      told_eq := by
        intro u hu
        obtain ⟨hemptied, hle, hdone⟩ := h.told_eq u hu
        exact ⟨by simp [hemptied], hle, hdone⟩
      awake := by
        intro d _ _ hzero
        have hone : v.count = 1 := by
          have hzero : v.count - 1 = 0 := hzero
          omega
        simpa [hone] using List.mem_set hlt Hold.telling }
  · rw [if_neg hg]
    exact h

theorem isListening_iff : v.isListening = true ↔
    v.stage = .registered ∨ ∃ d, v.stage = .waiting d := by
  unfold isListening
  cases v.stage <;> simp

/-- What is told to one who does not listen is not heard. -/
theorem tell_of_not_listening (hlisten : v.isListening = false) (g : Nat) :
    (v.tell g).told = v.told := by
  unfold Vigil.tell
  split
  · simp [hlisten]
  · rfl

theorem Sound.tell (h : Sound timeout v) (g : Nat) : Sound timeout (v.tell g) := by
  have hdeaf := tell_of_not_listening (v := v) (g := g)
  unfold Vigil.tell at hdeaf ⊢
  by_cases hg : v.holds[g]? = some .telling
  · rw [if_pos hg] at hdeaf ⊢
    have hemptied := h.emptied_of_telling (List.mem_of_getElem? hg)
    exact { h with
      count_eq := (h.count_eq).trans (by rw [count_set_of_telling hg])
      emptied_of_telling := fun _ => hemptied
      told_eq := by
        intro u hu
        cases hlisten : v.isListening with
        | false => exact h.told_eq u ((hdeaf hlisten).symm.trans hu)
        | true =>
          refine ⟨hemptied, ?_, .inl hlisten⟩
          have hu : v.told.getD v.now = u := by simpa [hlisten] using hu
          cases htold : v.told with
          | none => simp [htold] at hu; simp [hu]
          | some w =>
            obtain rfl : w = u := by simpa [htold] using hu
            exact (h.told_eq w htold).2.1
      awake := by
        -- One that sleeps listens, and was told just now.
        intro d hd htold
        have hlisten : v.isListening = true := isListening_iff.2 (.inr ⟨d, hd⟩)
        simp [hlisten] at htold
      seen_of_over := by
        intro b w c hover
        have hlisten : v.isListening = false := by
          have hover : v.stage = .returned b w c := hover
          simp [isListening, hover]
        rw [hdeaf hlisten]
        exact h.seen_of_over b w c hover
      untold := by
        intro hidle
        have hlisten : v.isListening = false := by
          have hidle : v.stage = .idle := hidle
          simp [isListening, hidle]
        rw [hdeaf hlisten]
        exact h.untold hidle }
  · rw [if_neg hg]
    exact h

theorem Sound.register (h : Sound timeout v) : Sound timeout v.register := by
  unfold Vigil.register
  by_cases hidle : v.stage = .idle
  · rw [if_pos hidle]
    have huntold := h.untold hidle
    exact { h with
      told_eq := fun u hu => by simp [huntold] at hu
      awake := nofun
      seen_of_waiting := nofun
      seen_of_over := nofun
      unseen := fun _ => h.unseen (.inl hidle)
      untold := nofun }
  · rw [if_neg hidle]
    exact h

theorem Sound.read (h : Sound timeout v) : Sound timeout (v.read timeout) := by
  unfold Vigil.read
  by_cases hreg : v.stage = .registered
  · rw [if_pos hreg]
    by_cases hzero : v.count = 0
    · simp only [hzero, if_true]
      exact { h with
        count_eq := hzero ▸ h.count_eq
        told_eq := by
          intro u hu
          obtain ⟨hemptied, hle, -⟩ := h.told_eq u hu
          exact ⟨hemptied, hle, .inr ⟨v.now, 0, rfl⟩⟩
        awake := nofun
        seen_of_waiting := nofun
        seen_of_over := by
          rintro b w c hover
          cases hover
          exact ⟨0, v.now, rfl, .inl ⟨rfl, rfl, rfl, rfl⟩⟩
        unseen := by simp
        untold := nofun }
    · simp only [hzero, if_false]
      have hpos : 0 < v.count := by
        have hcount := h.count_eq
        omega
      exact { h with
        told_eq := by
          intro u hu
          obtain ⟨hemptied, hle, -⟩ := h.told_eq u hu
          exact ⟨hemptied, hle, .inl rfl⟩
        awake := fun d _ _ hnow => absurd hnow hzero
        seen_of_waiting := by
          rintro d hd
          cases hd
          exact ⟨v.count, v.now, rfl, hpos, rfl⟩
        seen_of_over := nofun
        unseen := by simp
        untold := nofun }
  · rw [if_neg hreg]
    exact h

theorem look_of_told {d u : Nat} (hd : v.stage = .waiting d) (htold : v.told = some u) :
    v.look = { v with stage := .returned true v.now v.count } := by
  simp [Vigil.look, hd, htold]

theorem look_of_late {d : Nat} (hd : v.stage = .waiting d) (htold : v.told = none)
    (hlate : d ≤ v.now) : v.look = { v with stage := .returned false v.now v.count } := by
  simp [Vigil.look, hd, htold, hlate]

theorem look_of_early {d : Nat} (hd : v.stage = .waiting d) (htold : v.told = none)
    (hearly : v.now < d) : v.look = v := by
  simp [Vigil.look, hd, htold, Nat.not_le.2 hearly]

theorem look_of_not_waiting (hd : ∀ d, v.stage ≠ .waiting d) : v.look = v := by
  unfold Vigil.look
  split
  · next d hd' => exact absurd hd' (hd d)
  · rfl

/-- A look finds that the wait was told, or that its time is over, or it changes nothing. -/
theorem look_cases (v : Vigil) :
    (∃ d u, v.stage = .waiting d ∧ v.told = some u ∧
      v.look = { v with stage := .returned true v.now v.count }) ∨
    (∃ d, v.stage = .waiting d ∧ v.told = none ∧ d ≤ v.now ∧
      v.look = { v with stage := .returned false v.now v.count }) ∨
    v.look = v := by
  by_cases hwait : ∃ d, v.stage = .waiting d
  · obtain ⟨d, hd⟩ := hwait
    by_cases hnone : v.told = none
    · rcases Nat.lt_or_ge v.now d with hearly | hlate
      · exact .inr (.inr (look_of_early hd hnone hearly))
      · exact .inr (.inl ⟨d, hd, hnone, hlate, look_of_late hd hnone hlate⟩)
    · obtain ⟨u, htold⟩ := Option.ne_none_iff_exists'.1 hnone
      exact .inl ⟨d, u, hd, htold, look_of_told hd htold⟩
  · exact .inr (.inr (look_of_not_waiting fun d hd => hwait ⟨d, hd⟩))

theorem Sound.look (h : Sound timeout v) : Sound timeout v.look := by
  rcases v.look_cases with ⟨d, u, hd, htold, heq⟩ | ⟨d, hd, htold, hlate, heq⟩ | heq
  · obtain ⟨k, t, hseen, hk, -⟩ := h.seen_of_waiting d hd
    rw [heq]
    exact { h with
      told_eq := by
        intro u' hu'
        obtain ⟨hemptied, hle, -⟩ := h.told_eq u' hu'
        exact ⟨hemptied, hle, .inr ⟨v.now, v.count, rfl⟩⟩
      awake := nofun
      seen_of_waiting := nofun
      seen_of_over := by
        rintro b w c hover
        cases hover
        exact ⟨k, t, hseen, .inr (.inl ⟨rfl, hk, u, htold, (h.told_eq u htold).2.1⟩)⟩
      unseen := by simp
      untold := nofun }
  · obtain ⟨k, t, hseen, hk, rfl⟩ := h.seen_of_waiting d hd
    rw [heq]
    exact { h with
      told_eq := fun u hu => nomatch htold.symm.trans hu
      awake := nofun
      seen_of_waiting := nofun
      seen_of_over := by
        rintro b w c hover
        cases hover
        exact ⟨k, t, hseen, .inr (.inr ⟨rfl, hk, htold, hlate⟩)⟩
      unseen := by simp
      untold := nofun }
  · rw [heq]
    exact h

theorem Sound.tick (h : Sound timeout v) : Sound timeout v.tick :=
  { h with
    told_eq := fun u hu => by
      obtain ⟨hemptied, hle, hdone⟩ := h.told_eq u hu
      exact ⟨hemptied, Nat.le_succ_of_le hle, hdone⟩ }

theorem Sound.move (h : Sound timeout v) (m : Move) : Sound timeout (v.move timeout m) := by
  cases m with
  | take => exact h.take
  | leave g => exact h.leave g
  | tell g => exact h.tell g
  | register => exact h.register
  | read => exact h.read
  | look => exact h.look
  | tick => exact h.tick

end Step

/-- What is true at the beginning and kept by each step of a run is true after it. -/
theorem run_induction {P : Vigil → Prop} {timeout : Nat} {c : Controller} {moves : List Move}
    (hstart : P (ofController c))
    (hmove : ∀ front m, front ++ [m] <+: moves → P ((ofController c).run timeout front) →
      P (((ofController c).run timeout front).move timeout m)) :
    P ((ofController c).run timeout moves) := by
  induction moves using List.reverseRecOn with
  | nil => exact hstart
  | append_singleton moves m ih =>
    rw [run_append_singleton]
    refine hmove moves m (List.prefix_refl _) (ih fun front m' hf => ?_)
    exact hmove front m' (hf.trans (List.prefix_append _ _))

theorem sound_run (timeout : Nat) (c : Controller) (moves : List Move) :
    Sound timeout ((ofController c).run timeout moves) :=
  run_induction (sound_ofController timeout c) fun _ m _ h => h.move m

/-! ## Being told -/

section Told

variable {timeout : Nat} {v : Vigil}

/-- Somebody tells of the flush while the wait listens. -/
def Noticed (timeout : Nat) (v : Vigil) (moves : List Move) : Prop :=
  ∃ front g back, moves = front ++ .tell g :: back ∧
    (v.run timeout front).isListening = true ∧ (v.run timeout front).holds[g]? = some .telling

/-- No other step than telling makes the wait told. -/
theorem told_move_of_ne (timeout : Nat) (v : Vigil) {m : Move} (hm : ∀ g, m ≠ .tell g) :
    (v.move timeout m).told = v.told := by
  cases m with
  | tell g => exact absurd rfl (hm g)
  | look =>
    change v.look.told = v.told
    rcases v.look_cases with ⟨_, _, _, _, heq⟩ | ⟨_, _, _, _, heq⟩ | heq <;> rw [heq]
  | leave g => simp only [move, leave]; split <;> rfl
  | register => simp only [move, register]; split <;> rfl
  | read => simp only [move, read]; split <;> rfl
  | take => rfl
  | tick => rfl

theorem told_tell (v : Vigil) (g : Nat) : (v.tell g).told =
    if v.holds[g]? = some .telling ∧ v.isListening = true then some (v.told.getD v.now)
    else v.told := by
  unfold tell
  by_cases hg : v.holds[g]? = some .telling <;> cases hlisten : v.isListening <;> simp [hg]

/-- What counts is when the wait was told for the first time. -/
theorem told_move_of_some {u : Nat} (m : Move) (h : v.told = some u) :
    (v.move timeout m).told = some u := by
  by_cases hm : ∃ g, m = .tell g
  · obtain ⟨g, rfl⟩ := hm
    change (v.tell g).told = some u
    rw [told_tell, h]
    split <;> rfl
  · rw [told_move_of_ne timeout v fun g hg => hm ⟨g, hg⟩]
    exact h

theorem told_run_of_some {u : Nat} (h : v.told = some u) (moves : List Move) :
    (v.run timeout moves).told = some u := by
  induction moves generalizing v with
  | nil => exact h
  | cons m moves ih => exact ih (told_move_of_some m h)

/-- Who is told while listening was told then, or before. -/
theorem told_run_tell {front back : List Move} {g : Nat}
    (hlisten : (v.run timeout front).isListening = true)
    (hg : (v.run timeout front).holds[g]? = some .telling) :
    (v.run timeout (front ++ .tell g :: back)).told =
      some ((v.run timeout front).told.getD (v.run timeout front).now) := by
  rw [run_append]
  refine told_run_of_some (v := (v.run timeout front).tell g) ?_ back
  rw [told_tell, if_pos ⟨hg, hlisten⟩]

/-- The wait was told just if somebody told while it listened. -/
theorem told_iff_noticed (timeout : Nat) (c : Controller) (moves : List Move) :
    ((ofController c).run timeout moves).told.isSome = true ↔
      Noticed timeout (ofController c) moves := by
  constructor
  · intro h
    -- Whoever was told was so before the last step, or by it.
    induction moves using List.reverseRecOn with
    | nil => cases h
    | append_singleton moves m ih =>
      by_cases hbefore : ((ofController c).run timeout moves).told.isSome = true
      · obtain ⟨front, g, back, rfl, hlisten, hg⟩ := ih hbefore
        exact ⟨front, g, back ++ [m], by simp, hlisten, hg⟩
      · rw [run_append_singleton] at h
        by_cases hm : ∃ g, m = .tell g
        · obtain ⟨g, rfl⟩ := hm
          change (((ofController c).run timeout moves).tell g).told.isSome = true at h
          rw [told_tell] at h
          split at h
          · next hg => exact ⟨moves, g, [], rfl, hg.2, hg.1⟩
          · exact absurd h hbefore
        · rw [told_move_of_ne timeout _ fun g hg => hm ⟨g, hg⟩] at h
          exact absurd h hbefore
  · rintro ⟨front, g, back, rfl, hlisten, hg⟩
    rw [told_run_tell hlisten hg]
    rfl

end Told

/-! ## Runs in which the wait is prompt -/

/-- The wait has nothing to do, or sleeps. -/
def Rests (v : Vigil) : Prop :=
  v.isListening = false ∨ ∃ d, v.stage = .waiting d ∧ v.told = none ∧ v.now < d

/-- Time goes on only while the wait rests. -/
def Prompt (timeout : Nat) (v : Vigil) (moves : List Move) : Prop :=
  ∀ front, front ++ [.tick] <+: moves → (v.run timeout front).Rests

/-- When a prompt wait returns. -/
structure Timely (timeout : Nat) (v : Vigil) : Prop where
  /-- One that was told and has not returned yet was told just now. -/
  told_now : ∀ u, v.told = some u → v.isListening = true → v.now = u
  le_deadline : ∀ d, v.stage = .waiting d → v.now ≤ d
  /-- One that was told and has returned did so when it was told. -/
  over_of_told : ∀ u w c, v.told = some u → v.stage = .returned true w c → w = u
  /-- One that gave up did so at its deadline. -/
  deadline_of_over : ∀ w c, v.stage = .returned false w c → ∀ k t, v.seen = some (k, t) →
    w = t + timeout

section Prompt

variable {timeout : Nat} {v : Vigil}

theorem timely_ofController (timeout : Nat) (c : Controller) :
    Timely timeout (ofController c) where
  told_now := nofun
  le_deadline := nofun
  over_of_told := nofun
  deadline_of_over := nofun

theorem Timely.tell (h : Timely timeout v) (g : Nat) : Timely timeout (v.tell g) := by
  have hstage : (v.tell g).stage = v.stage ∧ (v.tell g).now = v.now ∧ (v.tell g).seen = v.seen := by
    unfold Vigil.tell
    split <;> exact ⟨rfl, rfl, rfl⟩
  obtain ⟨hstage, hnow, hseen⟩ := hstage
  have hlisten : (v.tell g).isListening = v.isListening := by
    unfold isListening
    rw [hstage]
  constructor
  · intro u hu hl
    rw [hlisten] at hl
    rw [hnow]
    rw [told_tell] at hu
    split at hu
    · cases htold : v.told with
      | none => simpa [htold] using hu
      | some w =>
        obtain rfl : w = u := by simpa [htold] using hu
        exact h.told_now w htold hl
    · exact h.told_now u hu hl
  · rw [hstage, hnow]
    exact h.le_deadline
  · intro u w c hu hover
    rw [hstage] at hover
    have hdeaf : v.isListening = false := by simp [isListening, hover]
    rw [tell_of_not_listening hdeaf] at hu
    exact h.over_of_told u w c hu hover
  · rw [hstage, hseen]
    exact h.deadline_of_over

theorem Timely.read (h : Timely timeout v) : Timely timeout (v.read timeout) := by
  unfold Vigil.read
  by_cases hreg : v.stage = .registered
  · rw [if_pos hreg]
    have hlisten : v.isListening = true := isListening_iff.2 (.inl hreg)
    by_cases hzero : v.count = 0
    · simp only [hzero, if_true]
      exact { h with
        told_now := nofun
        le_deadline := nofun
        over_of_told := by
          rintro u w c hu hover
          cases hover
          exact h.told_now u hu hlisten
        deadline_of_over := nofun }
    · simp only [hzero, if_false]
      exact { h with
        told_now := fun u hu _ => h.told_now u hu hlisten
        le_deadline := by
          rintro d hd
          cases hd
          exact Nat.le_add_right _ _
        over_of_told := nofun
        deadline_of_over := nofun }
  · rw [if_neg hreg]
    exact h

theorem Timely.look (h : Timely timeout v) (hs : Sound timeout v) : Timely timeout v.look := by
  rcases v.look_cases with ⟨d, u, hd, htold, heq⟩ | ⟨d, hd, htold, hlate, heq⟩ | heq
  · rw [heq]
    have hnow := h.told_now u htold (isListening_iff.2 (.inr ⟨d, hd⟩))
    exact { h with
      told_now := nofun
      le_deadline := nofun
      over_of_told := by
        rintro u' w c hu' hover
        cases hover
        obtain rfl : u = u' := Option.some.inj (htold.symm.trans hu')
        exact hnow
      deadline_of_over := nofun }
  · rw [heq]
    obtain ⟨k, t, hseen, -, rfl⟩ := hs.seen_of_waiting d hd
    have hnow : v.now = t + timeout := Nat.le_antisymm (h.le_deadline _ hd) hlate
    exact { h with
      told_now := nofun
      le_deadline := nofun
      over_of_told := nofun
      deadline_of_over := by
        rintro w c hover k' t' hseen'
        cases hover
        cases hseen.symm.trans hseen'
        exact hnow }
  · rw [heq]
    exact h

theorem Timely.tick (h : Timely timeout v) (hrests : v.Rests) : Timely timeout v.tick := by
  rcases hrests with hdeaf | ⟨d, hd, htold, hlt⟩
  · exact { h with
      told_now := by
        intro u _ hl
        exact absurd (hdeaf.symm.trans hl) Bool.false_ne_true
      le_deadline := by
        intro d hd
        have hlisten := isListening_iff.2 (.inr ⟨d, hd⟩)
        exact absurd (hdeaf.symm.trans hlisten) Bool.false_ne_true }
  · exact { h with
      told_now := fun u hu => nomatch htold.symm.trans hu
      le_deadline := by
        intro d' hd'
        obtain rfl : d = d' := Stage.waiting.inj (hd.symm.trans hd')
        exact hlt }

theorem Timely.move (h : Timely timeout v) (hs : Sound timeout v) {m : Move}
    (hm : m = .tick → v.Rests) : Timely timeout (v.move timeout m) := by
  cases m with
  | take => exact ⟨h.told_now, h.le_deadline, h.over_of_told, h.deadline_of_over⟩
  | leave g =>
    change Timely timeout (v.leave g)
    unfold Vigil.leave
    split
    · exact ⟨h.told_now, h.le_deadline, h.over_of_told, h.deadline_of_over⟩
    · exact h
  | tell g => exact h.tell g
  | register =>
    change Timely timeout v.register
    unfold Vigil.register
    split
    · next hidle => exact ⟨fun u hu => by simp [hs.untold hidle] at hu, nofun, nofun, nofun⟩
    · exact h
  | read => exact h.read
  | look => exact h.look hs
  | tick => exact h.tick (hm rfl)

theorem timely_run {c : Controller} {moves : List Move}
    (h : Prompt timeout (ofController c) moves) :
    Timely timeout ((ofController c).run timeout moves) := by
  refine run_induction (timely_ofController timeout c) fun front m hf hbefore => ?_
  refine hbefore.move (sound_run timeout c front) ?_
  rintro rfl
  exact h front hf

end Prompt

/-! ## Runs in which nobody comes late -/

/-- No guard is taken after the wait has registered, nor after a release has brought the count to
zero. -/
def NoLatecomer (timeout : Nat) (v : Vigil) (moves : List Move) : Prop :=
  ∀ front, front ++ [.take] <+: moves →
    (v.run timeout front).stage = .idle ∧ (v.run timeout front).emptied = false

/-- What is flushed stays flushed. -/
structure Settled (v : Vigil) : Prop where
  count_eq : v.emptied = true → v.count = 0
  count_of_over : ∀ w c, v.stage = .returned true w c → c = 0 ∧ v.count = 0

section Settled

variable {timeout : Nat} {v : Vigil}

theorem Settled.leave (h : Settled v) (hs : Sound timeout v) (g : Nat) : Settled (v.leave g) := by
  unfold Vigil.leave
  by_cases hg : v.holds[g]? = some .held
  · rw [if_pos hg]
    have hpos := hs.one_le hg
    refine ⟨fun he => ?_, fun w c hover => ?_⟩
    · have he : v.emptied = true ∨ v.count = 1 := by simpa using he
      rcases he with he | he
      · have hzero := h.count_eq he
        omega
      · simp [he]
    · have hzero := (h.count_of_over w c hover).2
      omega
  · rw [if_neg hg]
    exact h

theorem Settled.read (h : Settled v) : Settled (v.read timeout) := by
  unfold Vigil.read
  by_cases hreg : v.stage = .registered
  · rw [if_pos hreg]
    by_cases hzero : v.count = 0
    · simp only [hzero, if_true]
      refine ⟨fun _ => rfl, ?_⟩
      rintro w c hover
      cases hover
      exact ⟨rfl, rfl⟩
    · simp only [hzero, if_false]
      exact ⟨h.count_eq, nofun⟩
  · rw [if_neg hreg]
    exact h

theorem Settled.look (h : Settled v) (hs : Sound timeout v) : Settled v.look := by
  rcases v.look_cases with ⟨d, u, hd, htold, heq⟩ | ⟨d, hd, htold, hlate, heq⟩ | heq
  · rw [heq]
    have hzero := h.count_eq (hs.told_eq u htold).1
    refine ⟨fun _ => hzero, ?_⟩
    rintro w c hover
    cases hover
    exact ⟨hzero, hzero⟩
  · rw [heq]
    exact ⟨h.count_eq, nofun⟩
  · rw [heq]
    exact h

theorem Settled.move (h : Settled v) (hs : Sound timeout v) {m : Move}
    (hm : m = .take → v.stage = .idle ∧ v.emptied = false) : Settled (v.move timeout m) := by
  cases m with
  | take =>
    obtain ⟨hidle, hfull⟩ := hm rfl
    refine ⟨fun he => ?_, fun w c hover => ?_⟩
    · exact absurd (hfull.symm.trans he) Bool.false_ne_true
    · exact nomatch hidle.symm.trans hover
  | leave g => exact h.leave hs g
  | tell g =>
    change Settled (v.tell g)
    unfold Vigil.tell
    split
    · exact ⟨h.count_eq, h.count_of_over⟩
    · exact h
  | register =>
    change Settled v.register
    unfold Vigil.register
    split
    · exact ⟨h.count_eq, nofun⟩
    · exact h
  | read => exact h.read
  | look => exact h.look hs
  | tick => exact ⟨h.count_eq, h.count_of_over⟩

theorem settled_run {c : Controller} {moves : List Move}
    (h : NoLatecomer timeout (ofController c) moves) :
    Settled ((ofController c).run timeout moves) := by
  refine run_induction ⟨nofun, nofun⟩ fun front m hf hbefore => ?_
  refine hbefore.move (sound_run timeout c front) ?_
  rintro rfl
  exact h front hf

end Settled

end Vigil

end LogEgress.Shutdown
