import LogEgress.Proofs.Shutdown.Vigil

set_option autoImplicit false

/-! # A wait for the flush

`wait` says how a wait ends whose guards are released at given times. The first half of this file
shows that it speaks of one of the runs of `Vigil`: the one in which the wait is always the first to
move (`run_course`). The second half says what is true in all runs, whatever the order of the steps
is (`Vigil.every_order_lawful`).
-/

namespace LogEgress.Shutdown

/-! ## Which guards are held after which releases -/

section Releases

variable (c : Controller) (releases : List Release)

/-- A guard is held after releases if it was before and none of them is its own. -/
theorem guards_releaseAll (g : Nat) : (releaseAll c releases).guards[g]? =
    (c.guards[g]?).map fun b => b && !(releases.any fun r => r.1 = g) := by
  induction releases generalizing c with
  | nil => simp [releaseAll]
  | cons r releases ih =>
    change (releaseAll (c.release r.1) releases).guards[g]? = _
    rw [ih]
    by_cases hg : r.1 = g
    · subst hg
      cases hget : c.guards[r.1]? with
      | none =>
        have hlen : c.guards.length ≤ r.1 := List.getElem?_eq_none_iff.1 hget
        simp [Controller.release, List.set_eq_of_length_le hlen, hget]
      | some b =>
        obtain ⟨hlt, -⟩ := List.getElem?_eq_some_iff.1 hget
        simp [Controller.release, hlt]
    · simp [Controller.release, List.getElem?_set_ne hg, hg]

theorem releaseBefore_eq (time : Nat) :
    releaseBefore time c releases = releaseAll c (releases.filter (·.2 < time)) := by
  rw [releaseBefore, releaseAll, List.foldl_filter]
  simp

/-- The releases at a time come after those before it. -/
theorem guards_releaseBefore_succ (time : Nat) :
    (releaseBefore (time + 1) c releases).guards =
      (releaseAll (releaseBefore time c releases) (releases.filter (·.2 = time))).guards := by
  apply List.ext_getElem?
  intro g
  rw [releaseBefore_eq, releaseBefore_eq, guards_releaseAll, guards_releaseAll, guards_releaseAll,
    Option.map_map]
  congr 1
  funext b
  have hany : (releases.filter (·.2 < time + 1)).any (·.1 = g) =
      ((releases.filter (·.2 < time)).any (·.1 = g) ||
        (releases.filter (·.2 = time)).any (·.1 = g)) := by
    rw [Bool.eq_iff_iff]
    simp only [List.any_filter, Bool.or_eq_true, List.any_eq_true, Bool.and_eq_true,
      decide_eq_true_eq, ← exists_or, ← and_or_left, ← or_and_right, Nat.lt_succ_iff_lt_or_eq]
  change (b && !_) = ((b && !_) && !_)
  rw [hany, Bool.not_or, Bool.and_assoc]

/-- No writer is flushing if no guard is held. -/
theorem flushing_eq_zero_iff : c.flushing = 0 ↔ ∀ g : Nat, c.guards[g]? ≠ some true := by
  rw [Controller.flushing, List.count_eq_zero]
  constructor
  · intro h g hg
    exact h (List.mem_of_getElem? hg)
  · intro h hmem
    obtain ⟨g, hg⟩ := List.mem_iff_getElem?.1 hmem
    exact h g hg

theorem mem_heldGuards_iff (g : Nat) : g ∈ heldGuards c ↔ c.guards[g]? = some true := by
  simp only [heldGuards, List.mem_map, List.mem_filter, Prod.exists, List.mem_zipIdx_iff_getElem?]
  constructor
  · rintro ⟨b, i, ⟨hget, rfl⟩, rfl⟩
    exact hget
  · intro hget
    exact ⟨true, g, ⟨hget, rfl⟩, rfl⟩

/-- The first release of a guard comes by a time if some release of it does. -/
theorem exists_releaseTime?_iff (g time : Nat) :
    (∃ t, releaseTime? releases g = some t ∧ t ≤ time) ↔
      ∃ r ∈ releases, r.1 = g ∧ r.2 ≤ time := by
  have hmem : ∀ t, t ∈ (releases.filter (·.1 = g)).map (·.2) ↔
      ∃ r ∈ releases, r.1 = g ∧ r.2 = t := by
    intro t
    simp only [List.mem_map, List.mem_filter, decide_eq_true_eq, and_assoc]
  constructor
  · rintro ⟨t, hmin, hle⟩
    obtain ⟨r, hr, hg, rfl⟩ := (hmem t).1 (List.min?_eq_some_iff.1 hmin).1
    exact ⟨r, hr, hg, hle⟩
  · rintro ⟨r, hr, hg, hle⟩
    have hin := (hmem r.2).2 ⟨r, hr, hg, rfl⟩
    obtain ⟨t, hmin⟩ := Option.isSome_iff_exists.1 (List.isSome_min?_of_mem hin)
    exact ⟨t, hmin, Nat.le_trans ((List.min?_eq_some_iff.1 hmin).2 r.2 hin) hle⟩

/-- The largest of the times that are found for a list comes by a time if each of them does. -/
theorem exists_mapM_foldl_max_iff {α : Type} (time? : α → Option Nat) (l : List α)
    (start time : Nat) :
    (∃ ts, l.mapM time? = some ts ∧ ts.foldl max start ≤ time) ↔
      start ≤ time ∧ ∀ x ∈ l, ∃ t, time? x = some t ∧ t ≤ time := by
  induction l generalizing start with
  | nil => simp
  | cons x l ih =>
    rw [List.forall_mem_cons, List.mapM_cons]
    cases hx : time? x with
    | none => simp
    | some t =>
      calc (∃ ts, ((l.mapM time?).bind fun ts => some (t :: ts)) = some ts ∧
            ts.foldl max start ≤ time)
          ↔ ∃ ts, l.mapM time? = some ts ∧ ts.foldl max (max start t) ≤ time := by
            constructor
            · rintro ⟨ts, hts, hle⟩
              obtain ⟨ts', hts', heq⟩ := Option.bind_eq_some_iff.1 hts
              cases heq
              exact ⟨ts', hts', hle⟩
            · rintro ⟨ts, hts, hle⟩
              exact ⟨t :: ts, by simp [hts], hle⟩
        _ ↔ max start t ≤ time ∧ ∀ x ∈ l, ∃ t, time? x = some t ∧ t ≤ time := ih (max start t)
        _ ↔ start ≤ time ∧ (∃ t', some t = some t' ∧ t' ≤ time) ∧
            ∀ x ∈ l, ∃ t, time? x = some t ∧ t ≤ time := by
            simp only [Nat.max_le, and_assoc, Option.some.injEq, exists_eq_left']

/-- The last guard is released before a time if none is held then. -/
theorem exists_flushTime?_iff (time : Nat) :
    (∃ t, flushTime? c releases = some t ∧ t ≤ time) ↔
      (releaseBefore (time + 1) c releases).flushing = 0 := by
  have hflush : (∃ t, flushTime? c releases = some t ∧ t ≤ time) ↔
      ∃ ts, (heldGuards c).mapM (releaseTime? releases) = some ts ∧ ts.foldl max 0 ≤ time := by
    simp only [flushTime?, Option.map_eq_some_iff]
    constructor
    · rintro ⟨t, ⟨ts, hts, rfl⟩, hle⟩
      exact ⟨ts, hts, hle⟩
    · rintro ⟨ts, hts, hle⟩
      exact ⟨_, ⟨ts, hts, rfl⟩, hle⟩
  rw [hflush, exists_mapM_foldl_max_iff, flushing_eq_zero_iff, releaseBefore_eq]
  simp only [Nat.zero_le, true_and, mem_heldGuards_iff, exists_releaseTime?_iff]
  refine forall_congr' fun g => ?_
  rw [guards_releaseAll]
  cases hget : c.guards[g]? with
  | none => simp
  | some b =>
    have hany : ((releases.filter (·.2 < time + 1)).any fun r => r.1 = g) = true ↔
        ∃ r ∈ releases, r.1 = g ∧ r.2 ≤ time := by
      rw [List.any_filter, List.any_eq_true]
      simp only [Bool.and_eq_true, decide_eq_true_eq, Nat.lt_succ_iff, and_comm]
    cases b
    · simp
    · rw [← hany]
      simp

end Releases

namespace Vigil

/-! ## The wait that moves first -/

/-- What happens at a time: the wait looks, guards are released one after the other, and the wait
looks again before time goes on. -/
def moment (releases : List Release) (time : Nat) : List Move :=
  .look :: (releases.filter (·.2 = time)).flatMap (fun r => [.leave r.1, .tell r.1]) ++
    [.look, .tick]

/-- The steps of a wait and of the releases of guards at given times after it began. -/
def course (timeout : Nat) (releases : List Release) : List Move :=
  [.register, .read] ++ (List.range (timeout + 1)).flatMap (moment releases)

/-- The wait sleeps while no guard is being released. -/
structure Asleep (timeout : Nat) (c : Controller) (time : Nat) (v : Vigil) : Prop where
  sound : Sound timeout v
  stage_eq : v.stage = .waiting timeout
  now_eq : v.now = time
  holds_eq : v.holds = (ofController c).holds
  told_eq : v.told = if c.flushing = 0 then some time else none

section Course

variable {timeout time : Nat} {c : Controller} {v : Vigil}

theorem Asleep.count_eq (h : Asleep timeout c time v) : v.count = c.flushing := by
  rw [h.sound.count_eq, h.holds_eq, count_held_ofController]

theorem Asleep.isListening (h : Asleep timeout c time v) : v.isListening = true :=
  isListening_iff.2 (.inr ⟨timeout, h.stage_eq⟩)

/-- Only guards that are held can be released. -/
theorem leave_tell_of_not_held {g : Nat} (hheld : v.holds[g]? ≠ some .held)
    (htelling : v.holds[g]? ≠ some .telling) : v.run timeout [.leave g, .tell g] = v := by
  change (v.leave g).tell g = v
  rw [leave, if_neg hheld, tell, if_neg htelling]

/-- The release of a guard that is held tells the wait if the guard was the last one. -/
theorem leave_tell_of_held {g : Nat} (hheld : v.holds[g]? = some .held)
    (hlisten : v.isListening = true) : v.run timeout [.leave g, .tell g] = { v with
      count := v.count - 1
      holds := v.holds.set g .gone
      emptied := v.emptied || v.count = 1
      told := if v.count = 1 then some (v.told.getD v.now) else v.told } := by
  obtain ⟨hlt, -⟩ := List.getElem?_eq_some_iff.1 hheld
  change (v.leave g).tell g = _
  rw [leave, if_pos hheld, tell]
  by_cases hone : v.count = 1
  · rw [if_pos (by simp [hone, hlt]), if_pos hone]
    have hlisten' := hlisten
    unfold Vigil.isListening at hlisten'
    simp [Vigil.isListening, hlisten', hone]
  · rw [if_neg (by simp [hone, hlt]), if_neg hone]
    simp [hone]

theorem holds_release (c : Controller) (g : Nat) :
    (ofController (c.release g)).holds = (ofController c).holds.set g .gone := by
  simp [ofController, Controller.release, List.map_set]

/-- A controller has no guard whose release is halfway. -/
theorem holds_ofController_of_not_held {c : Controller} {g : Nat}
    (h : (ofController c).holds[g]? ≠ some .held) :
    (ofController c).holds[g]? = none ∨ (ofController c).holds[g]? = some .gone := by
  have hget : (ofController c).holds[g]? =
      (c.guards[g]?).map fun b => if b then .held else .gone := List.getElem?_map ..
  rw [hget] at h ⊢
  rcases hg : c.guards[g]? with _ | _ | _
  · exact .inl rfl
  · exact .inr rfl
  · rw [hg] at h
    exact absurd rfl h

theorem Asleep.run_release (h : Asleep timeout c time v) (g : Nat) :
    Asleep timeout (c.release g) time (v.run timeout [.leave g, .tell g]) := by
  have hsound : Sound timeout (v.run timeout [.leave g, .tell g]) :=
    (h.sound.move (.leave g)).move (.tell g)
  have hcount := h.count_eq
  have hafter := count_held_ofController (c.release g)
  rw [holds_release, ← h.holds_eq] at hafter
  -- Only the release of a guard that is held does something.
  by_cases hheld : v.holds[g]? = some .held
  · have hset := count_set_of_held hheld (show Hold.gone ≠ .held by decide)
    have hbefore := h.sound.count_eq
    rw [leave_tell_of_held hheld h.isListening] at hsound ⊢
    refine ⟨hsound, h.stage_eq, h.now_eq, ?_, ?_⟩
    · rw [holds_release, ← h.holds_eq]
    · -- The guard is held, so that the wait was not told before.
      have htold := h.told_eq
      rw [if_neg (by omega)] at htold
      change (if v.count = 1 then some (v.told.getD v.now) else v.told) = _
      rw [htold, h.now_eq]
      by_cases hone : v.count = 1
      · rw [if_pos hone, if_pos (by omega)]
        rfl
      · rw [if_neg hone, if_neg (by omega)]
  · have hidle := holds_ofController_of_not_held (h.holds_eq ▸ hheld)
    rw [← h.holds_eq] at hidle
    have hgone : v.holds.set g .gone = v.holds := by
      rcases hidle with hnone | hgone
      · exact List.set_eq_of_length_le (List.getElem?_eq_none_iff.1 hnone)
      · obtain ⟨hlt, hget⟩ := List.getElem?_eq_some_iff.1 hgone
        rw [← hget, List.set_getElem_self]
    have htelling : v.holds[g]? ≠ some .telling := by
      rcases hidle with hnone | hgone
      · simp [hnone]
      · simp [hgone]
    rw [leave_tell_of_not_held hheld htelling] at hsound ⊢
    rw [hgone] at hafter
    refine ⟨hsound, h.stage_eq, h.now_eq, ?_, ?_⟩
    · rw [holds_release, ← h.holds_eq, hgone]
    · have hbefore := h.sound.count_eq
      rw [h.told_eq]
      congr 2
      omega

theorem Asleep.run_releases (h : Asleep timeout c time v) (releases : List Release) :
    Asleep timeout (releaseAll c releases) time
      (v.run timeout (releases.flatMap fun r => [.leave r.1, .tell r.1])) := by
  induction releases generalizing c v with
  | nil => exact h
  | cons r releases ih =>
    rw [List.flatMap_cons, run_append]
    exact ih (h.run_release r.1)

/-- Who has returned does nothing more. -/
theorem stage_move_of_over {b : Bool} {w : Nat} {n : Int} (h : v.stage = .returned b w n)
    (m : Move) : (v.move timeout m).stage = .returned b w n := by
  cases m with
  | take => exact h
  | leave g => simp only [move, leave]; split <;> exact h
  | tell g => simp only [move, tell]; split <;> exact h
  | register => simp [move, register, h]
  | read => simp [move, read, h]
  | look => simp [move, look, h]
  | tick => exact h

theorem stage_run_of_over {b : Bool} {w : Nat} {n : Int} (h : v.stage = .returned b w n)
    (moves : List Move) : (v.run timeout moves).stage = .returned b w n := by
  induction moves generalizing v with
  | nil => exact h
  | cons m moves ih => exact ih (stage_move_of_over h m)

/-- Before its deadline a wait is over just after the last guard is released. -/
theorem Asleep.run_moment {releases : List Release}
    (h : Asleep timeout (releaseBefore time c releases) time v) (hlt : time < timeout)
    (hpos : (releaseBefore time c releases).flushing ≠ 0) :
    if (releaseBefore (time + 1) c releases).flushing = 0 then
      (v.run timeout (moment releases time)).stage = .returned true time 0
    else
      Asleep timeout (releaseBefore (time + 1) c releases) (time + 1)
        (v.run timeout (moment releases time)) := by
  have htold : v.told = none := by rw [h.told_eq, if_neg hpos]
  -- The first look of a moment finds nothing, so that the releases and the second look decide.
  have hlook : v.look = v := look_of_early h.stage_eq htold (h.now_eq ▸ hlt)
  have hall := h.run_releases (releases.filter (·.2 = time))
  set v' := v.run timeout ((releases.filter (·.2 = time)).flatMap
    fun r => [.leave r.1, .tell r.1]) with hv'
  have hrun : v.run timeout (moment releases time) = v'.look.tick := by
    change (v.look).run timeout (_ ++ [.look, .tick]) = _
    rw [hlook, run_append]
    rfl
  have hguards := guards_releaseBefore_succ c releases time
  have hflushing : (releaseBefore (time + 1) c releases).flushing =
      (releaseAll (releaseBefore time c releases) (releases.filter (·.2 = time))).flushing :=
    congrArg (List.count true) hguards
  have htold' := hall.told_eq
  rw [hrun, hflushing]
  split
  · next hzero =>
    rw [if_pos hzero] at htold'
    rw [look_of_told hall.stage_eq htold', hall.count_eq, hzero, hall.now_eq]
    rfl
  · next hsome =>
    rw [if_neg hsome] at htold'
    rw [look_of_early hall.stage_eq htold' (hall.now_eq ▸ hlt)]
    exact {
      sound := hall.sound.tick
      stage_eq := hall.stage_eq
      now_eq := congrArg (· + 1) hall.now_eq
      holds_eq := by
        change v'.holds = _
        rw [hall.holds_eq, ofController, ofController, hguards]
      told_eq := by
        rw [hflushing, if_neg hsome]
        exact htold' }

end Course

section Wait

variable (timeout : Nat) (c : Controller) (releases : List Release)

theorem releaseBefore_zero : releaseBefore 0 c releases = c := by
  simp [releaseBefore_eq, releaseAll]

/-- How a wait begins. -/
theorem run_register_read : (ofController c).run timeout [.register, .read] = { ofController c with
    seen := some (c.flushing, 0)
    stage := if c.flushing = 0 then .returned true 0 0 else .waiting timeout } := by
  by_cases hzero : c.flushing = 0 <;>
    simp [run, move, register, Vigil.read, ofController, hzero]

/-- A wait that reads a count above zero sleeps. -/
theorem asleep_of_flushing (hpos : c.flushing ≠ 0) :
    Asleep timeout c 0 ((ofController c).run timeout [.register, .read]) := by
  have hsound := sound_run timeout c [.register, .read]
  rw [run_register_read, if_neg hpos] at hsound ⊢
  exact ⟨hsound, rfl, rfl, rfl, (if_neg hpos).symm⟩

/-- Until a guard is still to be released, some writer is flushing. -/
theorem flushing_releaseBefore_ne_zero (hpos : c.flushing ≠ 0) {n : Nat}
    (hleft : ∀ t, flushTime? c releases = some t → n ≤ t) :
    (releaseBefore n c releases).flushing ≠ 0 := by
  cases n with
  | zero =>
    rw [releaseBefore_zero]
    exact hpos
  | succ n =>
    intro hzero
    obtain ⟨t, ht, hle⟩ := (exists_flushTime?_iff c releases n).2 hzero
    have hlt := hleft t ht
    omega

/-- A wait that has read a count above zero sleeps until the last guard is released. -/
theorem run_moments (hpos : c.flushing ≠ 0) {n : Nat} (hn : n ≤ timeout) :
    let v := (ofController c).run timeout ([.register, .read] ++
      (List.range n).flatMap (moment releases))
    ((∀ t, flushTime? c releases = some t → n ≤ t) →
      Asleep timeout (releaseBefore n c releases) n v) ∧
    ∀ t, flushTime? c releases = some t → t < n → v.stage = .returned true t 0 := by
  -- The induction is on the moments that are over.
  induction n with
  | zero =>
    refine ⟨fun _ => ?_, nofun⟩
    rw [releaseBefore_zero]
    exact asleep_of_flushing timeout c hpos
  | succ n ih =>
    obtain ⟨hasleep, hover⟩ := ih (by omega)
    simp only [List.range_succ, List.flatMap_append, List.flatMap_singleton, ← List.append_assoc]
    rw [run_append]
    by_cases hleft : ∀ t, flushTime? c releases = some t → n ≤ t
    · have hmoment := (hasleep hleft).run_moment (by omega)
        (flushing_releaseBefore_ne_zero c releases hpos hleft)
      have htime := exists_flushTime?_iff c releases n
      split at hmoment
      · next hzero =>
        -- The last guard is released at this time.
        obtain ⟨t, ht, hle⟩ := htime.2 hzero
        obtain rfl : t = n := Nat.le_antisymm hle (hleft t ht)
        refine ⟨fun hlater => ?_, fun t' ht' _ => ?_⟩
        · have hlt := hlater t ht
          omega
        · obtain rfl : t = t' := Option.some.inj (ht.symm.trans ht')
          exact hmoment
      · next hsome =>
        refine ⟨fun _ => hmoment, fun t ht hlt => ?_⟩
        exact absurd (htime.1 ⟨t, ht, Nat.lt_succ_iff.1 hlt⟩) hsome
    · simp only [not_forall, Nat.not_le] at hleft
      obtain ⟨t, ht, hlt⟩ := hleft
      refine ⟨fun hlater => ?_, fun t' ht' _ => ?_⟩
      · have hle := hlater t ht
        omega
      · obtain rfl : t = t' := Option.some.inj (ht.symm.trans ht')
        exact stage_run_of_over (hover t ht hlt) _

theorem wait_eq_early {t : Nat} (hpos : c.flushing ≠ 0) (ht : flushTime? c releases = some t)
    (hlt : t < timeout) : wait c timeout releases = ⟨true, t, 0, []⟩ := by
  simp [wait, hpos, ht, hlt]

theorem wait_late (hpos : c.flushing ≠ 0)
    (hlate : ∀ t, flushTime? c releases = some t → timeout ≤ t) :
    (wait c timeout releases).flushed = false ∧ (wait c timeout releases).elapsed = timeout ∧
      (wait c timeout releases).flushing = (releaseBefore timeout c releases).flushing := by
  cases hflush : flushTime? c releases with
  | none => simp [wait, hpos, hflush]
  | some t => simp [wait, hpos, hflush, Nat.not_lt.2 (hlate t hflush)]

/-- `wait` tells how this run of its steps ends. -/
theorem run_course : ((ofController c).run timeout (course timeout releases)).stage =
    .returned (wait c timeout releases).flushed (wait c timeout releases).elapsed
      (wait c timeout releases).flushing := by
  by_cases hpos : c.flushing = 0
  · have hread : ((ofController c).run timeout [.register, .read]).stage = .returned true 0 0 := by
      rw [run_register_read, if_pos hpos]
    rw [course, run_append, stage_run_of_over hread]
    simp [wait, hpos]
  · obtain ⟨hasleep, hover⟩ := run_moments timeout c releases hpos (Nat.le_refl timeout)
    rw [course, List.range_succ, List.flatMap_append, ← List.append_assoc, run_append]
    by_cases hlate : ∀ t, flushTime? c releases = some t → timeout ≤ t
    · have h := hasleep hlate
      have htold := h.told_eq
      rw [if_neg (flushing_releaseBefore_ne_zero c releases hpos hlate)] at htold
      obtain ⟨hflushed, helapsed, hflushing⟩ := wait_late timeout c releases hpos hlate
      rw [hflushed, helapsed, hflushing, List.flatMap_singleton]
      -- The wait looks first, and finds that its time is over.
      refine stage_run_of_over (v := Vigil.look _) ?_ _
      rw [look_of_late h.stage_eq htold (Nat.le_of_eq h.now_eq.symm), h.now_eq, h.count_eq]
    · simp only [not_forall, Nat.not_le] at hlate
      obtain ⟨t, ht, hlt⟩ := hlate
      rw [stage_run_of_over (hover t ht hlt), wait_eq_early timeout c releases hpos ht hlt]
      rfl

end Wait

/-! ## Every order of the steps -/

/-- What is true of a wait and of the guards after steps in any order. -/
structure Lawful (timeout : Nat) (c : Controller) (moves : List Move) (v : Vigil) : Prop where
  /-- The count is the number of guards whose release has not taken it down. -/
  count_eq : v.count = v.holds.count .held
  /-- So there is something to take away for each guard that is held. -/
  one_le_count : ∀ g : Nat, v.holds[g]? = some .held → 1 ≤ v.count
  /-- A wait sleeps on a count of zero only until somebody does what is left to do for its end. -/
  awake : ∀ d, v.stage = .waiting d → v.count = 0 → v.told.isSome = true ∨ .telling ∈ v.holds
  /-- A wait that reads zero returns at once. -/
  over_of_seen_zero : ∀ t, v.seen = some (0, t) → v.stage = .returned true t 0
  /-- A wait that was told returns true, at the latest when it takes its next steps. -/
  over_of_noticed : Noticed timeout (ofController c) moves →
    (∃ w n, v.stage = .returned true w n) ∨
      (v.run timeout [.read, .look]).stage = .returned true v.now v.count
  /-- If time waits for it, it returns no later than it is told. -/
  over_at_notice : Prompt timeout (ofController c) moves →
    ∀ (front : List Move) (g : Nat) (back : List Move), moves = front ++ .tell g :: back →
      let f := (ofController c).run timeout front
      f.isListening = true → f.holds[g]? = some .telling →
        (∃ w n, v.stage = .returned true w n ∧ w ≤ f.now) ∨ v.isListening = true ∧ v.now ≤ f.now
  /-- A wait that returns false read a count above zero, and nobody told it until then. -/
  unnoticed_of_late : ∀ w n, v.stage = .returned false w n →
    (∃ k t, v.seen = some (k, t) ∧ 0 < k ∧ t + timeout ≤ w ∧
      (Prompt timeout (ofController c) moves → w = t + timeout)) ∧
      ¬Noticed timeout (ofController c) moves
  /-- A wait that returns true read zero, or was told. -/
  noticed_of_flushed : ∀ w n, v.stage = .returned true w n →
    v.seen = some (0, w) ∨ Noticed timeout (ofController c) moves
  /-- If time waits for it, a wait sleeps no longer than its timeout. -/
  le_deadline : Prompt timeout (ofController c) moves → ∀ k t, v.seen = some (k, t) →
    v.isListening = true → v.now ≤ t + timeout
  /-- If nobody comes late, a wait that returns true leaves nobody behind. -/
  count_eq_zero : NoLatecomer timeout (ofController c) moves →
    ∀ w n, v.stage = .returned true w n → n = 0

section Order

variable {timeout : Nat} {v : Vigil}

/-- A wait that listens and was told returns true with its next steps. -/
theorem run_read_look_of_told {u : Nat} (htold : v.told = some u) (hlisten : v.isListening = true) :
    (v.run timeout [.read, .look]).stage = .returned true v.now v.count := by
  change ((v.read timeout).look).stage = _
  rcases isListening_iff.1 hlisten with hreg | ⟨d, hd⟩
  · rw [Vigil.read, if_pos hreg]
    by_cases hzero : v.count = 0
    · rw [if_pos hzero]
      rfl
    · simp [hzero, Vigil.look, htold]
  · rw [Vigil.read, if_neg (by simp [hd]), look_of_told hd htold]

/-- A wait reads only once, and sleeps or returns from then on. -/
theorem Sound.waiting_of_seen (h : Sound timeout v) {k : Int} {t : Nat}
    (hseen : v.seen = some (k, t)) (hlisten : v.isListening = true) :
    v.stage = .waiting (t + timeout) ∧ 0 < k := by
  rcases isListening_iff.1 hlisten with hreg | ⟨d, hd⟩
  · exact nomatch (h.unseen (.inr hreg)).symm.trans hseen
  · obtain ⟨k', t', hseen', hk, rfl⟩ := h.seen_of_waiting d hd
    cases hseen.symm.trans hseen'
    exact ⟨hd, hk⟩

theorem Sound.over_of_seen_zero (h : Sound timeout v) {t : Nat} (hseen : v.seen = some (0, t)) :
    v.stage = .returned true t 0 := by
  cases hstage : v.stage with
  | idle => exact nomatch (h.unseen (.inl hstage)).symm.trans hseen
  | registered => exact nomatch (h.unseen (.inr hstage)).symm.trans hseen
  | waiting d =>
    have hpos := (h.waiting_of_seen hseen (isListening_iff.2 (.inr ⟨d, hstage⟩))).2
    omega
  | returned b w n =>
    obtain ⟨k, t', hseen', hcase⟩ := h.seen_of_over b w n hstage
    cases hseen.symm.trans hseen'
    rcases hcase with ⟨rfl, -, rfl, rfl⟩ | ⟨-, hk, -⟩ | ⟨-, hk, -⟩
    · rfl
    · omega
    · omega

variable (timeout) (c : Controller)

theorem lawful_run (moves : List Move) :
    Lawful timeout c moves ((ofController c).run timeout moves) := by
  have h := sound_run timeout c moves
  set v := (ofController c).run timeout moves with hv
  constructor
  · exact h.count_eq
  · intro g hg
    exact h.one_le hg
  · intro d hd hzero
    cases htold : v.told with
    | none => exact .inr (h.awake d hd htold hzero)
    | some u => exact .inl rfl
  · intro t hseen
    exact h.over_of_seen_zero hseen
  · intro hnoticed
    obtain ⟨u, htold⟩ :=
      Option.isSome_iff_exists.1 ((told_iff_noticed timeout c moves).2 hnoticed)
    obtain ⟨-, -, hlisten | hover⟩ := h.told_eq u htold
    · exact .inr (run_read_look_of_told htold hlisten)
    · exact .inl hover
  · intro hprompt front g back heq f hlisten hg
    have htimely := timely_run hprompt
    have htold : v.told = some (f.told.getD f.now) := by
      rw [hv, heq]
      exact told_run_tell hlisten hg
    -- Whoever was told before the release told it was told no later.
    have hle : f.told.getD f.now ≤ f.now := by
      cases hbefore : f.told with
      | none => exact Nat.le_refl _
      | some u => exact ((sound_run timeout c front).told_eq u hbefore).2.1
    obtain ⟨-, -, hlisten | ⟨w, n, hover⟩⟩ := h.told_eq _ htold
    · exact .inr ⟨hlisten, (htimely.told_now _ htold hlisten).trans_le hle⟩
    · exact .inl ⟨w, n, hover, (htimely.over_of_told _ w n htold hover).trans_le hle⟩
  · intro w n hover
    obtain ⟨k, t, hseen, ⟨hb, -⟩ | ⟨hb, -⟩ | ⟨-, hk, htold, hlate⟩⟩ := h.seen_of_over _ w n hover
    · cases hb
    · cases hb
    · refine ⟨⟨k, t, hseen, hk, hlate, fun hprompt => ?_⟩, fun hnoticed => ?_⟩
      · exact (timely_run hprompt).deadline_of_over w n hover k t hseen
      · have hsome := (told_iff_noticed timeout c moves).2 hnoticed
        rw [← hv, htold] at hsome
        cases hsome
  · intro w n hover
    obtain ⟨k, t, hseen, ⟨-, rfl, rfl, -⟩ | ⟨-, -, u, htold, -⟩ | ⟨hb, -⟩⟩ :=
      h.seen_of_over _ w n hover
    · exact .inl hseen
    · exact .inr ((told_iff_noticed timeout c moves).1 (by rw [← hv, htold]; rfl))
    · cases hb
  · intro hprompt k t hseen hlisten
    exact (timely_run hprompt).le_deadline _ (h.waiting_of_seen hseen hlisten).1
  · intro hlate w n hover
    exact ((settled_run hlate).count_of_over w n hover).1

/-- **Waiting loses no wake-up and does not lie.** Whatever the order of the steps is, a wait that
reads zero or is told before it gives up returns true, and no other does. `wait` is one of these
runs. -/
theorem every_order_lawful :
    (∀ moves, Lawful timeout c moves ((ofController c).run timeout moves)) ∧
      ∀ releases, ((ofController c).run timeout (course timeout releases)).stage =
        .returned (wait c timeout releases).flushed (wait c timeout releases).elapsed
          (wait c timeout releases).flushing :=
  ⟨lawful_run timeout c, run_course timeout c⟩

end Order

instance (v : Vigil) : Decidable v.Rests :=
  match hstage : v.stage with
  | .idle => isTrue (by simp [Rests, isListening, hstage])
  | .registered => isFalse (by simp [Rests, isListening, hstage])
  | .waiting d =>
    decidable_of_iff (v.told = none ∧ v.now < d) (by simp [Rests, isListening, hstage])
  | .returned _ _ _ => isTrue (by simp [Rests, isListening, hstage])

instance (timeout : Nat) (v : Vigil) (moves : List Move) : Decidable (Prompt timeout v moves) :=
  decidable_of_iff (∀ front ∈ moves.inits, front ++ [.tick] <+: moves →
      (v.run timeout front).Rests)
    ⟨fun h front hf => h front ((List.mem_inits _ _).2 ((List.prefix_append _ _).trans hf)) hf,
      fun h front _ => h front⟩

instance (timeout : Nat) (v : Vigil) (moves : List Move) :
    Decidable (NoLatecomer timeout v moves) :=
  decidable_of_iff (∀ front ∈ moves.inits, front ++ [.take] <+: moves →
      (v.run timeout front).stage = .idle ∧ (v.run timeout front).emptied = false)
    ⟨fun h front hf => h front ((List.mem_inits _ _).2 ((List.prefix_append _ _).trans hf)) hf,
      fun h front _ => h front⟩

/-- The release of the last of two guards begins before the wait registers, and tells it before it
reads. In a second run the wait sleeps meanwhile. -/
theorem lawful_when_told_awake_and_asleep :
    let c := ({} : Controller).takeGuard
    let awake : List Move := [.take, .leave 1, .leave 0, .register, .tell 0, .read]
    let asleep : List Move :=
      [.take, .leave 0, .register, .read, .look, .tick, .leave 1, .tell 1, .look]
    (Lawful 10 c awake ((ofController c).run 10 awake) ∧ Prompt 10 (ofController c) awake ∧
      NoLatecomer 10 (ofController c) awake ∧ Noticed 10 (ofController c) awake ∧
      ((ofController c).run 10 awake).stage = .returned true 0 0) ∧
    (Lawful 10 c asleep ((ofController c).run 10 asleep) ∧ Prompt 10 (ofController c) asleep ∧
      NoLatecomer 10 (ofController c) asleep ∧ Noticed 10 (ofController c) asleep ∧
      ((ofController c).run 10 asleep).stage = .returned true 1 0) :=
  ⟨⟨(every_order_lawful 10 _).1 _, by decide, by decide,
      ⟨[.take, .leave 1, .leave 0, .register], 0, [.read], rfl, rfl, rfl⟩, by decide⟩,
    ⟨(every_order_lawful 10 _).1 _, by decide, by decide,
      ⟨[.take, .leave 0, .register, .read, .look, .tick, .leave 1], 1, [.look], rfl, rfl, rfl⟩,
      by decide⟩⟩

/-- A wait may give up at its deadline before the last guard is released at the same time. -/
theorem late_for_notice_at_deadline :
    let c := ({} : Controller).takeGuard
    let front : List Move := [.register, .read] ++ List.replicate 10 .tick ++ [.look, .leave 0]
    let v := (ofController c).run 10 front
    Prompt 10 (ofController c) (front ++ [.tell 0]) ∧ v.seen = some (1, 0) ∧ v.now = 0 + 10 ∧
      v.holds[0]? = some .telling ∧ (v.tell 0).stage = .returned false 10 1 ∧
      wait c 10 [(0, 10)] = ⟨false, 10, 1,
        [⟨.warn, "gave up after 10ms with 1 writers still flushing"⟩]⟩ :=
  ⟨by decide, rfl, rfl, rfl, rfl, by decide⟩

end Vigil

end LogEgress.Shutdown
