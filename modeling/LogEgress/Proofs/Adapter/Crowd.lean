import LogEgress.Proofs.Adapter.Member
import LogEgress.Proofs.Ingress.Wear
import Mathlib.Data.List.Dedup
import Mathlib.Data.List.Induction
import Mathlib.Logic.Function.Basic

set_option autoImplicit false

/-! # Subscriptions that share a pool

Any number of members take their clients from one pool, which is checked beside them. They take
turns in any order. Clients that failed are marked before the next look and are never found again,
so that in a time in which no slot changes a member fails on each client once at most. Streams that
cannot be opened are a pause apart (`calm_run`).
-/

namespace LogEgress.Adapter

open Pump (Event)
open Ingress.Pool (Session)

/-! ## Crowds -/

/-- Subscriptions, and the pool that they share. -/
structure Crowd where
  session : Session
  members : Nat → Member

namespace Crowd

/-- What happens in a crowd. -/
inductive Move where
  /-- Something happens to the pool: time passes, its monitor goes on, or others use it. -/
  | pool (m : Session.Move)
  | turn (member : Nat) (h : Happening)

/-- A pool with a number of slots that no one has dialed for, and subscriptions that have not
begun. -/
def start (size now : Nat) : Crowd := { session := Session.start size now, members := fun _ => {} }

/-- A move. -/
def move (S : Setting) (s : Crowd) : Move → Crowd
  | .pool m => { s with session := s.session.move S.dial S.rules.lifetime m }
  | .turn i h =>
    let o := (s.members i).turn S (S.binding i) s.session h
    { session := s.session.run S.dial S.rules.lifetime o.moves
      members := Function.update s.members i o.member }

/-- A number of moves. -/
def run (S : Setting) (s : Crowd) (moves : List Move) : Crowd := moves.foldl (move S) s

/-- What a move puts on the record of a member, and when. -/
def record (S : Setting) (i : Nat) (s : Crowd) : Move → Option (Nat × Deed)
  | .pool _ => none
  | .turn j h =>
    if j = i then
      ((s.members i).turn S (S.binding i) s.session h).deed.map fun d => (s.session.now, d)
    else none

/-- The record of a member over some moves. -/
def records (S : Setting) (i : Nat) : Crowd → List Move → List (Nat × Deed)
  | _, [] => []
  | s, m :: moves => (s.record S i m).toList ++ records S i (s.move S m) moves

theorem run_append (S : Setting) (s : Crowd) (moves more : List Move) :
    s.run S (moves ++ more) = (s.run S moves).run S more :=
  List.foldl_append

/-- A move as one member sees it: it may concern the pool alone, or be a turn of its own. -/
inductive Seen (S : Setting) (i : Nat) (s : Crowd) : Option (Nat × Deed) → Crowd → Prop
  | aside {t : Crowd} (moves : List Session.Move) : t.members i = s.members i →
      t.session = s.session.run S.dial S.rules.lifetime moves → Seen S i s none t
  | own {t : Crowd} {o : Effect} : (s.members i).Does S (S.binding i) s.session o →
      t.members i = o.member → t.session = s.session.run S.dial S.rules.lifetime o.moves →
      Seen S i s (o.deed.map fun d => (s.session.now, d)) t

theorem seen_move (S : Setting) (i : Nat) (s : Crowd) (m : Move) :
    Seen S i s (s.record S i m) (s.move S m) := by
  cases m with
  | pool m => exact .aside [m] rfl rfl
  | turn j h =>
    by_cases hOwn : j = i
    · subst hOwn
      rw [record, if_pos rfl]
      exact .own (Member.does_turn S (S.binding j) s.session (s.members j) h)
        (Function.update_self ..) rfl
    · rw [record, if_neg hOwn]
      exact .aside _ (Function.update_of_ne (Ne.symm hOwn) ..) rfl

section Seen

variable {S : Setting} {i : Nat} {s t : Crowd} {r : Option (Nat × Deed)}

theorem Seen.wears (h : Seen S i s r t) : s.session.pool.Wears t.session.pool := by
  cases h with
  | aside moves _ hSession =>
    rw [hSession]
    exact s.session.wears_run moves
  | own _ _ hSession =>
    rw [hSession]
    exact s.session.wears_run _

theorem Seen.now_le (h : Seen S i s r t) : s.session.now ≤ t.session.now := by
  cases h with
  | aside moves _ hSession =>
    rw [hSession]
    exact s.session.now_le_run moves
  | own _ _ hSession =>
    rw [hSession]
    exact s.session.now_le_run _

theorem Seen.holds (h : Seen S i s r t) {c : Nat} (hHolds : (t.members i).Holds c) :
    (s.members i).Holds c ∨ ∃ n, r = some (n, .chosen c) := by
  cases h with
  | aside _ hMember => exact .inl (hMember ▸ hHolds)
  | own hDoes hMember =>
    rw [hMember] at hHolds
    exact (hDoes.holds hHolds).imp id fun hDeed => ⟨s.session.now, by rw [hDeed]; rfl⟩

/-- What is recorded is recorded at once, and is an outcome of a turn. -/
theorem Seen.of_some {n : Nat} {d : Deed} (h : Seen S i s (some (n, d)) t) :
    n = s.session.now ∧ ∃ o, (s.members i).Does S (S.binding i) s.session o ∧ o.deed = some d ∧
      t.members i = o.member := by
  generalize hRecord : some (n, d) = r at h
  cases h with
  | aside => cases hRecord
  | own hDoes hMember =>
    obtain ⟨d', hDeed, ⟨⟩⟩ := Option.map_eq_some_iff.mp hRecord.symm
    exact ⟨rfl, _, hDoes, hDeed, hMember⟩

theorem Seen.chosen {n c : Nat} (h : Seen S i s (some (n, .chosen c)) t) :
    0 < s.session.pool.slotsWith c ∧ s.session.pool.isValid c = true ∧
      (s.members i).todo = [] ∧ ∀ d, ¬ (s.members i).Holds d := by
  obtain ⟨-, o, hDoes, hDeed, -⟩ := h.of_some
  exact hDoes.chosen hDeed

theorem Seen.broke {n c : Nat} (h : Seen S i s (some (n, .broke c)) t) :
    (s.members i).Holds c ∧ (s.members i).todo = [] ∧ (∀ d, ¬ (t.members i).Holds d) ∧
      .invalidate c ∈ (t.members i).todo := by
  obtain ⟨-, o, hDoes, hDeed, hMember⟩ := h.of_some
  rw [hMember]
  exact hDoes.broke hDeed

theorem Seen.marked (h : Seen S i s r t) {c : Nat} (hLt : c < s.session.pool.clients.length)
    (hTodo : .invalidate c ∈ (s.members i).todo) :
    t.session.pool.Spent c ∨ .invalidate c ∈ (t.members i).todo := by
  cases h with
  | aside _ hMember => exact .inr (hMember ▸ hTodo)
  | own hDoes hMember hSession =>
    rw [hMember, hSession]
    exact (hDoes.marked hTodo).symm.imp (Session.spent_run hLt) id

end Seen

/-! ## Clients that failed -/

/-- The clients that were given. -/
def chosenIn (records : List (Nat × Deed)) : List Nat := records.filterMap fun x => x.2.chosen?

/-- The clients whose streams failed. -/
def brokeIn (records : List (Nat × Deed)) : List Nat := records.filterMap fun x => x.2.broke?

/-- How many streams were opened. -/
def opens (records : List (Nat × Deed)) : Nat := records.countP fun x => x.2.isOpened

/-- How many streams could not be opened. -/
def refusals (records : List (Nat × Deed)) : Nat := records.countP fun x => x.2.isRefused

/-- A member never gets a client again on which it failed: it is of no use any more, or is marked
before the member looks again. -/
structure Avoids (i : Nat) (failed : List Nat) (s : Crowd) : Prop where
  nodup : failed.Nodup
  held_lt : ∀ c, (s.members i).Holds c → c < s.session.pool.clients.length
  failed_lt : ∀ c ∈ failed, c < s.session.pool.clients.length
  not_held : ∀ c ∈ failed, ¬ (s.members i).Holds c
  marked : ∀ c ∈ failed, s.session.pool.Spent c ∨ .invalidate c ∈ (s.members i).todo

theorem avoids_start (size now i : Nat) : Avoids i [] (start size now) where
  nodup := List.nodup_nil
  held_lt c hHolds := by simp [start, Member.Holds] at hHolds
  failed_lt := nofun
  not_held := nofun
  marked := nofun

section Avoids

variable {S : Setting} {i : Nat} {s t : Crowd} {r : Option (Nat × Deed)} {failed : List Nat}

theorem mem_brokeIn_toList {c : Nat} : c ∈ brokeIn r.toList ↔ ∃ n, r = some (n, .broke c) := by
  rcases r with _ | ⟨n, d⟩
  · simp [brokeIn]
  · cases d <;> simp [brokeIn, Deed.broke?, eq_comm]

theorem Avoids.seen (h : Avoids i failed s) (hSeen : Seen S i s r t) :
    Avoids i (failed ++ brokeIn r.toList) t := by
  have hWears := hSeen.wears
  constructor
  · -- The member held the client that failed, and no other that failed before.
    rw [List.nodup_append]
    refine ⟨h.nodup, ?_, fun c hFailed d hNew => ?_⟩
    · rcases r with _ | ⟨n, d⟩
      · exact List.nodup_nil
      · cases d <;> simp [brokeIn, Deed.broke?]
    · rintro rfl
      obtain ⟨n, rfl⟩ := mem_brokeIn_toList.mp hNew
      exact h.not_held c hFailed hSeen.broke.1
  · intro c hHolds
    obtain hBefore | ⟨n, rfl⟩ := hSeen.holds hHolds
    · exact Nat.lt_of_lt_of_le (h.held_lt c hBefore) hWears.length_le
    · exact Nat.lt_of_lt_of_le (Ingress.Pool.lt_of_isValid hSeen.chosen.2.1) hWears.length_le
  · intro c hc
    obtain hFailed | hNew := List.mem_append.mp hc
    · exact Nat.lt_of_lt_of_le (h.failed_lt c hFailed) hWears.length_le
    · obtain ⟨n, rfl⟩ := mem_brokeIn_toList.mp hNew
      exact Nat.lt_of_lt_of_le (h.held_lt c hSeen.broke.1) hWears.length_le
  · intro c hc hHolds
    obtain hFailed | hNew := List.mem_append.mp hc
    · obtain hBefore | ⟨n, rfl⟩ := hSeen.holds hHolds
      · exact h.not_held c hFailed hBefore
      · -- A client that is marked, or of no use, is not found.
        obtain ⟨-, hValid, hTodo, -⟩ := hSeen.chosen
        obtain hSpent | hMarked := h.marked c hFailed
        · simp [hSpent.2] at hValid
        · simp [hTodo] at hMarked
    · obtain ⟨n, rfl⟩ := mem_brokeIn_toList.mp hNew
      exact hSeen.broke.2.2.1 c hHolds
  · intro c hc
    obtain hFailed | hNew := List.mem_append.mp hc
    · obtain hSpent | hMarked := h.marked c hFailed
      · exact .inl (hWears.spent c hSpent)
      · exact hSeen.marked (h.failed_lt c hFailed) hMarked
    · obtain ⟨n, rfl⟩ := mem_brokeIn_toList.mp hNew
      exact .inr hSeen.broke.2.2.2

theorem Avoids.run (h : Avoids i failed s) (S : Setting) (moves : List Move) :
    Avoids i (failed ++ brokeIn (s.records S i moves)) (s.run S moves) := by
  induction moves generalizing s failed with
  | nil => simpa [records, brokeIn, run] using h
  | cons m moves ih =>
    have hNext := ih (h.seen (seen_move S i s m))
    rwa [List.append_assoc, brokeIn, brokeIn, ← List.filterMap_append] at hNext

end Avoids

/-! ## While no slot changes -/

/-- The slots stay as they are. -/
def Unreplaced (S : Setting) (s : Crowd) (moves : List Move) : Prop :=
  ∀ k ≤ moves.length, (s.run S (moves.take k)).session.pool.slots = s.session.pool.slots

instance (S : Setting) (s : Crowd) (moves : List Move) : Decidable (Unreplaced S s moves) :=
  inferInstanceAs (Decidable (∀ k ≤ moves.length, _))

/-- The clients in the slots. -/
def pooled (s : Crowd) : List Nat := s.session.pool.clear.1

/-- The record of a member from when it is given a client. -/
def sinceChosen (records : List (Nat × Deed)) : List (Nat × Deed) :=
  records.dropWhile fun x => x.2.chosen?.isNone

section Unreplaced

variable {S : Setting} {i : Nat} {s t : Crowd} {m : Move} {moves : List Move}

theorem Unreplaced.tail (h : Unreplaced S s (m :: moves)) :
    (s.move S m).pooled = s.pooled ∧ Unreplaced S (s.move S m) moves := by
  have hFirst : (s.move S m).session.pool.slots = s.session.pool.slots :=
    h 1 (Nat.le_add_left ..)
  refine ⟨?_, fun k hk => (h (k + 1) (Nat.succ_le_succ hk)).trans hFirst.symm⟩
  rw [pooled, pooled, Ingress.Pool.clear, Ingress.Pool.clear, hFirst]

theorem Seen.chosen_mem {n c : Nat} (h : Seen S i s (some (n, .chosen c)) t) : c ∈ s.pooled := by
  rw [pooled, ← List.count_pos_iff, Ingress.Pool.count_clear]
  exact h.chosen.1

/-- A member is given clients that are in slots. -/
theorem chosen_mem_pooled (h : Unreplaced S s moves) {c : Nat}
    (hc : c ∈ chosenIn (s.records S i moves)) : c ∈ s.pooled := by
  induction moves generalizing s with
  | nil => cases hc
  | cons m moves ih =>
    obtain ⟨hPooled, hTail⟩ := h.tail
    have hSeen := seen_move S i s m
    rw [records, chosenIn, List.filterMap_append, List.mem_append] at hc
    obtain hNow | hLater := hc
    · obtain ⟨⟨n, d⟩, hRecord, hChosen⟩ := List.mem_filterMap.mp hNow
      rw [Option.mem_toList] at hRecord
      rw [hRecord] at hSeen
      cases d with
      | chosen client =>
        obtain rfl : client = c := Option.some.inj hChosen
        exact hSeen.chosen_mem
      | _ => cases hChosen
    · exact hPooled ▸ ih hTail hLater

/-- A member fails on a client that it has, or on one in a slot. -/
theorem broke_mem_pooled (h : Unreplaced S s moves) {c : Nat}
    (hc : c ∈ brokeIn (s.records S i moves)) : (s.members i).Holds c ∨ c ∈ s.pooled := by
  induction moves generalizing s with
  | nil => cases hc
  | cons m moves ih =>
    obtain ⟨hPooled, hTail⟩ := h.tail
    have hSeen := seen_move S i s m
    rw [records, brokeIn, List.filterMap_append, List.mem_append] at hc
    obtain hNow | hLater := hc
    · obtain ⟨n, hRecord⟩ := mem_brokeIn_toList.mp hNow
      rw [hRecord] at hSeen
      exact .inl hSeen.broke.1
    · obtain hHolds | hIn := ih hTail hLater
      · obtain hBefore | ⟨n, hRecord⟩ := hSeen.holds hHolds
        · exact .inl hBefore
        · rw [hRecord] at hSeen
          exact .inr hSeen.chosen_mem
      · exact .inr (hPooled ▸ hIn)

/-- Once it is given a client a member fails on clients in slots only. -/
theorem broke_mem_pooled_sinceChosen (h : Unreplaced S s moves) {c : Nat}
    (hc : c ∈ brokeIn (sinceChosen (s.records S i moves))) : c ∈ s.pooled := by
  induction moves generalizing s with
  | nil => cases hc
  | cons m moves ih =>
    obtain ⟨hPooled, hTail⟩ := h.tail
    have hSeen := seen_move S i s m
    rw [records] at hc
    generalize s.record S i m = r at hSeen hc
    rcases r with _ | ⟨n, d⟩
    · exact hPooled ▸ ih hTail hc
    · cases d with
      | chosen client =>
        obtain hHolds | hIn := broke_mem_pooled hTail (c := c) hc
        · obtain hBefore | ⟨n', hSame⟩ := hSeen.holds hHolds
          · exact absurd hBefore (hSeen.chosen.2.2.2 c)
          · cases hSame
            exact hSeen.chosen_mem
        · exact hPooled ▸ hIn
      | _ => exact hPooled ▸ ih hTail hc

/-- The client that a member has may fail, and those in slots. -/
theorem length_brokeIn_le (h : Unreplaced S s moves)
    (hNodup : (brokeIn (s.records S i moves)).Nodup) :
    (brokeIn (s.records S i moves)).length ≤ s.pooled.length + 1 := by
  by_cases hHeld : ∃ c, (s.members i).Holds c
  · obtain ⟨c, hc⟩ := hHeld
    have hIn : brokeIn (s.records S i moves) ⊆ c :: s.pooled := by
      intro d hd
      obtain hd | hd := broke_mem_pooled h hd
      · exact hc.unique hd ▸ List.mem_cons_self ..
      · exact List.mem_cons_of_mem _ hd
    exact (List.subperm_of_subset hNodup hIn).length_le
  · have hIn : brokeIn (s.records S i moves) ⊆ s.pooled := fun d hd =>
      (broke_mem_pooled h hd).resolve_left fun hd => hHeld ⟨d, hd⟩
    exact Nat.le_succ_of_le (List.subperm_of_subset hNodup hIn).length_le

end Unreplaced

/-! ## Times on record -/

/-- What is recorded later was later, and after a stream could not be opened there is a pause. -/
def Spaced (wait : Nat) (x y : Nat × Deed) : Prop :=
  x.1 ≤ y.1 ∧
    (x.2.isRefused = true → y.2.isOpened = true ∨ y.2.isRefused = true → x.1 + wait ≤ y.1)

section Times

variable {S : Setting} {i : Nat} {s t : Crowd} {r : Option (Nat × Deed)}

theorem time_bounds (S : Setting) (i : Nat) (s : Crowd) (moves : List Move) :
    s.session.now ≤ (s.run S moves).session.now ∧
      ∀ x ∈ s.records S i moves, s.session.now ≤ x.1 ∧ x.1 ≤ (s.run S moves).session.now := by
  induction moves generalizing s with
  | nil => exact ⟨Nat.le_refl _, nofun⟩
  | cons m moves ih =>
    have hSeen := seen_move S i s m
    obtain ⟨hRun, hLater⟩ := ih (s.move S m)
    refine ⟨Nat.le_trans hSeen.now_le hRun, fun x hx => ?_⟩
    obtain hNow | hx := List.mem_append.mp hx
    · rw [Option.mem_toList] at hNow
      rw [hNow] at hSeen
      rw [hSeen.of_some.1]
      exact ⟨Nat.le_refl _, Nat.le_trans hSeen.now_le hRun⟩
    · exact ⟨Nat.le_trans hSeen.now_le (hLater x hx).1, (hLater x hx).2⟩

theorem Seen.rests (h : Seen S i s r t) {time : Nat} (hTime : time ≤ s.session.now)
    (hRests : (s.members i).Rests S.reopenWait time s.session.now) :
    (t.members i).Rests S.reopenWait time t.session.now ∧
      ∀ x ∈ r, x.2.isOpened = true ∨ x.2.isRefused = true → time + S.reopenWait ≤ x.1 := by
  have hNow := h.now_le
  cases h with
  | aside _ hMember => exact ⟨hMember ▸ hRests.mono hNow, nofun⟩
  | own hDoes hMember =>
    obtain ⟨hNext, hDeed⟩ := hDoes.rests hTime hRests
    refine ⟨hMember ▸ hNext.mono hNow, fun x hx => ?_⟩
    obtain ⟨d, hd, rfl⟩ := Option.map_eq_some_iff.mp hx
    exact hDeed d hd

theorem Seen.rests_of_refused {n c : Nat} (h : Seen S i s (some (n, .refused c)) t) :
    (t.members i).Rests S.reopenWait n t.session.now := by
  obtain ⟨rfl, o, hDoes, hDeed, hMember⟩ := h.of_some
  exact hMember ▸ (hDoes.rests_of_refused hDeed).mono h.now_le

theorem rests_records {time : Nat} (hTime : time ≤ s.session.now)
    (hRests : (s.members i).Rests S.reopenWait time s.session.now) (moves : List Move) :
    ∀ x ∈ s.records S i moves, x.2.isOpened = true ∨ x.2.isRefused = true →
      time + S.reopenWait ≤ x.1 := by
  induction moves generalizing s with
  | nil => nofun
  | cons m moves ih =>
    have hSeen := seen_move S i s m
    obtain ⟨hNext, hNow⟩ := hSeen.rests hTime hRests
    intro x hx
    obtain hx | hx := List.mem_append.mp hx
    · exact hNow x (Option.mem_toList.mp hx)
    · exact ih (Nat.le_trans hTime hSeen.now_le) hNext x hx

theorem pairwise_records (S : Setting) (i : Nat) (s : Crowd) (moves : List Move) :
    (s.records S i moves).Pairwise (Spaced S.reopenWait) := by
  induction moves generalizing s with
  | nil => exact List.Pairwise.nil
  | cons m moves ih =>
    have hSeen := seen_move S i s m
    rw [records]
    generalize s.record S i m = r at hSeen
    rcases r with _ | ⟨n, d⟩
    · exact ih _
    · have hTime : n ≤ (s.move S m).session.now := hSeen.of_some.1 ▸ hSeen.now_le
      refine List.pairwise_cons.mpr ⟨fun y hy => ⟨?_, fun hRefused => ?_⟩, ih _⟩
      · exact Nat.le_trans hTime ((time_bounds S i _ moves).2 y hy).1
      · cases d with
        | refused c => exact rests_records hTime hSeen.rests_of_refused moves y hy
        | _ => cases hRefused

/-- How often something happens that happens at intervals. -/
theorem length_mul_le {wait lo hi : Nat} {times : List Nat}
    (hSpaced : times.Pairwise fun a b => a + wait ≤ b) (hTimes : ∀ a ∈ times, lo ≤ a ∧ a ≤ hi) :
    times.length * wait ≤ hi - lo + wait := by
  induction times generalizing lo with
  | nil => simp
  | cons a times ih =>
    obtain ⟨hFirst, hRest⟩ := List.pairwise_cons.mp hSpaced
    obtain ⟨hBounds, hLater⟩ := List.forall_mem_cons.mp hTimes
    cases times with
    | nil => simp
    | cons b times =>
      have hNext := ih hRest fun c hc => ⟨hFirst c hc, (hLater c hc).2⟩
      have hRoom : a + wait ≤ hi :=
        Nat.le_trans (hFirst b (List.mem_cons_self ..)) (hLater b (List.mem_cons_self ..)).2
      rw [List.length_cons, Nat.succ_mul]
      omega

theorem refusals_mul_le (S : Setting) (i : Nat) (s : Crowd) (moves : List Move) :
    refusals (s.records S i moves) * S.reopenWait ≤
      (s.run S moves).session.now - s.session.now + S.reopenWait := by
  have hTimes : refusals (s.records S i moves) =
      (((s.records S i moves).filter fun x => x.2.isRefused).map Prod.fst).length := by
    rw [refusals, List.countP_eq_length_filter, List.length_map]
  rw [hTimes]
  refine length_mul_le (List.pairwise_map.mpr ?_) fun a ha => ?_
  · refine List.pairwise_filter.mpr ((pairwise_records S i s moves).imp ?_)
    exact fun hSpaced hx hy => hSpaced.2 hx (.inr hy)
  · obtain ⟨x, hx, rfl⟩ := List.mem_map.mp ha
    exact (time_bounds S i s moves).2 x (List.mem_filter.mp hx).1

end Times

/-! ## How many streams are opened -/

section Opens

variable {S : Setting} {i : Nat} {s t : Crowd} {r : Option (Nat × Deed)}

theorem Seen.prospects_le (h : Seen S i s r t) :
    opens r.toList + (t.members i).prospects ≤ (s.members i).prospects +
      if (s.members i).told then 0 else refusals r.toList + (brokeIn r.toList).length := by
  cases h with
  | aside _ hMember => simp [hMember, opens]
  | @own t o hDoes hMember =>
    have hTurn := hDoes.prospects_le
    rw [hMember]
    cases hDeed : o.deed <;> rw [hDeed] at hTurn <;> exact hTurn

theorem Seen.told (h : Seen S i s r t) (hTold : (s.members i).told = true) :
    (t.members i).told = true := by
  cases h with
  | aside _ hMember => exact hMember ▸ hTold
  | own hDoes hMember => exact hMember ▸ hDoes.told_of_told hTold

theorem Seen.prospects_le_one (h : Seen S i s r t) (hOne : (s.members i).prospects ≤ 1) :
    (t.members i).prospects ≤ 1 := by
  cases h with
  | aside _ hMember => exact hMember ▸ hOne
  | own hDoes hMember => exact hMember ▸ hDoes.prospects_le_one hOne

/-- Streams are opened where there was a prospect, or after one failed. -/
theorem opens_le (S : Setting) (i : Nat) (s : Crowd) (moves : List Move) :
    opens (s.records S i moves) + ((s.run S moves).members i).prospects ≤
      (s.members i).prospects + refusals (s.records S i moves) +
        (brokeIn (s.records S i moves)).length := by
  induction moves generalizing s with
  | nil => exact Nat.le_of_eq (Nat.zero_add _)
  | cons m moves ih =>
    have hNow := (seen_move S i s m).prospects_le
    have hLater := ih (s.move S m)
    simp only [records, opens, refusals, brokeIn, List.countP_append, List.filterMap_append,
      List.length_append] at hNow hLater ⊢
    show _ + (((s.move S m).run S moves).members i).prospects ≤ _
    split at hNow <;> omega

/-- Who was told to end opens no more streams than it had a prospect of then. -/
theorem opens_le_of_told (hTold : (s.members i).told = true) (moves : List Move) :
    opens (s.records S i moves) ≤ (s.members i).prospects := by
  induction moves generalizing s with
  | nil => exact Nat.zero_le _
  | cons m moves ih =>
    have hSeen := seen_move S i s m
    have hNow := hSeen.prospects_le
    rw [if_pos hTold] at hNow
    have hLater := ih (hSeen.told hTold)
    simp only [records, opens, List.countP_append] at hNow hLater ⊢
    omega

theorem prospects_le_one (S : Setting) (i size now : Nat) (moves : List Move) :
    (((start size now).run S moves).members i).prospects ≤ 1 := by
  induction moves using List.reverseRecOn with
  | nil => exact Nat.le_refl 1
  | append_singleton moves m ih =>
    rw [run_append]
    exact (seen_move S i _ m).prospects_le_one ih

end Opens

/-! ## No storm -/

/-- What is true of a member of a crowd during some moves. -/
structure Calm (S : Setting) (size i : Nat) (s : Crowd) (moves : List Move) : Prop where
  /-- After a stream could not be opened there is a pause until the next one is opened. -/
  spaced : (s.records S i moves).Pairwise (Spaced S.reopenWait)
  /-- Who was told to end opens no stream, but for one if it was about to open it, or was waiting
  for a writer or a client. -/
  opens_of_told : (s.members i).told = true → opens (s.records S i moves) ≤ 1 ∧
    ((s.members i).phase ≠ .connecting → (s.members i).phase ≠ .choosing →
      (∀ c r, .openStream c r ∉ (s.members i).todo) → opens (s.records S i moves) = 0)
  /-- No client fails twice. -/
  nodup : (brokeIn (s.records S i moves)).Nodup
  /-- While no slot changes, all clients that are given are in slots. -/
  chosen_mem : Unreplaced S s moves → ∀ c ∈ chosenIn (s.records S i moves),
    ∃ slot, some slot ∈ s.session.pool.slots ∧ slot.client = c
  /-- No more clients are given than there are slots. -/
  chosen_le : Unreplaced S s moves → (chosenIn (s.records S i moves)).dedup.length ≤ max 1 size
  /-- The streams of no more of them fail than there are slots. -/
  broke_le : Unreplaced S s moves →
    (brokeIn (sinceChosen (s.records S i moves))).length ≤ max 1 size
  /-- So few streams are opened, but for those that follow a pause. -/
  opens_le : Unreplaced S s moves → opens (s.records S i moves) ≤
    max 1 size + 2 + refusals (s.records S i moves)
  refusals_le : refusals (s.records S i moves) * S.reopenWait ≤
    (s.run S moves).session.now - s.session.now + S.reopenWait

/-- The pool of a crowd is used as any pool. -/
theorem exists_session_run (S : Setting) (size now : Nat) (moves : List Move) :
    ∃ ms, ((start size now).run S moves).session =
      (Session.start size now).run S.dial S.rules.lifetime ms := by
  induction moves using List.reverseRecOn with
  | nil => exact ⟨[], rfl⟩
  | append_singleton moves m ih =>
    obtain ⟨ms, hSession⟩ := ih
    rw [run_append]
    cases m with
    | pool m => exact ⟨ms ++ [m], by rw [Session.run_append, ← hSession]; rfl⟩
    | turn j h => exact ⟨ms ++ _, by rw [Session.run_append, ← hSession]; rfl⟩

theorem length_pooled_le (S : Setting) (size now : Nat) (moves : List Move) :
    ((start size now).run S moves).pooled.length ≤ max 1 size := by
  obtain ⟨ms, hSession⟩ := exists_session_run S size now moves
  have hSize := ((Session.kept_start S.dial size now).run S.rules.lifetime ms).size_eq
  rw [← hSession] at hSize
  rw [pooled, Ingress.Pool.clear, List.length_map, ← hSize]
  exact List.length_filterMap_le ..

/-- **Crowds are calm.** Whatever the members of a crowd and the monitor of its pool do, as long as
no slot changes a member fails on as many of the clients that it is given as there are slots at
most, and after a stream could not be opened it waits. -/
theorem calm_run (S : Setting) (size now : Nat) (front moves : List Move) (i : Nat) :
    Calm S size i ((start size now).run S front) moves := by
  have hPooled := length_pooled_le S size now front
  have hAvoids := ((avoids_start size now i).run S front).run S moves
  have hProspects := prospects_le_one S i size now front
  generalize (start size now).run S front = s at hPooled hAvoids hProspects
  have hNodup : (brokeIn (s.records S i moves)).Nodup := (List.nodup_append.mp hAvoids.nodup).2.1
  exact {
    spaced := pairwise_records S i s moves
    opens_of_told := fun hTold => by
      have hOpens := opens_le_of_told hTold moves (S := S)
      refine ⟨Nat.le_trans hOpens hProspects, fun hConnecting hChoosing hTodo => ?_⟩
      rw [Member.prospects_eq_zero hTold hConnecting hChoosing hTodo] at hOpens
      exact Nat.le_zero.mp hOpens
    nodup := hNodup
    chosen_mem := fun hSlots c hc => by
      simpa [pooled, Ingress.Pool.clear] using chosen_mem_pooled hSlots hc
    chosen_le := fun hSlots => by
      have hIn : (chosenIn (s.records S i moves)).dedup ⊆ s.pooled :=
        fun c hc => chosen_mem_pooled hSlots (List.mem_dedup.mp hc)
      exact Nat.le_trans (List.subperm_of_subset (List.nodup_dedup _) hIn).length_le hPooled
    broke_le := fun hSlots => by
      have hOnce : (brokeIn (sinceChosen (s.records S i moves))).Nodup :=
        hNodup.sublist ((List.dropWhile_sublist _).filterMap _)
      have hIn : brokeIn (sinceChosen (s.records S i moves)) ⊆ s.pooled :=
        fun c hc => broke_mem_pooled_sinceChosen hSlots hc
      exact Nat.le_trans (List.subperm_of_subset hOnce hIn).length_le hPooled
    opens_le := fun hSlots => by
      have hOpens := opens_le S i s moves
      have hBroke := length_brokeIn_le hSlots hNodup
      omega
    refusals_le := refusals_mul_le S i s moves }

end Crowd

end LogEgress.Adapter
