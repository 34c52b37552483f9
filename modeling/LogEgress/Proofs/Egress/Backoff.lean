import LogEgress.Egress.Backoff
import LogEgress.Proofs.Egress.Attempts
import Mathlib.Algebra.BigOperators.Ring.Finset
import Mathlib.Algebra.Order.BigOperators.Group.Finset
import Mathlib.Tactic.Ring

set_option autoImplicit false

/-! # How long a write is repeated

The waits between the attempts of a write double up to a limit, and each may be off its base by a
tenth. They are worked out in machine words, of which none is too narrow (`exists_delay`). Added
up, the bases double with each further wait until the limit is reached, and grow by the same amount
from there on (`sum_base`); the waits themselves are within a tenth of that (`sum_wait`).

The main theorem, `every_envelope_in_budget`, says this of the waits that a write really takes: one
for each failed attempt but the last. An envelope is given up exactly if all its attempts fail and
no cancellation comes before the last one ends, and by then there was one wait less than there were
attempts.
-/

namespace LogEgress.Backoff

/-! ## Words -/

theorem exists_unsigned? (bits : Nat) {n : Int} (hlow : 0 ≤ n) (hhigh : n < 2 ^ bits) :
    ∃ w, unsigned? bits n = some w ∧ (w.toNat : Int) = n := by
  have hsize : 1 <<< bits = 2 ^ bits := by rw [Nat.shiftLeft_eq, one_mul]
  have hfits : n < (1 <<< bits : Nat) := by
    rw [hsize]
    exact_mod_cast hhigh
  have hword : n.toNat < 2 ^ bits := by
    rw [← hsize]
    exact (Int.toNat_lt hlow).2 hfits
  refine ⟨.ofNat bits n.toNat, if_pos ⟨hlow, hfits⟩, ?_⟩
  rw [BitVec.toNat_ofNat, Nat.mod_eq_of_lt hword]
  exact Int.toNat_of_nonneg hlow

theorem exists_signed64? {n : Int} (hlow : -2 ^ 63 ≤ n) (hhigh : n < 2 ^ 63) :
    ∃ w, signed64? n = some w ∧ w.toInt = n := by
  have hfits : Int64.minValue.toInt ≤ n ∧ n ≤ Int64.maxValue.toInt := by
    rw [Int64.toInt_minValue, Int64.toInt_maxValue]
    omega
  exact ⟨.ofInt n, if_pos hfits, Int64.toInt_ofInt_of_le hlow hhigh⟩

namespace Duration

theorem toNanos_ofMillis (n : UInt64) : (ofMillis n).toNanos = n.toNat * millisecond := by
  have hbelow : n.toNat % 1000 < 1000 := Nat.mod_lt _ (by omega)
  have hnanos : (ofMillis n).nanos.toNat = n.toNat % 1000 * 1000000 := by
    show ((n % 1000).toUInt32 * 1000000).toNat = _
    rw [UInt32.toNat_mul, UInt64.toNat_toUInt32, UInt64.toNat_mod]
    show n.toNat % 1000 % 2 ^ 32 * 1000000 % 2 ^ 32 = _
    omega
  have hseconds : (ofMillis n).seconds.toNat = n.toNat / 1000 := UInt64.toNat_div n 1000
  rw [toNanos, hnanos, hseconds, millisecond]
  omega

theorem toNanos_ofNanos (n : UInt64) : (ofNanos n).toNanos = n.toNat := by
  have hnanos : (ofNanos n).nanos.toNat = n.toNat % 1000000000 := by
    show (n % 1000000000).toUInt32.toNat = _
    rw [UInt64.toNat_toUInt32, UInt64.toNat_mod]
    show n.toNat % 1000000000 % 2 ^ 32 = _
    omega
  have hseconds : (ofNanos n).seconds.toNat = n.toNat / 1000000000 := UInt64.toNat_div n 1000000000
  rw [toNanos, hnanos, hseconds]
  omega

end Duration

/-! ## The bases of the waits -/

theorem base_eq (k : Nat) : base k = millisecond * 2 ^ (min k maxExponent - 1) := by
  unfold base
  split
  case isTrue h =>
    rw [h]
    rfl
  case isFalse => exact Nat.shiftLeft_eq _ _

/-- A wait is twice the one before it as long as the limit is not reached. -/
theorem base_succ {k : Nat} (h : k < maxExponent) : base (k + 1) = millisecond * 2 ^ k := by
  rw [base_eq, Nat.min_eq_left h]
  rfl

theorem base_of_le {k : Nat} (h : maxExponent ≤ k) :
    base k = millisecond * 2 ^ (maxExponent - 1) := by
  rw [base_eq, Nat.min_eq_right h]

theorem monotone_base : Monotone base := by
  intro j k hjk
  rw [base_eq, base_eq]
  apply Nat.mul_le_mul_left
  apply Nat.pow_le_pow_right (by decide)
  omega

theorem base_le (k : Nat) : base k ≤ millisecond * 2 ^ (maxExponent - 1) := by
  calc base k ≤ base (max k maxExponent) := monotone_base (Nat.le_max_left _ _)
    _ = millisecond * 2 ^ (maxExponent - 1) := base_of_le (Nat.le_max_right _ _)

/-- Up to the limit all bases together are as long as the next wait would be. -/
theorem sum_base_of_le {m : Nat} (h : m ≤ maxExponent) :
    ∑ k ∈ Finset.range (m + 1), base k = millisecond * 2 ^ m := by
  induction m with
  | zero => rfl
  | succ m ih =>
    calc ∑ k ∈ Finset.range (m + 1 + 1), base k
        = ∑ k ∈ Finset.range (m + 1), base k + base (m + 1) := Finset.sum_range_succ _ _
      _ = millisecond * 2 ^ m + millisecond * 2 ^ m := by rw [ih (by omega), base_succ h]
      _ = millisecond * 2 ^ (m + 1) := by ring

/-- From the limit on each further wait adds the same. -/
theorem sum_base_add (n : Nat) :
    ∑ k ∈ Finset.range (maxExponent + 1 + n), base k =
      millisecond * (2 ^ maxExponent + n * 2 ^ (maxExponent - 1)) := by
  induction n with
  | zero => simpa using sum_base_of_le (le_refl maxExponent)
  | succ n ih =>
    have hlimit : base (maxExponent + 1 + n) = millisecond * 2 ^ (maxExponent - 1) :=
      base_of_le (by omega)
    calc ∑ k ∈ Finset.range (maxExponent + 1 + (n + 1)), base k
        = ∑ k ∈ Finset.range (maxExponent + 1 + n), base k + base (maxExponent + 1 + n) :=
          Finset.sum_range_succ _ _
      _ = millisecond * (2 ^ maxExponent + n * 2 ^ (maxExponent - 1)) +
            millisecond * 2 ^ (maxExponent - 1) := by rw [ih, hlimit]
      _ = millisecond * (2 ^ maxExponent + (n + 1) * 2 ^ (maxExponent - 1)) := by ring

/-- What a number of waits come to without their deviations, in milliseconds. -/
def budget (m : Nat) : Nat := if m ≤ 23 then 2 ^ (m - 1) else 2 ^ 22 + (m - 23) * 2 ^ 21

theorem sum_base {m : Nat} (h : 1 ≤ m) :
    ∑ k ∈ Finset.range m, base k = millisecond * budget m := by
  unfold budget
  split
  case isTrue hle =>
    obtain ⟨j, rfl⟩ : ∃ j, m = j + 1 := ⟨m - 1, by omega⟩
    have hj : j ≤ maxExponent := by
      show j ≤ 22
      omega
    exact sum_base_of_le hj
  case isFalse hgt =>
    obtain ⟨n, rfl⟩ : ∃ n, m = maxExponent + 1 + n := ⟨m - 23, by unfold maxExponent; omega⟩
    have hn : maxExponent + 1 + n - 23 = n := by
      unfold maxExponent
      omega
    rw [sum_base_add, hn]
    rfl

/-- The waits between a number of attempts. -/
theorem budget_sub_one (n : Nat) :
    budget (n - 1) = if n ≤ 24 then 2 ^ (n - 2) else 2 ^ 22 + (n - 24) * 2 ^ 21 := by
  have hiff : n - 1 ≤ 23 ↔ n ≤ 24 := by omega
  rw [budget, Nat.sub_sub, Nat.sub_sub]
  simp only [hiff]

-- With as many attempts as the limit says, an envelope waits for about 17 minutes.
example : budget (maxExponent - 1) = 1048576 := rfl

/-! ## Each wait by itself -/

theorem exists_exponent {attempt : UInt32} (h : attempt ≠ 0) :
    ∃ w, unsigned? 32 ((min attempt (.ofNat maxExponent)).toNat - 1) = some w ∧
      w.toNat = min attempt.toNat maxExponent - 1 := by
  have hpos : 0 < attempt.toNat := by
    rw [Nat.pos_iff_ne_zero]
    intro hzero
    exact h (UInt32.toNat_inj.1 hzero)
  have hlimit : maxExponent = 22 := rfl
  have hmin : (min attempt (.ofNat maxExponent)).toNat = min attempt.toNat maxExponent :=
    UInt32.toNat_min _ _
  obtain ⟨w, hw, hvalue⟩ := exists_unsigned? 32
    (n := (min attempt (.ofNat maxExponent)).toNat - 1) (by omega) (by omega)
  exact ⟨w, hw, by omega⟩

theorem exists_shift {n : Nat} (h : n < maxExponent) :
    ∃ w, unsigned? 64 (1 <<< n : Nat) = some w ∧ w.toNat = 2 ^ n := by
  have hshift : 1 <<< n = 2 ^ n := by rw [Nat.shiftLeft_eq, one_mul]
  have hsmall : 2 ^ n < 2 ^ maxExponent := Nat.pow_lt_pow_right (by decide) h
  have hfits : ((1 <<< n : Nat) : Int) < 2 ^ 64 := by
    have hlimit : 2 ^ maxExponent < 2 ^ 64 := by decide
    rw [hshift]
    exact_mod_cast hsmall.trans hlimit
  obtain ⟨w, hw, hvalue⟩ := exists_unsigned? 64 (Int.natCast_nonneg (1 <<< n)) hfits
  exact ⟨w, hw, (Nat.cast_inj.1 hvalue).trans hshift⟩

theorem exists_baseDelay (attempt : UInt32) :
    ∃ d, baseDelay? attempt = some d ∧ d.toNanos = base attempt.toNat := by
  unfold baseDelay?
  split
  case isTrue h =>
    refine ⟨_, rfl, ?_⟩
    rw [h]
    rfl
  case isFalse h =>
    obtain ⟨exponent, hexponent, hexact⟩ := exists_exponent h
    have hlt : exponent.toNat < maxExponent := by
      have hlimit : maxExponent = 22 := rfl
      omega
    obtain ⟨millis, hmillis, hcount⟩ := exists_shift hlt
    refine ⟨.ofMillis (.ofBitVec millis), ?_, ?_⟩
    · rw [hexponent, Option.bind_eq_bind, Option.bind_some, hmillis]
      rfl
    · calc (Duration.ofMillis (.ofBitVec millis)).toNanos
          = millis.toNat * millisecond := Duration.toNanos_ofMillis _
        _ = 2 ^ (min attempt.toNat maxExponent - 1) * millisecond := by rw [hcount, hexact]
        _ = base attempt.toNat := by rw [base_eq, Nat.mul_comm]

theorem toInt_tenth {n : Int64} (h : 0 ≤ n.toInt) : (n / 10).toInt = n.toInt / 10 := by
  rw [Int64.toInt_div_of_ne_right n 10 (by decide)]
  exact Int.tdiv_eq_ediv_of_nonneg h

theorem deviation?_of_le {spread draw : Int64} (h : (draw.toInt.natAbs : Int) ≤ spread.toInt) :
    deviation? spread draw = some draw := by
  have hhigh : spread.toInt < 2 ^ 63 := spread.toInt_lt
  unfold deviation?
  split
  case isTrue =>
    obtain ⟨low, hlow, hminus⟩ := exists_signed64? (n := -spread.toInt) (by omega) (by omega)
    have hdrawn : low ≤ draw ∧ draw ≤ spread := by
      rw [Int64.le_iff_toInt_le, Int64.le_iff_toInt_le]
      omega
    rw [hlow, Option.bind_eq_bind, Option.bind_some, if_pos hdrawn]
  case isFalse hnot =>
    have hzero : spread.toInt ≤ (0 : Int64).toInt :=
      not_lt.1 fun hlt => hnot (Int64.lt_iff_toInt_lt.2 hlt)
    have hnone : draw.toInt = (0 : Int64).toInt := by
      rw [Int64.toInt_zero] at hzero ⊢
      omega
    rw [Int64.toInt_inj.1 hnone]

/-- **No word is too narrow.** For every attempt, and every deviation of at most a tenth of the
base, there is a wait, and it is the base with that deviation. The first wait has none. -/
theorem exists_delay {attempt : UInt32} {draw : Int64}
    (hdraw : draw.toInt.natAbs ≤ base attempt.toNat / 10) :
    ∃ d, delay? attempt draw = some d ∧
      (d.toNanos : Int) = jittered attempt.toNat (if attempt = 0 then 0 else draw.toInt) := by
  have hfirst : base 0 = 1000000 := rfl
  by_cases h : attempt = 0
  · refine ⟨.ofMillis 1, if_pos h, ?_⟩
    have hone : (Duration.ofMillis 1).toNanos = 1000000 := rfl
    rw [hone, jittered, if_pos h, h, UInt32.toNat_zero, hfirst]
    omega
  · have hlarge : base 0 ≤ base attempt.toNat := monotone_base (Nat.zero_le _)
    have hsmall : base attempt.toNat ≤ 2097152000000 := base_le _
    obtain ⟨d, hd, hbase⟩ := exists_baseDelay attempt
    obtain ⟨b, hb, hnanos⟩ := exists_signed64? (n := d.toNanos) (by omega) (by omega)
    have htenth : (b / 10).toInt = b.toInt / 10 := toInt_tenth (by omega)
    have hdeviation : deviation? (b / 10) draw = some draw := deviation?_of_le (by omega)
    -- The deviation is less than the base, so that their sum is not negative.
    obtain ⟨s, hs, hsum⟩ := exists_signed64? (n := b.toInt + draw.toInt) (by omega) (by omega)
    obtain ⟨w, hw, hexact⟩ := exists_unsigned? 64 (n := s.toInt) (by omega) (by omega)
    refine ⟨.ofNanos (.ofBitVec w), ?_, ?_⟩
    · rw [delay?, if_neg h]
      simp only [Option.bind_eq_bind]
      rw [hd, Option.bind_some, hb, Option.bind_some, hdeviation, Option.bind_some, hs,
        Option.bind_some, hw]
      rfl
    · rw [Duration.toNanos_ofNanos, UInt64.toNat_ofBitVec, jittered, if_neg h]
      omega

/-! ## The waits together -/

/-- The wait after an attempt, where a deviation is drawn for each of them. There always is one
(`exists_delay`). -/
def wait (draw : UInt32 → Int64) (k : Nat) : Nat :=
  ((delay? (.ofNat k) (draw (.ofNat k))).map Duration.toNanos).getD 0

/-- What the waits are for which deviations are drawn. -/
structure Table (draw : UInt32 → Int64) : Prop where
  /-- For every attempt the base is worked out without loss. -/
  exists_baseDelay : ∀ k : UInt32, ∃ d, baseDelay? k = some d ∧ d.toNanos = base k.toNat
  /-- So is the wait with its deviation. The first wait has none. -/
  exists_delay : ∀ k : UInt32, ∃ d, delay? k (draw k) = some d ∧ wait draw k.toNat = d.toNanos ∧
    (d.toNanos : Int) = jittered k.toNat (if k = 0 then 0 else (draw k).toInt)
  monotone_base : Monotone base
  sum_base : ∀ m, 1 ≤ m → ∑ k ∈ Finset.range m, base k = millisecond * budget m
  /-- The waits of any number of attempts are within a tenth of that. -/
  sum_wait : ∀ m, 1 ≤ m → m ≤ 2 ^ 32 →
    9 * (millisecond * budget m) ≤ 10 * ∑ k ∈ Finset.range m, wait draw k ∧
      10 * ∑ k ∈ Finset.range m, wait draw k ≤ 11 * (millisecond * budget m)

section Draws

variable {draw : UInt32 → Int64} (hdraw : ∀ k, (draw k).toInt.natAbs ≤ base k.toNat / 10)

include hdraw

/-- A wait is off its base by at most a tenth. -/
theorem wait_bounds {k : Nat} (hk : k < 2 ^ 32) :
    9 * base k ≤ 10 * wait draw k ∧ 10 * wait draw k ≤ 11 * base k := by
  have hnumber : (UInt32.ofNat k).toNat = k := UInt32.toNat_ofNat_of_lt' hk
  have hspread := hdraw (.ofNat k)
  obtain ⟨d, hd, hexact⟩ := exists_delay hspread
  have hwait : wait draw k = d.toNanos := by
    rw [wait, hd]
    rfl
  rw [hnumber] at hspread hexact
  rw [hwait]
  unfold jittered at hexact
  split at hexact <;> omega

theorem sum_wait {m : Nat} (hm : m ≤ 2 ^ 32) :
    9 * ∑ k ∈ Finset.range m, base k ≤ 10 * ∑ k ∈ Finset.range m, wait draw k ∧
      10 * ∑ k ∈ Finset.range m, wait draw k ≤ 11 * ∑ k ∈ Finset.range m, base k := by
  have hbounds : ∀ k ∈ Finset.range m,
      9 * base k ≤ 10 * wait draw k ∧ 10 * wait draw k ≤ 11 * base k := by
    intro k hk
    have hlt : k < m := Finset.mem_range.1 hk
    exact wait_bounds hdraw (by omega)
  simp only [Finset.mul_sum]
  constructor
  · exact Finset.sum_le_sum fun k hk => (hbounds k hk).1
  · exact Finset.sum_le_sum fun k hk => (hbounds k hk).2

theorem table : Table draw where
  exists_baseDelay := exists_baseDelay
  exists_delay := by
    intro k
    obtain ⟨d, hd, hexact⟩ := exists_delay (hdraw k)
    refine ⟨d, hd, ?_, hexact⟩
    rw [wait, UInt32.ofNat_toNat, hd]
    rfl
  monotone_base := monotone_base
  sum_base := fun _ => sum_base
  sum_wait := by
    intro m hpos hm
    rw [← sum_base hpos]
    exact sum_wait hdraw hm

end Draws

end LogEgress.Backoff

namespace LogEgress.Egress.Retry

variable {σ : Type}

/-- The policy with a number of attempts, and with waits whose deviations are drawn. -/
def Policy.backingOff (policy : Policy) (attempts : UInt32) (draw : UInt32 → Int64) : Policy :=
  { policy with maxAttempts := attempts.toNat, delay := Backoff.wait draw }

namespace Trial

/-! ## The waits of a write -/

/-- The waits that are asked for in a write that makes the attempts from 0 to `m`, with the time
that they take. -/
inductive Waits (t : Trial σ) (m : Nat) : Nat → Outcome → Progress → Prop where
  /-- Each attempt but the last is followed by a wait, and all of them are waited out. -/
  | out {o : Outcome} {p : Progress} : o.asked = List.range m →
      Waits t m (∑ k ∈ Finset.range m, t.policy.delay k) o p
  /-- The last attempt is followed by a wait, too, and the cancellation cuts that one short. -/
  | cut {o : Outcome} {p : Progress} {waited : Nat} : o.asked = List.range (m + 1) →
      p.wasCut = true → ∑ k ∈ Finset.range m, t.policy.delay k ≤ waited →
      waited < ∑ k ∈ Finset.range (m + 1), t.policy.delay k → Waits t m waited o p

/-- All attempts fail for the time being, and no cancellation comes before the last one ends. -/
def GivesUp (t : Trial σ) : Prop :=
  (∀ i < t.allowed, (∃ err, t.Fails i err) ∧ ¬ t.CancelledBy i) ∧
    ∀ i, i + 1 < t.allowed → ∀ u, ¬ t.CutAt i u

section Ends

variable {t : Trial σ} {m : Nat} {o : Outcome} {p : Progress}

/-- All time passes in the attempts and in the waits between them. -/
theorem EndsAfter.exists_waits (h : t.EndsAfter m o p) :
    ∃ waited, t.Waits m waited o p ∧
      p.now = t.start.now + (∑ j ∈ Finset.range (m + 1), t.took (t.start.calls + j)) + waited := by
  have hnow := t.now_after m
  cases h with
  | settled => exact ⟨_, .out rfl, hnow⟩
  | cancelled => exact ⟨_, .out rfl, hnow⟩
  | exhausted => exact ⟨_, .out rfl, hnow⟩
  | @cut _ u _ _ _ hu =>
    obtain ⟨-, hle, hlt⟩ := hu
    have hnext : ∑ k ∈ Finset.range (m + 1), t.policy.delay k =
        ∑ k ∈ Finset.range m, t.policy.delay k + t.policy.delay m := Finset.sum_range_succ _ _
    refine ⟨u - (t.start.now + ∑ j ∈ Finset.range (m + 1), t.took (t.start.calls + j)),
      .cut rfl rfl (by omega) (by omega), ?_⟩
    show u = _
    omega

theorem Waits.at_least {waited : Nat} {draw : UInt32 → Int64}
    (htable : Backoff.Table draw) (hdelay : t.policy.delay = Backoff.wait draw)
    (hm : m + 1 < 2 ^ 32) (h : t.Waits m waited o p) (hpos : 1 ≤ m) :
    9 * (Backoff.millisecond * Backoff.budget m) ≤ 10 * waited := by
  have hsum := (htable.sum_wait m hpos (by omega)).1
  rw [← hdelay] at hsum
  cases h with
  | out => exact hsum
  | cut _ _ hle => omega

theorem Waits.at_most {waited : Nat} {draw : UInt32 → Int64}
    (htable : Backoff.Table draw) (hdelay : t.policy.delay = Backoff.wait draw)
    (hm : m + 1 < 2 ^ 32) (h : t.Waits m waited o p) (hpos : 1 ≤ o.asked.length) :
    10 * waited ≤ 11 * (Backoff.millisecond * Backoff.budget o.asked.length) := by
  cases h with
  | out hasked =>
    rw [hasked, List.length_range] at hpos ⊢
    have hsum := (htable.sum_wait m hpos (by omega)).2
    rwa [← hdelay] at hsum
  | cut hasked _ _ hless =>
    rw [hasked, List.length_range] at hpos ⊢
    have hsum := (htable.sum_wait (m + 1) hpos (by omega)).2
    rw [← hdelay] at hsum
    omega

theorem EndsAfter.of_exhausted (h : t.EndsAfter m o p) {err : Error} (hf : t.Fails m err)
    (hopen : ¬ t.CancelledBy m) (hlast : m + 1 = t.allowed) :
    o = ⟨t.answer m, List.range m, [giveUpNotice t.policy.drain t.allowed err]⟩ := by
  cases h with
  | settled hs => exact absurd hf (hs err)
  | cancelled _ hc => exact absurd hc hopen
  | exhausted hf' => rw [hf.unique hf']
  | cut _ _ hlt => omega

/-- A notice tells that the last attempt failed as well. -/
theorem EndsAfter.notices_ne_nil_iff (h : t.EndsAfter m o p) :
    o.notices ≠ [] ↔ (∃ err, t.Fails m err) ∧ ¬ t.CancelledBy m ∧ m + 1 = t.allowed := by
  constructor
  · intro hne
    cases h with
    | settled => exact absurd rfl hne
    | cancelled => exact absurd rfl hne
    | exhausted hf hopen hlast => exact ⟨⟨_, hf⟩, hopen, hlast⟩
    | cut => exact absurd rfl hne
  · rintro ⟨⟨err, hf⟩, hopen, hlast⟩
    rw [h.of_exhausted hf hopen hlast]
    exact List.cons_ne_nil _ _

theorem EndsAfter.givesUp_iff (h : t.EndsAfter m o p) (hlt : m < t.allowed)
    (hgo : ∀ i < m, t.GoesOn i) : o.notices ≠ [] ↔ t.GivesUp := by
  rw [h.notices_ne_nil_iff]
  constructor
  · rintro ⟨hfails, hopen, hlast⟩
    refine ⟨fun i hi => ?_, fun i hi => ?_⟩
    · rcases Nat.eq_or_lt_of_le (show i ≤ m by omega) with rfl | him
      · exact ⟨hfails, hopen⟩
      · obtain ⟨hf, ho, -, -⟩ := hgo i him
        exact ⟨hf, ho⟩
    · exact (hgo i (by omega)).2.2.2
  · rintro ⟨hall, hcut⟩
    obtain ⟨hfails, hopen⟩ := hall m hlt
    refine ⟨hfails, hopen, ?_⟩
    -- Otherwise the write would go on.
    by_contra hnot
    have hanother : m + 1 < t.allowed := by omega
    exact h.not_goesOn ⟨hfails, hopen, hanother, hcut m hanother⟩

end Ends

/-- What a write takes that makes the attempts from 0 to `m`, with the time of its waits. -/
structure Spends (t : Trial σ) (m waited : Nat) (o : Outcome) (p : Progress) : Prop where
  /-- Each attempt but the last failed. Their numbers fit the word in which they are counted. -/
  fails : ∀ i < m, ∃ err, t.Fails i err
  lt_allowed : m < t.allowed
  number_lt : m + 1 < 2 ^ 32
  waits : t.Waits m waited o p
  /-- The rest of the time passes in attempts. -/
  now_eq : p.now = t.start.now + (∑ j ∈ Finset.range (m + 1), t.took (t.start.calls + j)) + waited
  /-- The waits take what is due for those that are waited out, less a tenth, and no more than what
  is due for all that were asked for, and a tenth. -/
  at_least : 1 ≤ m → 9 * (Backoff.millisecond * Backoff.budget m) ≤ 10 * waited
  at_most : 1 ≤ o.asked.length →
    10 * waited ≤ 11 * (Backoff.millisecond * Backoff.budget o.asked.length)
  /-- An envelope that is given up has had one wait less than there are attempts. -/
  given_up_iff : o.notices ≠ [] ↔ t.GivesUp
  given_up : t.GivesUp → 2 ≤ t.policy.maxAttempts →
    m = t.policy.maxAttempts - 1 ∧
      (∃ err, t.Fails m err ∧ o = ⟨t.answer m, List.range m,
        [giveUpNotice t.policy.drain t.policy.maxAttempts err]⟩) ∧
      ∑ k ∈ Finset.range m, Backoff.base k = Backoff.millisecond *
        if t.policy.maxAttempts ≤ 24 then 2 ^ (t.policy.maxAttempts - 2)
        else 2 ^ 22 + (t.policy.maxAttempts - 24) * 2 ^ 21

theorem EndsAfter.spends {t : Trial σ} {m : Nat} {o : Outcome} {p : Progress}
    {draw : UInt32 → Int64} (htable : Backoff.Table draw)
    (hdelay : t.policy.delay = Backoff.wait draw) (hfits : t.policy.maxAttempts < 2 ^ 32)
    (h : t.EndsAfter m o p) (hlt : m < t.allowed) (hgo : ∀ i < m, t.GoesOn i) :
    ∃ waited, t.Spends m waited o p := by
  have hnumber := (h.lawful hlt hgo).number_lt hfits m (le_refl m)
  obtain ⟨waited, hwaits, hnow⟩ := h.exists_waits
  refine ⟨waited, {
    fails := fun i hi => (hgo i hi).1
    lt_allowed := hlt
    number_lt := hnumber
    waits := hwaits
    now_eq := hnow
    at_least := hwaits.at_least htable hdelay hnumber
    at_most := hwaits.at_most htable hdelay hnumber
    given_up_iff := h.givesUp_iff hlt hgo
    given_up := ?_ }⟩
  intro hup htwo
  obtain ⟨⟨err, hf⟩, hopen, hlast⟩ := h.notices_ne_nil_iff.1 ((h.givesUp_iff hlt hgo).2 hup)
  have hallowed : t.allowed = t.policy.maxAttempts := Nat.max_eq_right (by omega)
  have hm : m = t.policy.maxAttempts - 1 := by omega
  refine ⟨hm, ⟨err, hf, ?_⟩, ?_⟩
  · rw [← hallowed]
    exact h.of_exhausted hf hopen hlast
  · rw [htable.sum_base m (by omega), hm, Backoff.budget_sub_one]

/-! ## The law -/

/-- **The budget of an envelope.** Whatever deviations are drawn, of at most a tenth of the bases:
each wait is worked out in machine words without loss, the bases never fall and add up to the
budget, and so do the waits but for a tenth (`Backoff.Table`). Whatever the writer below answers and
whenever the cancellation comes, the waits of a write are those of its failed attempts, in their
order, and a write that gives up took one wait less than attempts (`Spends`). Where attempts take no
time, this is the write of the layer itself. -/
theorem every_envelope_in_budget (draw : UInt32 → Int64)
    (hdraw : ∀ k, (draw k).toInt.natAbs ≤ Backoff.base k.toNat / 10) (attempts : UInt32)
    (policy : Policy) (took : Nat → Nat) (inner : Writer σ) (e : Envelope) (p : Progress) (s : σ) :
    Backoff.Table draw ∧
    (∃ m waited o p', run ⟨policy.backingOff attempts draw, took, inner, e, p, s⟩ =
        (o, p', stateAt ⟨policy.backingOff attempts draw, took, inner, e, p, s⟩ (m + 1)) ∧
      Spends ⟨policy.backingOff attempts draw, took, inner, e, p, s⟩ m waited o p') ∧
    run ⟨policy.backingOff attempts draw, fun _ => 0, inner, e, p, s⟩ =
      write (policy.backingOff attempts draw) inner e p s := by
  have htable := Backoff.table hdraw
  obtain ⟨m, o, p', hrun, hlt, hgo, hends⟩ :=
    exists_run_eq ⟨policy.backingOff attempts draw, took, inner, e, p, s⟩
  obtain ⟨waited, hspends⟩ := hends.spends htable rfl attempts.toNat_lt hlt hgo
  exact ⟨htable, ⟨m, waited, o, p', hrun, hspends⟩, run_eq_write _ inner e p s⟩

/-- Four attempts fail, each after seven units. The waits are one millisecond, one less a tenth, and
two and a tenth of them: 4.1 milliseconds, where four are due. -/
theorem four_attempts_in_budget :
    let draw : UInt32 → Int64 := fun k => if k = 1 then -100000 else if k = 2 then 200000 else 0
    let policy : Policy := ⟨1, Backoff.base, {}, "syslog://drain"⟩
    let t : Trial Script := ⟨policy.backingOff 4 draw, fun _ => 7, Script.writer,
      ⟨"app", "0", 0, {}, some ⟨[104, 105], .out⟩⟩, {},
      .ofAnswers [.error .dialTimeout, .error .ioTimeout, .error .dialTimeout, .error .ioTimeout]
        (.ok ())⟩
    (∀ k, (draw k).toInt.natAbs ≤ Backoff.base k.toNat / 10) ∧ t.GivesUp ∧
      t.run.1 = ⟨.error .ioTimeout, [0, 1, 2], [giveUpNotice "syslog://drain" 4 .ioTimeout]⟩ ∧
      t.run.2.1.now = 4 * 7 + 4100000 ∧
      ∑ k ∈ Finset.range 3, Backoff.base k = Backoff.millisecond * 2 ^ (4 - 2) := by
  intro draw policy t
  have hdraw : ∀ k, (draw k).toInt.natAbs ≤ Backoff.base k.toNat / 10 := by
    intro k
    by_cases hone : k = 1
    · rw [hone]
      decide
    · by_cases htwo : k = 2
      · rw [htwo]
        decide
      · have hnone : draw k = 0 := (if_neg hone).trans (if_neg htwo)
        rw [hnone]
        exact Nat.zero_le _
  have hup : t.GivesUp := by
    refine ⟨fun i hi => ⟨?_, ?_⟩, fun i _ u hu => nomatch hu.1⟩
    · have hlt : i < 4 := hi
      obtain rfl | rfl | rfl | rfl : i = 0 ∨ i = 1 ∨ i = 2 ∨ i = 3 := by omega
      · exact ⟨.dialTimeout, rfl, rfl⟩
      · exact ⟨.ioTimeout, rfl, rfl⟩
      · exact ⟨.dialTimeout, rfl, rfl⟩
      · exact ⟨.ioTimeout, rfl, rfl⟩
    · rintro (hcut | ⟨n, hn, -⟩ | ⟨u, hu, -⟩)
      · cases hcut
      · cases hn
      · cases hu
  obtain ⟨-, ⟨m, waited, o, p, hrun, h⟩, -⟩ := every_envelope_in_budget draw hdraw 4 policy
    t.took t.inner t.envelope t.start t.below
  obtain ⟨hm, ⟨err, hf, ho⟩, hsum⟩ := h.given_up hup (by decide)
  obtain rfl : m = 3 := hm
  obtain rfl : err = .ioTimeout := hf.unique ⟨rfl, rfl⟩
  have htotal : ∑ k ∈ Finset.range 3, Backoff.wait draw k = 4100000 := by decide
  have hwaited : waited = 4100000 := by
    cases h.waits with
    | out => exact htotal
    | cut hmore =>
      rw [ho] at hmore
      cases hmore
  refine ⟨hdraw, hup, ?_, ?_, hsum⟩
  · rw [hrun, ho]
    rfl
  · rw [hrun]
    show p.now = _
    rw [h.now_eq, hwaited]
    rfl

end Trial

end LogEgress.Egress.Retry
