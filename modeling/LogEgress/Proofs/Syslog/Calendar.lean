import LogEgress.Syslog.Timestamp
import Mathlib.Algebra.BigOperators.Intervals
import Mathlib.Algebra.Order.BigOperators.Group.Finset
import Mathlib.Order.Interval.Finset.Nat

set_option autoImplicit false

/-! # The Gregorian calendar

The calendar is given by the lengths of its years and months alone: the number of a day is the
number of days in all years and months before it. A timestamp is taken apart by other means, an
estimate of the year and a walk over the months, and `ofNanoseconds_spec` says that this comes to
the same: the date and the time of day are valid, and they stand for the timestamp.

Valid times are in the order in which their parts are compared from the left
(`Valid.toNanoseconds_lt`).
-/

namespace LogEgress.Syslog

/-! ## Days -/

/-- Every fourth year has a 29th of February, but of the hundredth ones only every fourth. -/
def Leap (year : Nat) : Prop := 4 ∣ year ∧ (100 ∣ year → 400 ∣ year)

instance (year : Nat) : Decidable (Leap year) :=
  inferInstanceAs (Decidable (_ ∧ (_ → _)))

/-- The number of days of a year. -/
def yearLength (year : Nat) : Nat := if Leap year then 366 else 365

/-- The number of days of a month, from 1. -/
def monthLength (year month : Nat) : Nat :=
  if month = 2 then if Leap year then 29 else 28
  else if month ∈ [4, 6, 9, 11] then 30
  else 31

/-- The number of a day, counted from the beginning of year 0. -/
def dayNumber (year month day : Nat) : Nat :=
  ∑ y ∈ Finset.range year, yearLength y + ∑ m ∈ Finset.Ico 1 month, monthLength year m + (day - 1)

theorem isLeap_iff (year : Nat) : isLeap year = true ↔ Leap year := by
  simp only [isLeap, Leap, Bool.and_eq_true, Bool.or_eq_true, beq_iff_eq, bne_iff_ne]
  omega

theorem monthLengths_eq (year : Nat) :
    monthLengths year = (List.range' 1 12).map (monthLength year) := by
  unfold monthLengths
  by_cases h : Leap year
  · rw [if_pos ((isLeap_iff year).2 h)]
    simp [List.range', monthLength, h]
  · rw [if_neg (mt (isLeap_iff year).1 h)]
    simp [List.range', monthLength, h]

/-- A year is as long as its months. -/
theorem sum_monthLength (year : Nat) :
    ∑ m ∈ Finset.Ico 1 13, monthLength year m = yearLength year := by
  unfold yearLength
  by_cases h : Leap year <;> simp [Finset.sum_Ico_succ_top, monthLength, h]

/-! ## Years -/

/-- Each of the three terms for leap years counts the multiples of its number. -/
theorem daysBefore_succ (year : Nat) :
    daysBefore (year + 1) = daysBefore year + yearLength year := by
  have hfour : (year + 1 + 3) / 4 = (year + 3) / 4 + if 4 ∣ year then 1 else 0 := by
    split <;> omega
  have hhundred : (year + 1 + 99) / 100 = (year + 99) / 100 + if 100 ∣ year then 1 else 0 := by
    split <;> omega
  have hcycle : (year + 1 + 399) / 400 = (year + 399) / 400 + if 400 ∣ year then 1 else 0 := by
    split <;> omega
  have hle : (year + 99) / 100 ≤ (year + 3) / 4 := by omega
  rw [daysBefore, daysBefore, hfour, hhundred, hcycle, yearLength]
  generalize (year + 3) / 4 = fours at *
  generalize (year + 99) / 100 = hundreds at *
  -- A multiple of 400 is one of 100, and a multiple of 100 is one of 4.
  by_cases h4 : 4 ∣ year
  · by_cases h100 : 100 ∣ year
    · by_cases h400 : 400 ∣ year
      · rw [if_pos h4, if_pos h100, if_pos h400, if_pos ⟨h4, fun _ => h400⟩]
        omega
      · rw [if_pos h4, if_pos h100, if_neg h400, if_neg fun h => h400 (h.2 h100)]
        omega
    · rw [if_pos h4, if_neg h100, if_neg (by omega), if_pos ⟨h4, fun h => absurd h h100⟩]
      omega
  · rw [if_neg h4, if_neg (by omega), if_neg (by omega), if_neg fun h => h4 h.1]
    omega

theorem daysBefore_eq (year : Nat) :
    daysBefore year = ∑ y ∈ Finset.range year, yearLength y := by
  induction year with
  | zero => rfl
  | succ year ih => rw [daysBefore_succ, Finset.sum_range_succ, ih]

/-- A year has 146097 / 400 days on the average, and never strays from that by two days. -/
theorem daysBefore_bounds (year : Nat) :
    146097 * year ≤ 400 * daysBefore year + 399 ∧ 400 * daysBefore year ≤ 146097 * year + 700 := by
  unfold daysBefore
  omega

/-- The mean length of a year gives the year of a day, or one next to it. -/
theorem daysBefore_yearOf (day : Nat) :
    daysBefore (yearOf day) ≤ day ∧ day < daysBefore (yearOf day + 1) := by
  unfold yearOf
  dsimp only
  have hlow : 146097 * (day * 400 / 146097) ≤ day * 400 := Nat.mul_div_le _ _
  have hhigh : day * 400 < 146097 * (day * 400 / 146097 + 1) := Nat.lt_mul_div_succ _ (by decide)
  -- From here on the estimate is known by these two bounds alone.
  generalize day * 400 / 146097 = year at hlow hhigh
  split
  · next hbefore =>
    obtain ⟨year, rfl⟩ : ∃ k, year = k + 1 := Nat.exists_eq_succ_of_ne_zero fun hzero => by
      subst hzero
      exact absurd hbefore (Nat.not_lt_zero day)
    have := daysBefore_bounds year
    rw [Nat.add_sub_cancel]
    omega
  · have := daysBefore_bounds (year + 1 + 1)
    split <;> omega

/-! ## Months -/

/-- Walking over months ends in the one that a day belongs to. -/
theorem monthOf_spec {length : Nat → Nat} {n first day : Nat}
    (h : day < ∑ m ∈ Finset.Ico first (first + n), length m) :
    ∃ month rest, monthOf first ((List.range' first n).map length) day = (month, rest + 1) ∧
      first ≤ month ∧ month < first + n ∧ rest < length month ∧
      day = ∑ m ∈ Finset.Ico first month, length m + rest := by
  induction n generalizing first day with
  | zero => simp at h
  | succ n ih =>
    rw [List.range'_succ, List.map_cons, monthOf]
    by_cases hday : day < length first
    · exact ⟨first, day, if_pos hday, by omega, by omega, hday, by simp⟩
    · rw [if_neg hday]
      rw [Finset.sum_eq_sum_Ico_succ_bot (by omega),
        show first + (n + 1) = first + 1 + n by omega] at h
      have hafter : day - length first < ∑ m ∈ Finset.Ico (first + 1) (first + 1 + n), length m := by
        omega
      obtain ⟨month, rest, hmonth, hfirst, hlast, hrest, hsum⟩ := ih hafter
      refine ⟨month, rest, hmonth, by omega, by omega, hrest, ?_⟩
      rw [Finset.sum_eq_sum_Ico_succ_bot (by omega)]
      omega

namespace CivilTime

/-! ## Times -/

/-- A date that the calendar has, and a time of day. -/
structure Valid (c : CivilTime) : Prop where
  month_pos : 1 ≤ c.month
  month_le : c.month ≤ 12
  day_pos : 1 ≤ c.day
  day_le : c.day ≤ monthLength c.year c.month
  hour_lt : c.hour < 24
  minute_lt : c.minute < 60
  second_lt : c.second < 60
  nanosecond_lt : c.nanosecond < 1000000000

/-- The seconds of the day before a time. -/
def secondOfDay (c : CivilTime) : Nat := (c.hour * 60 + c.minute) * 60 + c.second

/-- The number of a time's day. -/
def dayOf (c : CivilTime) : Nat := dayNumber c.year c.month c.day

/-- The nanoseconds from the beginning of 1970 to a time, each day with 86400 seconds. -/
def toNanoseconds (c : CivilTime) : Int :=
  (((c.dayOf : Int) - dayNumber 1970 1 1) * 86400 + c.secondOfDay) * 1000000000 + c.nanosecond

theorem epoch_eq : epoch = dayNumber 1970 1 1 := by
  rw [dayNumber, ← daysBefore_eq]
  decide

/-- The date of a day is one that the calendar has, and it is the date of that day. -/
theorem date_spec (day : Nat) :
    ∃ month rest, monthOf 1 (monthLengths (yearOf day)) (day - daysBefore (yearOf day)) =
        (month, rest + 1) ∧ 1 ≤ month ∧ month ≤ 12 ∧ rest < monthLength (yearOf day) month ∧
      dayNumber (yearOf day) month (rest + 1) = day := by
  obtain ⟨hbegun, hover⟩ := daysBefore_yearOf day
  rw [daysBefore_succ] at hover
  have hwithin : day - daysBefore (yearOf day) <
      ∑ m ∈ Finset.Ico 1 (1 + 12), monthLength (yearOf day) m := by
    rw [sum_monthLength]
    omega
  obtain ⟨month, rest, hmonth, hfirst, hlast, hrest, hsum⟩ := monthOf_spec hwithin
  refine ⟨month, rest, monthLengths_eq _ ▸ hmonth, hfirst, by omega, hrest, ?_⟩
  rw [dayNumber, ← daysBefore_eq, Nat.add_sub_cancel]
  omega

/-- **A timestamp is taken apart by the calendar.** From the beginning of year 0 on, its date and
time of day are valid, and they stand for it. -/
theorem ofNanoseconds_spec {t : Int} (h : 0 ≤ t / 86400000000000 + epoch) :
    (ofNanoseconds t).Valid ∧ (ofNanoseconds t).toNanoseconds = t := by
  obtain ⟨month, rest, hmonth, hfirst, hlast, hrest, hday⟩ :=
    date_spec (t / 86400000000000 + epoch).toNat
  have htime : ofNanoseconds t = {
      year := yearOf (t / 86400000000000 + epoch).toNat, month := month, day := rest + 1,
      hour := (t % 86400000000000).toNat / 1000000000 / 3600,
      minute := (t % 86400000000000).toNat / 1000000000 / 60 % 60,
      second := (t % 86400000000000).toNat / 1000000000 % 60,
      nanosecond := (t % 86400000000000).toNat % 1000000000 } := by
    unfold ofNanoseconds
    dsimp only
    rw [hmonth]
  rw [htime]
  refine ⟨⟨hfirst, hlast, Nat.le_add_left 1 rest, hrest, ?_, ?_, ?_, ?_⟩, ?_⟩
  · show (t % 86400000000000).toNat / 1000000000 / 3600 < 24
    omega
  · exact Nat.mod_lt _ (by decide)
  · exact Nat.mod_lt _ (by decide)
  · exact Nat.mod_lt _ (by decide)
  · rw [toNanoseconds, dayOf, hday, ← epoch_eq]
    simp only [secondOfDay]
    omega

/-! ## The order of times -/

/-- The parts of a time, the greatest unit first. -/
def parts (c : CivilTime) : List Nat :=
  [c.year, c.month, c.day, c.hour, c.minute, c.second, c.nanosecond]

theorem parts_inj {c c' : CivilTime} : c.parts = c'.parts ↔ c = c' := by
  cases c
  cases c'
  simp [parts]

variable {c c' : CivilTime}

/-- A day lies in its year. -/
theorem Valid.dayOf_bounds (h : c.Valid) :
    daysBefore c.year ≤ c.dayOf ∧ c.dayOf < daysBefore (c.year + 1) := by
  have hmonths : ∑ m ∈ Finset.Ico 1 (c.month + 1), monthLength c.year m ≤ yearLength c.year := by
    rw [← sum_monthLength]
    exact Finset.sum_le_sum_of_subset
      (Finset.Ico_subset_Ico (Nat.le_refl 1) (Nat.succ_le_succ h.month_le))
  rw [Finset.sum_Ico_succ_top h.month_pos] at hmonths
  have := h.day_pos
  have := h.day_le
  rw [daysBefore_succ, dayOf, dayNumber, ← daysBefore_eq]
  omega

theorem daysBefore_mono {y y' : Nat} (h : y ≤ y') : daysBefore y ≤ daysBefore y' := by
  rw [daysBefore_eq, daysBefore_eq]
  exact Finset.sum_le_sum_of_subset (Finset.range_mono h)

theorem Valid.dayOf_lt_of_year_lt (h : c.Valid) (h' : c'.Valid) (hyear : c.year < c'.year) :
    c.dayOf < c'.dayOf :=
  calc c.dayOf < daysBefore (c.year + 1) := h.dayOf_bounds.2
    _ ≤ daysBefore c'.year := daysBefore_mono hyear
    _ ≤ c'.dayOf := h'.dayOf_bounds.1

theorem Valid.dayOf_lt_of_month_lt (h : c.Valid) (hyear : c.year = c'.year)
    (hmonth : c.month < c'.month) : c.dayOf < c'.dayOf := by
  have hmonths : ∑ m ∈ Finset.Ico 1 (c.month + 1), monthLength c.year m ≤
      ∑ m ∈ Finset.Ico 1 c'.month, monthLength c.year m :=
    Finset.sum_le_sum_of_subset (Finset.Ico_subset_Ico (Nat.le_refl 1) hmonth)
  rw [Finset.sum_Ico_succ_top h.month_pos] at hmonths
  have := h.day_pos
  have := h.day_le
  rw [dayOf, dayOf, dayNumber, dayNumber, ← hyear]
  omega

theorem Valid.secondOfDay_lt (h : c.Valid) : c.secondOfDay < 86400 := by
  have := h.hour_lt
  have := h.minute_lt
  have := h.second_lt
  unfold secondOfDay
  omega

/-- The earlier day has the earlier times. -/
theorem Valid.lt_of_dayOf_lt (h : c.Valid) (hday : c.dayOf < c'.dayOf) :
    c.toNanoseconds < c'.toNanoseconds := by
  have := h.secondOfDay_lt
  have := h.nanosecond_lt
  unfold toNanoseconds
  omega

/-- On one day the time of day decides. -/
theorem Valid.lt_of_secondOfDay_lt (h : c.Valid) (hday : c.dayOf = c'.dayOf)
    (hsecond : c.secondOfDay < c'.secondOfDay) : c.toNanoseconds < c'.toNanoseconds := by
  have := h.nanosecond_lt
  unfold toNanoseconds
  omega

/-- **Valid times are in the order of their parts**, compared from the left. -/
theorem Valid.toNanoseconds_lt (h : c.Valid) (h' : c'.Valid) (hparts : c.parts < c'.parts) :
    c.toNanoseconds < c'.toNanoseconds := by
  simp only [parts, List.cons_lt_cons_iff, List.lt_irrefl, and_false, or_false] at hparts
  rcases hparts with hyear | ⟨hyear, hmonth | ⟨hmonth, hday | ⟨hday, htime⟩⟩⟩
  · exact h.lt_of_dayOf_lt (h.dayOf_lt_of_year_lt h' hyear)
  · exact h.lt_of_dayOf_lt (h.dayOf_lt_of_month_lt hyear hmonth)
  · refine h.lt_of_dayOf_lt ?_
    have := h.day_pos
    rw [dayOf, dayOf, dayNumber, dayNumber, ← hyear, ← hmonth]
    omega
  have hday : c.dayOf = c'.dayOf := by rw [dayOf, dayOf, hyear, hmonth, hday]
  have := h.minute_lt
  have := h.second_lt
  rcases htime with hhour | ⟨hhour, hminute | ⟨hminute, hsecond | ⟨hsecond, hnanosecond⟩⟩⟩
  · refine h.lt_of_secondOfDay_lt hday ?_
    unfold secondOfDay
    omega
  · refine h.lt_of_secondOfDay_lt hday ?_
    unfold secondOfDay
    omega
  · refine h.lt_of_secondOfDay_lt hday ?_
    unfold secondOfDay
    omega
  · unfold toNanoseconds secondOfDay
    omega

/-- The converse holds since the parts of two times can be compared. -/
theorem Valid.parts_lt (h : c.Valid) (h' : c'.Valid) (hlt : c.toNanoseconds < c'.toNanoseconds) :
    c.parts < c'.parts := by
  rcases lt_trichotomy c.parts c'.parts with hparts | hparts | hparts
  · exact hparts
  · rw [parts_inj.1 hparts] at hlt
    exact absurd hlt (Int.lt_irrefl _)
  · exact absurd (h'.toNanoseconds_lt h hparts) (lt_asymm hlt)

end CivilTime

end LogEgress.Syslog
