import Mathlib.Tactic.IntervalCases
import Mathlib.Tactic.Common
import QueryCatalog.Calendar.Date

/-!
The count of days and the calendar. Every day number is the number of exactly one date that the
calendar has, and later dates have greater numbers.

Years begin in March here, as they do in the count of days, so that a leap day is the last day of
its year. A cycle is the 400 years after which the calendar repeats.
-/
namespace QueryCatalog.Calendar

/-- Days from the start of a cycle to the first day of one of its years. -/
def cycleDays (year : Nat) : Nat := 365 * year + year / 4 - year / 100

/-- A day of a cycle by its century, its four years in the century and the rest in them. -/
theorem exists_centuries {n : Nat} (h : n < 146097) :
    ∃ a q r, n = 36524 * a + 1461 * q + r ∧ a ≤ 3 ∧ q ≤ 24 ∧ r ≤ 1460 ∧
      (q = 24 → r = 1460 → a = 3) :=
  ⟨min (n / 36524) 3, (n - 36524 * min (n / 36524) 3) / 1461,
    (n - 36524 * min (n / 36524) 3) % 1461, by omega⟩

theorem yearOfCycle_eq {n a q r : Nat} (hn : n = 36524 * a + 1461 * q + r)
    (ha : a ≤ 3) (hq : q ≤ 24) (hr : r ≤ 1460) (hlast : q = 24 → r = 1460 → a = 3) :
    (n - n / 1460 + n / 36524 - n / 146096) / 365 = 100 * a + 4 * q + min (r / 365) 3 := by
  have hday : n / 1460 = 25 * a + q + (24 * a + q + r) / 1460 := by omega
  have hcentury : n / 36524 = a + n / 146096 := by interval_cases a <;> omega
  rw [hday, hcentury]
  omega

/-- The year of a cycle that is computed for a day is the one in which the day lies. -/
theorem yearOfCycle_bounds {n year : Nat} (h : n < 146097)
    (hyear : year = (n - n / 1460 + n / 36524 - n / 146096) / 365) :
    cycleDays year ≤ n ∧ n < cycleDays (year + 1) + (year + 1) / 400 ∧ year < 400 := by
  obtain ⟨a, q, r, hn, ha, hq, hr, hlast⟩ := exists_centuries h
  rw [yearOfCycle_eq hn ha hq hr hlast] at hyear
  unfold cycleDays
  by_cases hrest : r < 1095
  · have hfour : year / 4 = 25 * a + q := by omega
    have hcentury : year / 100 = a := by omega
    have hfour' : (year + 1) / 4 = 25 * a + q := by omega
    have hcentury' : (year + 1) / 100 = a := by omega
    omega
  · -- the last of four years, after which a leap day may come
    have hyear : year = 100 * a + 4 * q + 3 := by omega
    have hfour : year / 4 = 25 * a + q := by omega
    have hcentury : year / 100 = a := by omega
    have hfour' : (year + 1) / 4 = 25 * a + q + 1 := by omega
    by_cases hlast : q = 24
    · have hcentury' : (year + 1) / 100 = a + 1 := by omega
      omega
    · have hcentury' : (year + 1) / 100 = a := by omega
      omega

/-- Days from the start of year 0 to the start of a year. -/
def marchDays (year : Int) : Int := 365 * year + year / 4 - year / 100 + year / 400

theorem marchDays_succ (year : Int) :
    marchDays (year + 1) = marchDays year + (if isLeapYear (year + 1) then 366 else 365) := by
  have hleap : isLeapYear (year + 1) = true ↔
      (year + 1) % 4 = 0 ∧ ((year + 1) % 100 ≠ 0 ∨ (year + 1) % 400 = 0) := by
    simp [isLeapYear]
  unfold marchDays
  by_cases h : isLeapYear (year + 1) = true
  · rw [if_pos h]
    rw [hleap] at h
    omega
  · rw [if_neg h]
    rw [hleap] at h
    omega

theorem marchDays_le {a b : Int} (h : a ≤ b) : marchDays a ≤ marchDays b := by
  unfold marchDays
  omega

theorem marchDays_cycle (cycle : Int) {year : Nat} (h : year < 400) :
    marchDays (cycle * 400 + year) = cycle * 146097 + cycleDays year := by
  unfold marchDays cycleDays
  omega

/-- Months from March. -/
def shiftedMonth (month : Nat) : Nat := if month > 2 then month - 3 else month + 9

/-- Days from the first of March to the first day of a month. -/
def monthStart (shifted : Nat) : Nat := (153 * shifted + 2) / 5

theorem monthStart_le {a b : Nat} (h : a ≤ b) : monthStart a ≤ monthStart b := by
  unfold monthStart
  omega

theorem shiftedMonth_succ_le {month : Nat} (hpos : 1 ≤ month) (hle : month ≤ 12) (hne : month ≠ 2) :
    shiftedMonth month + 1 ≤ 11 := by
  unfold shiftedMonth
  split <;> omega

theorem shiftedMonth_injective {a b : Nat} (ha : 1 ≤ a ∧ a ≤ 12) (hb : 1 ≤ b ∧ b ≤ 12)
    (h : shiftedMonth a = shiftedMonth b) : a = b := by
  unfold shiftedMonth at h
  split at h <;> split at h <;> omega

/-- Only the length of the last month is not in the rule for the first days. -/
theorem monthStart_succ (year : Int) {month : Nat} (hpos : 1 ≤ month) (hle : month ≤ 12)
    (hne : month ≠ 2) : monthStart (shiftedMonth month + 1) =
      monthStart (shiftedMonth month) + daysInMonth year month := by
  interval_cases month <;> first | rfl | exact absurd rfl hne

namespace Date

variable {d e : Date}

/-- The calendar has this day in this month. -/
structure InMonth (d : Date) : Prop where
  month_pos : 1 ≤ d.month
  month_le : d.month ≤ 12
  day_pos : 1 ≤ d.day
  day_le : d.day ≤ daysInMonth d.year d.month

theorem valid_iff : d.valid = true ↔ d.InMonth ∧ minYear ≤ d.year ∧ d.year ≤ maxYear := by
  simp only [valid, Bool.and_eq_true, decide_eq_true_eq]
  constructor
  · rintro ⟨⟨⟨⟨⟨hlow, hhigh⟩, hmonth⟩, hmonth'⟩, hday⟩, hday'⟩
    exact ⟨⟨hmonth, hmonth', hday, hday'⟩, hlow, hhigh⟩
  · rintro ⟨⟨hmonth, hmonth', hday, hday'⟩, hlow, hhigh⟩
    exact ⟨⟨⟨⟨⟨hlow, hhigh⟩, hmonth⟩, hmonth'⟩, hday⟩, hday'⟩

def marchYear (d : Date) : Int := if d.month ≤ 2 then d.year - 1 else d.year

/-- Days since the first of March. -/
def dayOfYear (d : Date) : Nat := monthStart (shiftedMonth d.month) + d.day - 1

theorem dayNumber_eq (d : Date) :
    d.dayNumber = marchDays d.marchYear + d.dayOfYear - 719468 := by
  have hnumber : d.dayNumber = d.marchYear / 400 * 146097 +
      ((d.marchYear % 400).toNat * 365 + (d.marchYear % 400).toNat / 4 -
        (d.marchYear % 400).toNat / 100 + d.dayOfYear : Nat) - 719468 := rfl
  rw [hnumber, marchDays]
  omega

theorem dayOfYear_lt (h : d.InMonth) :
    marchDays d.marchYear + d.dayOfYear < marchDays (d.marchYear + 1) := by
  obtain ⟨hmonth, hmonth', hday, hday'⟩ := h
  rw [marchDays_succ]
  unfold dayOfYear marchYear
  by_cases hlast : d.month = 2
  · rw [hlast] at hday' ⊢
    have hyear : d.year - 1 + 1 = d.year := by omega
    have hstart : monthStart (shiftedMonth 2) = 337 := rfl
    rw [if_pos (le_refl 2), hyear, hstart]
    change d.day ≤ if isLeapYear d.year then 29 else 28 at hday'
    split at hday' <;> split <;> omega
  · have hnext := monthStart_succ d.year hmonth hmonth' hlast
    have hend := monthStart_le (shiftedMonth_succ_le hmonth hmonth' hlast)
    have hlength : monthStart 11 = 337 := rfl
    split <;> split <;> omega

/-- In a year, a later month has later days. -/
theorem dayOfYear_lt_of_month (hd : d.InMonth) (he : e.InMonth)
    (h : shiftedMonth d.month < shiftedMonth e.month) : d.dayOfYear < e.dayOfYear := by
  have hlast : d.month ≠ 2 := by
    intro hlast
    have heleven : shiftedMonth 2 = 11 := rfl
    rw [hlast, heleven, shiftedMonth] at h
    have := he.month_le
    split at h <;> omega
  have hnext := monthStart_succ d.year hd.month_pos hd.month_le hlast
  have hstart : monthStart (shiftedMonth d.month + 1) ≤ monthStart (shiftedMonth e.month) :=
    monthStart_le h
  have hday := hd.day_le
  have hpos := he.day_pos
  have hpos' := hd.day_pos
  unfold dayOfYear
  omega

theorem marchYear_le (he : e.InMonth) (h : d.dayNumber ≤ e.dayNumber) :
    d.marchYear ≤ e.marchYear := by
  by_contra hlater
  have hmarch : marchDays (e.marchYear + 1) ≤ marchDays d.marchYear := marchDays_le (by omega)
  have hend := dayOfYear_lt he
  rw [dayNumber_eq, dayNumber_eq] at h
  omega

/-- Later days lie in later years. -/
theorem year_le (hd : d.InMonth) (he : e.InMonth) (h : d.dayNumber ≤ e.dayNumber) :
    d.year ≤ e.year := by
  have hmarch := marchYear_le he h
  by_cases hsame : d.marchYear = e.marchYear
  · have hmonth : ¬shiftedMonth e.month < shiftedMonth d.month := by
      intro hbefore
      have hday := dayOfYear_lt_of_month he hd hbefore
      rw [dayNumber_eq, dayNumber_eq, hsame] at h
      omega
    unfold shiftedMonth at hmonth
    unfold marchYear at hsame
    have := hd.month_pos
    have := he.month_le
    split at hmonth <;> split at hmonth <;> split at hsame <;> split at hsame <;> omega
  · unfold marchYear at hsame hmarch
    split at hsame <;> split at hsame <;> omega

theorem dayNumber_lt_of_year (hd : d.InMonth) (he : e.InMonth) (h : d.year < e.year) :
    d.dayNumber < e.dayNumber := by
  by_contra hlater
  exact absurd (year_le he hd (Int.not_lt.mp hlater)) (Int.not_le.mpr h)

/-- Two dates have different day numbers. -/
theorem eq_of_dayNumber (hd : d.InMonth) (he : e.InMonth) (h : d.dayNumber = e.dayNumber) :
    d = e := by
  have hmarch : d.marchYear = e.marchYear :=
    Int.le_antisymm (marchYear_le he (Int.le_of_eq h)) (marchYear_le hd (Int.le_of_eq h.symm))
  have hday : d.dayOfYear = e.dayOfYear := by
    rw [dayNumber_eq, dayNumber_eq, hmarch] at h
    omega
  have hshifted : shiftedMonth d.month = shiftedMonth e.month := by
    rcases Nat.lt_trichotomy (shiftedMonth d.month) (shiftedMonth e.month) with hlt | heq | hgt
    · exact absurd hday (Nat.ne_of_lt (dayOfYear_lt_of_month hd he hlt))
    · exact heq
    · exact absurd hday (Nat.ne_of_gt (dayOfYear_lt_of_month he hd hgt))
  obtain ⟨year, month, day⟩ := d
  obtain ⟨year', month', day'⟩ := e
  have hmonth : month = month' := shiftedMonth_injective ⟨hd.month_pos, hd.month_le⟩
    ⟨he.month_pos, he.month_le⟩ hshifted
  subst hmonth
  have hday' : day = day' := by
    have := hd.day_pos
    have := he.day_pos
    unfold dayOfYear at hday
    dsimp only at *
    omega
  have hyear : year = year' := by
    unfold marchYear at hmarch
    dsimp only at hmarch
    split at hmarch <;> omega
  rw [hday', hyear]

/-- The date of a year and a day of it. -/
def ofYearDay (year : Int) (day : Nat) : Date :=
  let shifted := (5 * day + 2) / 153
  let month := if shifted < 10 then shifted + 3 else shifted - 9
  ⟨if month ≤ 2 then year + 1 else year, month, day - monthStart shifted + 1⟩

theorem ofDayNumber_eq (n : Int) : ∃ year : Int, ∃ day : Nat, ofDayNumber n = ofYearDay year day ∧
    n = marchDays year + day - 719468 ∧ marchDays year + day < marchDays (year + 1) := by
  obtain ⟨k, hk⟩ : ∃ k : Nat, (n + 719468) % 146097 = k :=
    Int.eq_ofNat_of_zero_le (Int.emod_nonneg _ (by decide))
  have hlt : k < 146097 := by omega
  obtain ⟨year, hyear⟩ : ∃ year, year = (k - k / 1460 + k / 36524 - k / 146096) / 365 := ⟨_, rfl⟩
  obtain ⟨hstart, hend, hcycle⟩ := yearOfCycle_bounds hlt hyear
  refine ⟨(n + 719468) / 146097 * 400 + year, k - cycleDays year, ?_, ?_, ?_⟩
  · unfold ofDayNumber
    dsimp only
    rw [hk, Int.toNat_natCast, ← hyear]
    rfl
  · rw [marchDays_cycle _ hcycle]
    omega
  · have hnext : marchDays ((n + 719468) / 146097 * 400 + year + 1) =
        (n + 719468) / 146097 * 146097 + (cycleDays (year + 1) + (year + 1) / 400 : Nat) := by
      unfold marchDays cycleDays
      omega
    rw [hnext, marchDays_cycle _ hcycle]
    omega

/-- A day of a year that is not before the start of a month, and before its end, is in this
month. -/
theorem inMonth_of_day {year : Int} {month day : Nat} (hpos : 1 ≤ month) (hle : month ≤ 12)
    (hstart : monthStart (shiftedMonth month) ≤ day)
    (hend : day < monthStart (shiftedMonth month) + daysInMonth year month) :
    InMonth ⟨year, month, day - monthStart (shiftedMonth month) + 1⟩ ∧
      dayOfYear ⟨year, month, day - monthStart (shiftedMonth month) + 1⟩ = day := by
  refine ⟨⟨hpos, hle, Nat.succ_pos _, ?_⟩, ?_⟩
  · dsimp only
    omega
  · unfold dayOfYear
    dsimp only
    omega

theorem ofYearDay_spec {year : Int} {day : Nat}
    (h : marchDays year + day < marchDays (year + 1)) :
    (ofYearDay year day).InMonth ∧ (ofYearDay year day).marchYear = year ∧
      (ofYearDay year day).dayOfYear = day := by
  rw [marchDays_succ] at h
  obtain ⟨shifted, hshifted⟩ : ∃ shifted, shifted = (5 * day + 2) / 153 := ⟨_, rfl⟩
  have hstart : monthStart shifted ≤ day := by
    unfold monthStart
    omega
  have hnext : day < monthStart (shifted + 1) := by
    unfold monthStart
    omega
  have hend : day ≤ 365 := by split at h <;> omega
  unfold ofYearDay
  dsimp only
  rw [← hshifted]
  by_cases hspring : shifted < 10
  · have hmonth : shiftedMonth (shifted + 3) = shifted := if_pos (by omega)
    have hlength := @monthStart_succ year (shifted + 3) (by omega) (by omega) (by omega)
    have hlate : ¬shifted + 3 ≤ 2 := by omega
    rw [hmonth] at hlength
    rw [if_pos hspring, if_neg hlate]
    have hspec := @inMonth_of_day year (shifted + 3) day (by omega) (by omega)
      (by rw [hmonth]; exact hstart) (by rw [hmonth]; omega)
    rw [hmonth] at hspec
    exact ⟨hspec.1, if_neg hlate, hspec.2⟩
  · rw [if_neg hspring]
    have hwinter : shifted = 10 ∨ shifted = 11 := by omega
    rcases hwinter with rfl | rfl
    · have hspec := @inMonth_of_day (year + 1) 1 day (by decide) (by decide) hstart hnext
      exact ⟨hspec.1, Int.add_sub_cancel year 1, hspec.2⟩
    · -- the leap day is the last one of the year
      have hlast : day < monthStart 11 + daysInMonth (year + 1) 2 := by
        change day < 337 + if isLeapYear (year + 1) then 29 else 28
        split at h <;> split <;> omega
      have hspec := @inMonth_of_day (year + 1) 2 day (by decide) (by decide) hstart hlast
      exact ⟨hspec.1, Int.add_sub_cancel year 1, hspec.2⟩

theorem inMonth_ofDayNumber (n : Int) : (ofDayNumber n).InMonth := by
  obtain ⟨year, day, heq, -, hlt⟩ := ofDayNumber_eq n
  rw [heq]
  exact (ofYearDay_spec hlt).1

/-- Every number is the number of a date. -/
theorem dayNumber_ofDayNumber (n : Int) : (ofDayNumber n).dayNumber = n := by
  obtain ⟨year, day, heq, hn, hlt⟩ := ofDayNumber_eq n
  obtain ⟨-, hyear, hday⟩ := ofYearDay_spec hlt
  rw [heq, dayNumber_eq, hyear, hday, hn]

/-- The date is found again from its number. -/
theorem ofDayNumber_dayNumber (h : d.InMonth) : ofDayNumber d.dayNumber = d :=
  eq_of_dayNumber (inMonth_ofDayNumber _) h (dayNumber_ofDayNumber _)

example : ofDayNumber (dayNumber ⟨2000, 2, 29⟩) = ⟨2000, 2, 29⟩ := by decide

/-- Days between two dates lie between their years. -/
theorem year_ofDayNumber {n : Int} (hd : d.InMonth) (he : e.InMonth) (hfirst : d.dayNumber ≤ n)
    (hlast : n ≤ e.dayNumber) : d.year ≤ (ofDayNumber n).year ∧ (ofDayNumber n).year ≤ e.year := by
  have hn := inMonth_ofDayNumber n
  rw [← dayNumber_ofDayNumber n] at hfirst hlast
  exact ⟨year_le hd hn hfirst, year_le hn he hlast⟩

end Date

end QueryCatalog.Calendar
