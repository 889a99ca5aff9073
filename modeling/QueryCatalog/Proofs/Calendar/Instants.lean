import QueryCatalog.Proofs.Calendar.Notation

/-!
Where instants come from. Every instant that is read from text, in any of the notations, or that
stands for milliseconds since 1970 is on a date of the calendar and inside its minute. An offset
may move an instant over the end of a year, but never out of the range of years.
-/
namespace QueryCatalog

namespace Calendar

open Text

/-- A day between two dates of the calendar is one of its dates. -/
theorem valid_ofDayNumber {d e : Date} {n : Int} (hd : d.valid = true) (he : e.valid = true)
    (hfirst : d.dayNumber ≤ n) (hlast : n ≤ e.dayNumber) : (Date.ofDayNumber n).valid = true := by
  obtain ⟨hd, hlow, -⟩ := Date.valid_iff.mp hd
  obtain ⟨he, -, hhigh⟩ := Date.valid_iff.mp he
  obtain ⟨hafter, hbefore⟩ := Date.year_ofDayNumber hd he hfirst hlast
  exact Date.valid_iff.mpr ⟨Date.inMonth_ofDayNumber n, Int.le_trans hlow hafter,
    Int.le_trans hbefore hhigh⟩

namespace Instant

variable {i : Instant} {d : Date} {cs rest : List Char}

theorem date_atTime (hd : d.InMonth) {hour minute second milli : Nat} (hhour : hour < 24)
    (hminute : minute < 60) : (atTime d hour minute second milli).date = d := by
  have hday : (d.dayNumber * 1440 + hour * 60 + minute) / 1440 = d.dayNumber := by omega
  unfold atTime date
  rw [hday, Date.ofDayNumber_dayNumber hd]

theorem sound_atTime (hd : d.valid = true) {hour minute second milli : Nat} (hhour : hour < 24)
    (hminute : minute < 60) (hsecond : second ≤ 60) (hmilli : milli < 1000) :
    (atTime d hour minute second milli).Sound := by
  refine ⟨?_, hsecond, hmilli⟩
  rw [date_atTime (Date.valid_iff.mp hd).1 hhour hminute]
  exact hd

/-- Milliseconds since 1970 stand for instants of the calendar. -/
theorem sound_of_millis {n : Int} (h : ofMillis? n = some i) : i.Sound := by
  unfold ofMillis? at h
  split at h
  · rename_i hrange
    unfold minMillis maxMillis at hrange
    obtain rfl := Option.some.inj h
    refine ⟨?_, ?_, ?_⟩
    · have hmin : (⟨minYear, 1, 1⟩ : Date).dayNumber = -96465292 := rfl
      have hmax : (⟨maxYear, 12, 31⟩ : Date).dayNumber = 95026236 := rfl
      apply @valid_ofDayNumber ⟨minYear, 1, 1⟩ ⟨maxYear, 12, 31⟩ _ rfl rfl
      · rw [hmin]
        dsimp only
        omega
      · rw [hmax]
        dsimp only
        omega
    · dsimp only
      omega
    · dsimp only
      omega
  · cases h

theorem readDate_valid (h : readDate cs = some (d, rest)) : d.valid = true := by
  unfold readDate at h
  obtain ⟨⟨year, cs⟩, -, h⟩ := Option.bind_eq_some_iff.mp h
  obtain ⟨cs, -, h⟩ := Option.bind_eq_some_iff.mp h
  obtain ⟨⟨month, cs⟩, -, h⟩ := Option.bind_eq_some_iff.mp h
  obtain ⟨cs, -, h⟩ := Option.bind_eq_some_iff.mp h
  obtain ⟨⟨day, cs⟩, -, h⟩ := Option.bind_eq_some_iff.mp h
  dsimp only at h
  split at h
  · cases h
    assumption
  · cases h

theorem valid_of_dateParse (h : Date.parse? cs = some d) : d.valid = true := by
  unfold Date.parse? at h
  split at h
  · rename_i hread
    cases h
    exact readDate_valid hread
  · cases h

theorem readExact_lt {width n : Nat} (h : readExact width cs = some (n, rest)) :
    n < 10 ^ width := by
  unfold readExact at h
  dsimp only at h
  split at h
  · rename_i hdigits
    rw [Bool.and_eq_true, beq_iff_eq] at hdigits
    cases h
    have hlt := digitsValue_lt (List.all_eq_true.mp hdigits.2)
    rwa [hdigits.1] at hlt
  · cases h

theorem readFraction_lt {milli : Nat} (h : readFraction cs = some (milli, rest)) :
    milli < 1000 := by
  unfold readFraction at h
  split at h
  · dsimp only at h
    split at h
    · cases h
    · rename_i digits _
      cases h
      have hdigits : ∀ c ∈ (digits.takeWhile Char.isDigit ++ ['0', '0']).take 3,
          c.isDigit = true := by
        intro c hc
        rcases List.mem_append.mp (List.mem_of_mem_take hc) with hc | hc
        · exact List.mem_takeWhile_imp hc
        · simp only [List.mem_cons, List.not_mem_nil, or_false, or_self] at hc
          rw [hc]
          rfl
      exact Nat.lt_of_lt_of_le (digitsValue_lt hdigits)
        (Nat.pow_le_pow_right (by decide) (List.length_take_le _ _))
  · cases h
    decide

theorem readSpan_lt {n : Nat} (h : readSpan cs = some (n, rest)) : n < 1440 := by
  unfold readSpan at h
  obtain ⟨⟨hours, cs⟩, -, h⟩ := Option.bind_eq_some_iff.mp h
  obtain ⟨cs, -, h⟩ := Option.bind_eq_some_iff.mp h
  obtain ⟨⟨minutes, cs⟩, -, h⟩ := Option.bind_eq_some_iff.mp h
  dsimp only at h
  split at h
  · rename_i hday
    simp only [Bool.and_eq_true, decide_eq_true_eq] at hday
    cases h
    omega
  · cases h

theorem signed_bounds {sign : Nat → Int} (hsign : ∀ n < 1440, -1440 < sign n ∧ sign n < 1440)
    {offset : Int}
    (h : (readSpan cs).map (fun (n, rest) => (sign n, rest)) = some (offset, rest)) :
    -1440 < offset ∧ offset < 1440 := by
  obtain ⟨⟨n, more⟩, hn, heq⟩ := Option.map_eq_some_iff.mp h
  cases heq
  exact hsign n (readSpan_lt hn)

/-- An offset is less than a day. -/
theorem readOffset_bounds {offset : Int} (h : readOffset cs = some (offset, rest)) :
    -1440 < offset ∧ offset < 1440 := by
  unfold readOffset at h
  split at h
  · cases h
    decide
  · cases h
    decide
  · exact signed_bounds (fun n hn => by omega) h
  · exact signed_bounds (fun n hn => show -1440 < -(n : Int) ∧ -(n : Int) < 1440 by omega) h
  · exact signed_bounds (fun n hn => show -1440 < -(n : Int) ∧ -(n : Int) < 1440 by omega) h
  · cases h

theorem validTime_iff {hour minute second : Nat} :
    validTime hour minute second = true ↔ hour < 24 ∧ minute < 60 ∧ second ≤ 60 := by
  simp [validTime, and_assoc]

/-- An offset moves a date with a year of four digits by a day at most. -/
theorem sound_moved (hd : d.valid = true) (hyear : 0 ≤ d.year ∧ d.year ≤ 9999)
    {hour minute second milli : Nat} {offset : Int} (hhour : hour < 24) (hminute : minute < 60)
    (hsecond : second ≤ 60) (hmilli : milli < 1000) (hoffset : -1440 < offset ∧ offset < 1440) :
    (⟨d.dayNumber * 1440 + hour * 60 + minute - offset, second, milli⟩ : Instant).Sound := by
  refine ⟨?_, hsecond, hmilli⟩
  have hmonth := (Date.valid_iff.mp hd).1
  have hfirst : (⟨-1, 1, 1⟩ : Date).dayNumber < d.dayNumber :=
    Date.dayNumber_lt_of_year (Date.valid_iff.mp rfl).1 hmonth (by dsimp only; omega)
  have hlast : d.dayNumber < (⟨10000, 1, 1⟩ : Date).dayNumber :=
    Date.dayNumber_lt_of_year hmonth (Date.valid_iff.mp rfl).1 (by dsimp only; omega)
  apply @valid_ofDayNumber ⟨-1, 1, 1⟩ ⟨10000, 1, 1⟩ _ rfl rfl
  · dsimp only at *
    omega
  · dsimp only at *
    omega

theorem sound_of_internet (h : ofInternet? cs = some i) : i.Sound := by
  unfold ofInternet? at h
  obtain ⟨⟨year, cs⟩, hyear, h⟩ := Option.bind_eq_some_iff.mp h
  obtain ⟨cs, -, h⟩ := Option.bind_eq_some_iff.mp h
  obtain ⟨⟨month, cs⟩, -, h⟩ := Option.bind_eq_some_iff.mp h
  obtain ⟨cs, -, h⟩ := Option.bind_eq_some_iff.mp h
  obtain ⟨⟨day, cs⟩, -, h⟩ := Option.bind_eq_some_iff.mp h
  obtain ⟨cs, -, h⟩ := Option.bind_eq_some_iff.mp h
  obtain ⟨⟨hour, cs⟩, -, h⟩ := Option.bind_eq_some_iff.mp h
  obtain ⟨cs, -, h⟩ := Option.bind_eq_some_iff.mp h
  obtain ⟨⟨minute, cs⟩, -, h⟩ := Option.bind_eq_some_iff.mp h
  obtain ⟨cs, -, h⟩ := Option.bind_eq_some_iff.mp h
  obtain ⟨⟨second, cs⟩, -, h⟩ := Option.bind_eq_some_iff.mp h
  obtain ⟨⟨milli, cs⟩, hmilli, h⟩ := Option.bind_eq_some_iff.mp h
  obtain ⟨⟨offset, cs⟩, hoffset, h⟩ := Option.bind_eq_some_iff.mp h
  dsimp only at h
  split at h
  · rename_i hchecked
    rw [Bool.and_eq_true, Bool.and_eq_true, validTime_iff] at hchecked
    obtain ⟨⟨-, hdate⟩, hhour, hminute, hsecond⟩ := hchecked
    have hfour := readExact_lt hyear
    cases h
    exact sound_moved hdate (by dsimp only; omega) hhour hminute hsecond (readFraction_lt hmilli)
      (readOffset_bounds hoffset)
  · cases h

theorem sound_of_plain (h : ofPlain? cs = some i) : i.Sound := by
  unfold ofPlain? at h
  obtain ⟨⟨date, cs⟩, hdate, h⟩ := Option.bind_eq_some_iff.mp h
  obtain ⟨⟨hour, cs⟩, -, h⟩ := Option.bind_eq_some_iff.mp h
  obtain ⟨cs, -, h⟩ := Option.bind_eq_some_iff.mp h
  obtain ⟨⟨minute, cs⟩, -, h⟩ := Option.bind_eq_some_iff.mp h
  obtain ⟨cs, -, h⟩ := Option.bind_eq_some_iff.mp h
  obtain ⟨⟨second, cs⟩, -, h⟩ := Option.bind_eq_some_iff.mp h
  dsimp only at h
  split at h
  · rename_i hchecked
    rw [Bool.and_eq_true, validTime_iff] at hchecked
    obtain ⟨-, hhour, hminute, hsecond⟩ := hchecked
    cases h
    exact sound_atTime (readDate_valid hdate) hhour hminute hsecond (by decide)
  · cases h

/-- Text in any notation is read as an instant of the calendar. -/
theorem sound_of_parse (h : parse? cs = some i) : i.Sound := by
  unfold parse? at h
  cases hinternet : ofInternet? cs with
  | some j =>
    rw [hinternet] at h
    cases h
    exact sound_of_internet hinternet
  | none =>
    rw [hinternet] at h
    cases hplain : ofPlain? cs with
    | some j =>
      rw [hplain] at h
      cases h
      exact sound_of_plain hplain
    | none =>
      rw [hplain] at h
      obtain ⟨d, hd, rfl⟩ := Option.map_eq_some_iff.mp h
      exact sound_atTime (valid_of_dateParse hd) (by decide) (by decide) (by decide) (by decide)

end Instant

end Calendar

end QueryCatalog
