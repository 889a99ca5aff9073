import QueryCatalog.Calendar.Instant
import QueryCatalog.Proofs.Calendar.Days
import QueryCatalog.Proofs.Outcome
import QueryCatalog.Proofs.Text.Digits
import QueryCatalog.Proofs.Text.Trimming

/-!
Dates and instants in writing. A date is read back from the text that is written for it, whatever
comes after it. An instant is read back only if its year has four digits: the notation with a sign
before the year is known to the reader of dates, and to none of the readers of instants that accept
what is written after the date.
-/
namespace QueryCatalog

namespace Calendar

open Text

theorem toList_padded (width n : Nat) : (padded width n).toList =
    List.replicate (width - (Nat.toDigits 10 n).length) '0' ++ Nat.toDigits 10 n := by
  have hlength : (toString n).length = (Nat.toDigits 10 n).length := by
    rw [← String.length_toList]
    simp
  rw [padded, hlength]
  simp

theorem isDigit_of_mem_padded {width n : Nat} {c : Char} (h : c ∈ (padded width n).toList) :
    c.isDigit = true := by
  rw [toList_padded] at h
  exact List.all_eq_true.mp (all_isDigit_zeros _ n) c h

theorem padded_ne_nil (width n : Nat) : (padded width n).toList ≠ [] := by
  rw [toList_padded]
  exact List.isEmpty_eq_false_iff.mp (isEmpty_zeros _ n)

theorem digitsValue_padded (width n : Nat) : digitsValue (padded width n).toList = n := by
  rw [toList_padded, digitsValue_zeros, digitsValue_toDigits]

theorem length_padded {width n : Nat} (hwidth : 0 < width) (h : n < 10 ^ width) :
    (padded width n).toList.length = width := by
  have hdigits : (Nat.toDigits 10 n).length ≤ width :=
    (Nat.length_toDigits_le_iff (by decide) hwidth).mpr h
  rw [toList_padded, List.length_append, List.length_replicate]
  omega

theorem Instant.readExact_padded {width n : Nat} (hwidth : 0 < width) (h : n < 10 ^ width)
    (rest : List Char) : readExact width ((padded width n).toList ++ rest) = some (n, rest) := by
  have hlength := length_padded hwidth h
  have hall : (padded width n).toList.all Char.isDigit = true :=
    List.all_eq_true.mpr fun c hc => isDigit_of_mem_padded hc
  rw [readExact, List.take_left' hlength, List.drop_left' hlength, digitsValue_padded, hlength,
    hall]
  simp

/-- Digits are read as far as they go, or as far as the width allows. -/
theorem readNumber_digits {width : Nat} {digits rest : List Char} (hne : digits ≠ [])
    (hdigits : ∀ c ∈ digits, c.isDigit = true) (hwidth : digits.length ≤ width)
    (hrest : digits.length = width ∨ rest.takeWhile Char.isDigit = []) :
    readNumber width (digits ++ rest) = some (digitsValue digits, rest) := by
  have hread : ((digits ++ rest).take width).takeWhile Char.isDigit = digits := by
    rw [List.take_append, List.take_of_length_le hwidth, List.takeWhile_append_of_pos hdigits]
    rcases hrest with hfull | hstop
    · rw [hfull, Nat.sub_self, List.take_zero, List.takeWhile_nil, List.append_nil]
    · rw [← List.take_takeWhile, hstop, List.take_nil, List.append_nil]
  have hsome : digits.isEmpty = false := List.isEmpty_eq_false_iff.mpr hne
  rw [readNumber, hread, List.drop_left]
  simp [hsome]

theorem trimStart_digits {digits rest : List Char} (hne : digits ≠ [])
    (hdigits : ∀ c ∈ digits, c.isDigit = true) :
    trimStart (digits ++ rest) = digits ++ rest := by
  cases digits with
  | nil => exact absurd rfl hne
  | cons c more => exact trimStart_cons (isBlank_of_isDigit (hdigits c List.mem_cons_self))

theorem readField_padded {n : Nat} (h : n < 100) (rest : List Char) :
    readField ((padded 2 n).toList ++ rest) = some (n, rest) := by
  have hdigits : ∀ c ∈ (padded 2 n).toList, c.isDigit = true := fun c hc => isDigit_of_mem_padded hc
  have hlength := @length_padded 2 n (by decide) h
  rw [readField, trimStart_digits (padded_ne_nil 2 n) hdigits,
    readNumber_digits (padded_ne_nil 2 n) hdigits (Nat.le_of_eq hlength) (.inl hlength),
    digitsValue_padded]

/-- Behind a sign the digits of a year are read up to the hyphen. -/
theorem readNumber_signed (n : Nat) (rest : List Char) :
    readNumber ((padded 4 n).toList ++ '-' :: rest).length
      ((padded 4 n).toList ++ '-' :: rest) = some (n, '-' :: rest) := by
  rw [readNumber_digits (padded_ne_nil 4 n) (fun c hc => isDigit_of_mem_padded hc)
    (by simp) (.inr rfl), digitsValue_padded]

theorem readYear_digits {n : Nat} (h : n < 10000) (rest : List Char) :
    readYear ((padded 4 n).toList ++ rest) = some ((n : Int), rest) := by
  have hdigits : ∀ c ∈ (padded 4 n).toList, c.isDigit = true := fun c hc => isDigit_of_mem_padded hc
  have hlength := @length_padded 4 n (by decide) h
  have hread := @readNumber_digits 4 _ rest (padded_ne_nil 4 n) hdigits (Nat.le_of_eq hlength)
    (.inl hlength)
  obtain ⟨c, more, hcons⟩ := List.exists_cons_of_ne_nil (padded_ne_nil 4 n)
  have hc : c.isDigit = true := hdigits c (hcons ▸ List.mem_cons_self)
  unfold readYear
  rw [trimStart_digits (padded_ne_nil 4 n) hdigits]
  split
  -- a sign is no digit
  · rename_i hsign
    rw [hcons] at hsign
    cases hsign
    cases hc
  · rename_i hsign
    rw [hcons] at hsign
    cases hsign
    cases hc
  · rw [hread, digitsValue_padded]
    rfl

theorem readYear_minus (n : Nat) (rest : List Char) :
    readYear ('-' :: ((padded 4 n).toList ++ '-' :: rest)) = some (-(n : Int), '-' :: rest) := by
  have hsigned := readNumber_signed n rest
  generalize (padded 4 n).toList ++ '-' :: rest = cs at *
  rw [readYear, trimStart_cons (by decide)]
  simp only [hsigned, Option.map_some]

theorem readYear_plus (n : Nat) (rest : List Char) :
    readYear ('+' :: ((padded 4 n).toList ++ '-' :: rest)) = some ((n : Int), '-' :: rest) := by
  have hsigned := readNumber_signed n rest
  generalize (padded 4 n).toList ++ '-' :: rest = cs at *
  rw [readYear, trimStart_cons (by decide)]
  simp only [hsigned, Option.map_some]

theorem renderYear_digits {year : Int} (h : 0 ≤ year ∧ year ≤ 9999) :
    (renderYear year).toList = (padded 4 year.toNat).toList :=
  congrArg String.toList (if_pos h)

theorem renderYear_signed {year : Int} (h : ¬(0 ≤ year ∧ year ≤ 9999)) :
    (renderYear year).toList =
      (if year < 0 then '-' else '+') :: (padded 4 year.natAbs).toList := by
  rw [renderYear, if_neg h, String.toList_append]
  split <;> rfl

theorem readYear_render (year : Int) (rest : List Char) :
    readYear ((renderYear year).toList ++ '-' :: rest) = some (year, '-' :: rest) := by
  by_cases hyear : 0 ≤ year ∧ year ≤ 9999
  · rw [renderYear_digits hyear, readYear_digits (by omega), Int.toNat_of_nonneg hyear.1]
  · rw [renderYear_signed hyear]
    by_cases hnegative : year < 0
    · have hvalue : -(year.natAbs : Int) = year := by omega
      rw [if_pos hnegative, List.cons_append, readYear_minus, hvalue]
    · have hvalue : (year.natAbs : Int) = year := by omega
      rw [if_neg hnegative, List.cons_append, readYear_plus, hvalue]

example : readYear "-0005-01-31".toList = some (-5, "-01-31".toList) := by decide

@[simp]
theorem readChar_cons (c : Char) (rest : List Char) : readChar c (c :: rest) = some rest := by
  simp [readChar]

theorem Date.toList_render (d : Date) : d.render.toList = (renderYear d.year).toList ++ '-' ::
    ((padded 2 d.month).toList ++ '-' :: (padded 2 d.day).toList) := by
  simp [Date.render]

theorem Date.InMonth.day_le_31 {d : Date} (h : d.InMonth) : d.day ≤ 31 := by
  refine Nat.le_trans h.day_le ?_
  unfold daysInMonth
  split
  · split <;> decide
  · split <;> decide

/-- A date is read from its text, whatever comes after it. -/
theorem readDate_render {d : Date} (h : d.valid = true) (rest : List Char) :
    readDate (d.render.toList ++ rest) = some (d, rest) := by
  obtain ⟨hmonth, -⟩ := Date.valid_iff.mp h
  have hmonth' := hmonth.month_le
  have hday' := hmonth.day_le_31
  unfold readDate
  rw [Date.toList_render, List.append_assoc, List.cons_append, readYear_render]
  simp only [Option.bind_eq_bind, Option.bind_some, readChar_cons, List.append_assoc,
    List.cons_append, readField_padded (show d.month < 100 by omega),
    readField_padded (show d.day < 100 by omega)]
  exact if_pos h

/-- A date is read back from its text. -/
theorem Date.parse?_render {d : Date} (h : d.valid = true) :
    Date.parse? d.render.toList = some d := by
  have hread := readDate_render h []
  rw [List.append_nil] at hread
  rw [Date.parse?, hread]

theorem isBlank_of_mem_padded {width n : Nat} {c : Char} (h : c ∈ (padded width n).toList) :
    isBlank c = false :=
  isBlank_of_isDigit (isDigit_of_mem_padded h)

theorem isBlank_of_mem_renderYear {year : Int} {c : Char} (h : c ∈ (renderYear year).toList) :
    isBlank c = false := by
  by_cases hyear : 0 ≤ year ∧ year ≤ 9999
  · rw [renderYear_digits hyear] at h
    exact isBlank_of_mem_padded h
  · rw [renderYear_signed hyear] at h
    rcases List.mem_cons.mp h with rfl | h
    · split <;> rfl
    · exact isBlank_of_mem_padded h

theorem Date.isBlank_of_mem_render {d : Date} {c : Char} (h : c ∈ d.render.toList) :
    isBlank c = false := by
  simp only [Date.toList_render, List.mem_append, List.mem_cons] at h
  rcases h with h | rfl | h | rfl | h
  · exact isBlank_of_mem_renderYear h
  · rfl
  · exact isBlank_of_mem_padded h
  · rfl
  · exact isBlank_of_mem_padded h

theorem Date.trimChars_render (d : Date) : trimChars d.render.toList = d.render.toList :=
  trimChars_eq_self fun _ hc => Date.isBlank_of_mem_render hc

namespace Instant

variable {i : Instant}

/-- An instant that is on a date of the calendar and inside its minute, leap seconds included. -/
structure Sound (i : Instant) : Prop where
  date : i.date.valid = true
  second : i.second ≤ 60
  milli : i.milli < 1000

/-- The year needs no sign. -/
def FourDigits (i : Instant) : Prop := 0 ≤ i.date.year ∧ i.date.year ≤ 9999

def hour (i : Instant) : Nat := (i.minute % 1440).toNat / 60

def minuteOfHour (i : Instant) : Nat := (i.minute % 1440).toNat % 60

/-- The text of an instant after its date. -/
def timeChars (i : Instant) : List Char :=
  (padded 2 i.hour).toList ++ ':' :: ((padded 2 i.minuteOfHour).toList ++ ':' ::
    ((padded 2 i.second).toList ++ '.' :: ((padded 3 i.milli).toList ++ ['Z'])))

theorem toList_render (i : Instant) :
    i.render.toList = i.date.render.toList ++ 'T' :: i.timeChars := by
  simp [render, timeChars, hour, minuteOfHour]

theorem isBlank_of_mem_render {c : Char} (h : c ∈ i.render.toList) : isBlank c = false := by
  simp only [toList_render, timeChars, List.mem_append, List.mem_cons, List.not_mem_nil,
    or_false] at h
  rcases h with h | rfl | h | rfl | h | rfl | h | rfl | h | rfl
  · exact Date.isBlank_of_mem_render h
  · rfl
  · exact isBlank_of_mem_padded h
  · rfl
  · exact isBlank_of_mem_padded h
  · rfl
  · exact isBlank_of_mem_padded h
  · rfl
  · exact isBlank_of_mem_padded h
  · rfl

theorem trimChars_render (i : Instant) : trimChars i.render.toList = i.render.toList :=
  trimChars_eq_self fun _ hc => isBlank_of_mem_render hc

theorem readFraction_padded {n : Nat} (h : n < 1000) :
    readFraction ('.' :: ((padded 3 n).toList ++ ['Z'])) = some (n, ['Z']) := by
  have hlength := @length_padded 3 n (by decide) h
  have hdigits : ((padded 3 n).toList ++ ['Z']).takeWhile Char.isDigit = (padded 3 n).toList := by
    rw [List.takeWhile_append_of_pos fun c hc => isDigit_of_mem_padded hc]
    exact List.append_nil _
  have hsome : (padded 3 n).toList.isEmpty = false :=
    List.isEmpty_eq_false_iff.mpr (padded_ne_nil 3 n)
  unfold readFraction
  simp only [hdigits, hsome, List.take_left' hlength, digitsValue_padded, List.drop_left]
  rfl

/-- The time of day gives the minute again. -/
theorem atTime_date (i : Instant) : atTime i.date i.hour i.minuteOfHour i.second i.milli = i := by
  unfold atTime date hour minuteOfHour
  rw [Date.dayNumber_ofDayNumber]
  have hminute : i.minute / 1440 * 1440 + ((i.minute % 1440).toNat / 60 : Nat) * 60 +
      ((i.minute % 1440).toNat % 60 : Nat) = i.minute := by omega
  rw [hminute]

theorem hour_lt (i : Instant) : i.hour < 24 := by
  unfold hour
  omega

theorem minuteOfHour_lt (i : Instant) : i.minuteOfHour < 60 := by
  unfold minuteOfHour
  omega

theorem readExact_two {n : Nat} (h : n < 100) (rest : List Char) :
    readExact 2 ((padded 2 n).toList ++ rest) = some (n, rest) :=
  readExact_padded (by decide) h rest

theorem readExact_render (hyear : i.FourDigits) : readExact 4 i.render.toList =
    some (i.date.year.toNat, '-' :: ((padded 2 i.date.month).toList ++ '-' ::
      ((padded 2 i.date.day).toList ++ 'T' :: i.timeChars))) := by
  rw [toList_render, Date.toList_render, renderYear_digits hyear]
  simp only [List.append_assoc, List.cons_append]
  exact readExact_padded (by decide) (by have := hyear.2; omega) _

/-- An instant is read back from its text. -/
theorem ofInternet?_render (h : i.Sound) (hyear : i.FourDigits) :
    ofInternet? i.render.toList = some i := by
  obtain ⟨hmonth, -⟩ := Date.valid_iff.mp h.date
  have hmonth' := hmonth.month_le
  have hday' := hmonth.day_le_31
  have hsecond := h.second
  have hhour := i.hour_lt
  have hminute := i.minuteOfHour_lt
  have hdate : (⟨(i.date.year.toNat : Int), i.date.month, i.date.day⟩ : Date) = i.date := by
    rw [Int.toNat_of_nonneg hyear.1]
  have htime : validTime i.hour i.minuteOfHour i.second = true := by
    simp [validTime, hhour, hminute, hsecond]
  unfold ofInternet?
  refine bind_of_some (readExact_render hyear) ?_
  refine bind_of_some (readChar_cons _ _) ?_
  refine bind_of_some (readExact_two (by omega) _) ?_
  refine bind_of_some (readChar_cons _ _) ?_
  refine bind_of_some (readExact_two (by omega) _) ?_
  refine bind_of_some (show readSeparator ('T' :: i.timeChars) = some i.timeChars from rfl) ?_
  refine bind_of_some (readExact_two (by omega) _) ?_
  refine bind_of_some (readChar_cons _ _) ?_
  refine bind_of_some (readExact_two (by omega) _) ?_
  refine bind_of_some (readChar_cons _ _) ?_
  refine bind_of_some (readExact_two (by omega) _) ?_
  refine bind_of_some (readFraction_padded h.milli) ?_
  refine bind_of_some (show readOffset ['Z'] = some (0, []) from rfl) ?_
  dsimp only
  rw [hdate, h.date, htime, atTime_date, Int.sub_zero]
  rfl

theorem parse?_render (h : i.Sound) (hyear : i.FourDigits) : parse? i.render.toList = some i := by
  rw [parse?, ofInternet?_render h hyear]
  rfl

theorem ofInternet?_signed (hyear : ¬i.FourDigits) : ofInternet? i.render.toList = none := by
  have hsign : ∃ c rest, i.render.toList = c :: rest ∧ c.isDigit = false := by
    rw [toList_render, Date.toList_render, renderYear_signed hyear]
    refine ⟨_, _, rfl, ?_⟩
    split <;> rfl
  obtain ⟨c, rest, hchars, hc⟩ := hsign
  have hnone : readExact 4 (c :: rest) = none := by
    simp [readExact, hc]
  rw [ofInternet?, hchars, hnone]
  rfl

/-- The time after a date is not read where a blank is expected before it. -/
theorem ofPlain?_render (h : i.Sound) : ofPlain? i.render.toList = none := by
  have hfield : readField ('T' :: i.timeChars) = none := by
    rw [readField, trimStart_cons (by decide)]
    rfl
  rw [toList_render]
  unfold ofPlain?
  refine bind_of_some (readDate_render h.date _) ?_
  dsimp only
  rw [hfield]
  rfl

theorem dateParse?_render (h : i.Sound) : Date.parse? i.render.toList = none := by
  rw [Date.parse?, toList_render, readDate_render h.date]

/-- An instant of a year with a sign is not read back. -/
theorem parse?_signed (h : i.Sound) (hyear : ¬i.FourDigits) : parse? i.render.toList = none := by
  rw [parse?, ofInternet?_signed hyear, ofPlain?_render h, dateParse?_render h]
  rfl

end Instant

end Calendar

end QueryCatalog
