import QueryCatalog.Proofs.Calendar.Instants
import QueryCatalog.Proofs.Convert.Repeating

/-!
Dates and instants converted again. The text that is written for a date is the same date again. The
text of an instant is the same instant again if its year has four digits, and is not accepted
otherwise.
-/
namespace QueryCatalog

namespace Convert

open Calendar

variable {v w : Json} {target : ParameterType} {i : Instant} {d : Date}

theorem instant_sound (h : instant target v = .ok i) : i.Sound := by
  unfold instant at h
  split at h
  · split at h
    · rename_i hread
      cases h
      exact Instant.sound_of_parse hread
    · cases h
  · split at h
    · rename_i hread
      cases h
      obtain ⟨n, -, hn⟩ := Option.bind_eq_some_iff.mp hread
      exact Instant.sound_of_millis hn
    · cases h
  · cases h

theorem toDate_valid (h : toDate v = .ok d) : d.valid = true := by
  unfold toDate at h
  split at h
  · split at h
    · rename_i hread
      cases h
      exact Instant.valid_of_dateParse hread
    · obtain ⟨i, hi, rfl⟩ := ok_of_map h
      exact (instant_sound hi).date
  · obtain ⟨i, hi, rfl⟩ := ok_of_map h
    exact (instant_sound hi).date

theorem value_date (s : String) :
    value .date (.str s) = (toDate (.str s)).map fun d => .str d.render := rfl

theorem date_text (hd : d.valid = true) : value .date (.str d.render) = .ok (.str d.render) := by
  rw [value_date, toDate, Date.trimChars_render, Date.parse?_render hd]
  rfl

/-- What is written for a date is read as this date. -/
theorem date_again (h : value .date v = .ok w) : value .date w = .ok w := by
  refine value_again_of_scalar (fun v w h => ?_) h
  obtain ⟨d, hd, rfl⟩ := ok_of_map h
  exact date_text (toDate_valid hd)

/-- An instant of a year that is not written with four digits, or a list that holds one at some
depth. -/
inductive Outlying : Json → Prop
  | instant {v : Json} {i : Instant} : instant .datetime v = .ok i → ¬i.FourDigits → Outlying v
  | item {items : List Json} {v : Json} : v ∈ items → Outlying v → Outlying (.arr items)

theorem outlying_iff (hi : instant .datetime v = .ok i) : Outlying v ↔ ¬i.FourDigits := by
  constructor
  · intro h
    cases h with
    | instant hj hyear =>
      cases hi.symm.trans hj
      exact hyear
    | item _ _ => cases hi
  · exact .instant hi

theorem outlying_arr_iff {items : List Json} : Outlying (.arr items) ↔ ∃ v ∈ items, Outlying v := by
  constructor
  · intro h
    cases h with
    | instant hi _ => cases hi
    | item hv hfar => exact ⟨_, hv, hfar⟩
  · rintro ⟨v, hv, hfar⟩
    exact .item hv hfar

theorem not_outlying_null : ¬Outlying .null := by
  intro h
  cases h with
  | instant hi _ => cases hi

theorem value_datetime (s : String) :
    value .datetime (.str s) = (instant .datetime (.str s)).map fun i => .str i.render := rfl

theorem datetime_text (hi : i.Sound) (hyear : i.FourDigits) :
    value .datetime (.str i.render) = .ok (.str i.render) := by
  rw [value_datetime, instant, Instant.trimChars_render, Instant.parse?_render hi hyear]
  rfl

theorem datetime_text_signed (hi : i.Sound) (hyear : ¬i.FourDigits) :
    value .datetime (.str i.render) = .error (.text i.render .datetime) := by
  have htrim : Text.trim i.render = i.render := by
    rw [Text.trim, Instant.trimChars_render, String.ofList_toList]
  rw [value_datetime, instant, Instant.trimChars_render, Instant.parse?_signed hi hyear, htrim]
  rfl

/-- What is written for an instant is read as this instant if its year has four digits, and is not
read otherwise. -/
structure ReadsBack (v w : Json) : Prop where
  again : ¬Outlying v → value .datetime w = .ok w
  rejected : Outlying v → ∃ e, value .datetime w = .error e

theorem readsBack_scalar (h : scalar v .datetime = .ok w) : ReadsBack v w := by
  obtain ⟨i, hi, rfl⟩ := ok_of_map h
  have hsound := instant_sound hi
  constructor
  · intro hnear
    rw [outlying_iff hi, not_not] at hnear
    exact datetime_text hsound hnear
  · intro hfar
    exact ⟨_, datetime_text_signed hsound ((outlying_iff hi).mp hfar)⟩

theorem readsBack_items {items ws : List Json}
    (hitems : List.Forall₂ (fun v w => value .datetime v = .ok w) items ws)
    (h : ∀ v ∈ items, ∀ w, value .datetime v = .ok w → ReadsBack v w) :
    ReadsBack (.arr items) (.arr ws) := by
  constructor
  · intro hnear
    refine value_arr_of_forall₂ (List.forall₂_same.mpr fun w hw => ?_)
    obtain ⟨v, hv, hvw⟩ := exists_of_forall₂ hitems hw
    exact (h v hv w hvw).again fun hfar => hnear (.item hv hfar)
  · intro hfar
    obtain ⟨v, hv, hfar⟩ := outlying_arr_iff.mp hfar
    obtain ⟨w, hw, hvw⟩ := exists_of_forall₂ hitems.flip hv
    obtain ⟨e, he⟩ := (h v hv w hvw).rejected hfar
    -- one rejected item is enough
    cases hagain : value .datetime (.arr ws) with
    | error e => exact ⟨e, rfl⟩
    | ok u =>
      obtain ⟨us, -, hus⟩ := value_list hagain
      obtain ⟨u, -, hu⟩ := exists_of_forall₂ hus.flip hw
      cases he.symm.trans hu

theorem readsBack_of_value (h : value .datetime v = .ok w) : ReadsBack v w := by
  induction v using Json.induction generalizing w with
  | null =>
    cases h
    exact ⟨fun _ => rfl, fun hfar => absurd hfar not_outlying_null⟩
  | arr items ih =>
    obtain ⟨ws, rfl, hitems⟩ := value_list h
    exact readsBack_items hitems fun v hv w hw => ih v hv hw
  | bool b => exact readsBack_scalar h
  | num n => exact readsBack_scalar h
  | str s => exact readsBack_scalar h
  | obj fields => exact readsBack_scalar h

/-- Converted dates are converted to themselves. Converted instants are if no year among them lies
outside of 0 to 9999, and are rejected if one does. -/
theorem dates_again (v w : Json) :
    (value .date v = .ok w → value .date w = .ok w) ∧
    (value .datetime v = .ok w → (value .datetime w = .ok w ↔ ¬Outlying v) ∧
      (Outlying v → ∃ e, value .datetime w = .error e)) := by
  refine ⟨date_again, fun h => ?_⟩
  obtain ⟨hagain, hrejected⟩ := readsBack_of_value h
  refine ⟨⟨fun hsame hfar => ?_, hagain⟩, hrejected⟩
  obtain ⟨e, he⟩ := hrejected hfar
  cases hsame.symm.trans he

/-- An evening that is the next day in UTC, and the last millisecond that is written without a
sign. -/
def eventTimes : Json :=
  .arr [.str "2024-02-29T23:30:00.25-01:00", .arr [.int 253402300799999, .null]]

theorem not_outlying_eventTimes : ¬Outlying eventTimes := by
  have hevening : ¬Outlying (.str "2024-02-29T23:30:00.25-01:00") := by
    rw [outlying_iff (i := ⟨28487550, 0, 250⟩) rfl, not_not]
    exact ⟨by decide, by decide⟩
  have hlast : ¬Outlying (.int 253402300799999) := by
    rw [outlying_iff (i := ⟨4223371679, 59, 999⟩) rfl, not_not]
    exact ⟨by decide, by decide⟩
  simp [eventTimes, outlying_arr_iff, hevening, hlast, not_outlying_null]

/-- One hour after the last of them. -/
def outlyingTime : Json := .int 253402304399999

theorem outlying_outlyingTime : Outlying outlyingTime := by
  refine .instant (i := ⟨4223371739, 59, 999⟩) rfl ?_
  rintro ⟨-, hyear⟩
  exact absurd hyear (by decide)

theorem dates_again_events :
    (∃ w, value .date eventTimes = .ok w ∧ value .date w = .ok w) ∧
      (∃ w, value .datetime eventTimes = .ok w ∧ value .datetime w = .ok w) ∧
      ∃ w, value .datetime outlyingTime = .ok w ∧ ∃ e, value .datetime w = .error e := by
  obtain ⟨days, hdays⟩ : ∃ w, value .date eventTimes = .ok w := ⟨_, rfl⟩
  obtain ⟨times, htimes⟩ : ∃ w, value .datetime eventTimes = .ok w := ⟨_, rfl⟩
  obtain ⟨late, hlate⟩ : ∃ w, value .datetime outlyingTime = .ok w := ⟨_, rfl⟩
  refine ⟨⟨days, hdays, ?_⟩, ⟨times, htimes, ?_⟩, late, hlate, ?_⟩
  · exact (dates_again eventTimes days).1 hdays
  · exact ((dates_again eventTimes times).2 htimes).1.mpr not_outlying_eventTimes
  · exact ((dates_again outlyingTime late).2 hlate).2 outlying_outlyingTime

/-- An instant of the year 12345 is written and not read, and its date is written and read. -/
theorem long_year_is_not_read :
    value .datetime (.str "+12345-01-01 00:00:00") = .ok (.str "+12345-01-01T00:00:00.000Z") ∧
      value .datetime (.str "+12345-01-01T00:00:00.000Z") =
        .error (.text "+12345-01-01T00:00:00.000Z" .datetime) ∧
      value .date (.str "+12345-01-01 00:00:00") = .ok (.str "+12345-01-01") ∧
      value .date (.str "+12345-01-01") = .ok (.str "+12345-01-01") := by
  refine ⟨?_, ?_, ?_, ?_⟩
  · rfl
  · rfl
  · rfl
  · rfl

end Convert

end QueryCatalog
