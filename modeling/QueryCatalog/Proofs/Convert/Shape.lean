import Mathlib.Data.List.Forall2
import QueryCatalog.Proofs.Engine.Fetch
import QueryCatalog.Proofs.Outcome

/-!
What conversion makes of values in general. Flat values stay flat, and a list becomes a list of
what its items become.
-/
namespace QueryCatalog

namespace Convert

variable {type : ParameterType}

theorem flat_of_toInteger {v w : Json} (h : toInteger v = .ok w) : w.isFlat = true := by
  unfold toInteger at h
  split at h
  · cases h
    rfl
  · split at h
    · cases h
      rfl
    · cases h
  · split at h
    · cases h
      rfl
    · cases h
  · cases h
    rfl
  · cases h

theorem flat_of_toDecimal {v w : Json} (h : toDecimal v = .ok w) : w.isFlat = true := by
  unfold toDecimal at h
  split at h
  · cases h
    rfl
  · split at h
    · cases h
      rfl
    · cases h
  · cases h

theorem flat_of_toBoolean {v w : Json} (h : toBoolean v = .ok w) : w.isFlat = true := by
  unfold toBoolean at h
  split at h
  · cases h
    rfl
  · cases h
    rfl
  · dsimp only at h
    split at h
    · cases h
      rfl
    · split at h
      · cases h
        rfl
      · cases h
  · cases h

/-- A value is converted to a flat one, or not changed. -/
theorem scalar_cases {v w : Json} (h : scalar v type = .ok w) : w = v ∨ w.isFlat = true := by
  cases type with
  | json => exact .inl (Except.ok.inj h).symm
  | string =>
    right
    cases v <;>
      · cases h
        rfl
  | integer => exact .inr (flat_of_toInteger h)
  | decimal => exact .inr (flat_of_toDecimal h)
  | boolean => exact .inr (flat_of_toBoolean h)
  | date =>
    obtain ⟨d, -, rfl⟩ := ok_of_map h
    exact .inr rfl
  | datetime =>
    obtain ⟨i, -, rfl⟩ := ok_of_map h
    exact .inr rfl

theorem value_cases {v w : Json} (hv : v.isArray = false) (h : value type v = .ok w) :
    w = v ∨ w.isFlat = true := by
  cases v with
  | null => exact .inl (Except.ok.inj h).symm
  | arr items => cases hv
  | _ => exact scalar_cases h

/-- Null or a scalar is converted to null or a scalar. -/
theorem flat_of_value {v w : Json} (hv : v.isFlat = true) (h : value type v = .ok w) :
    w.isFlat = true := by
  have harray : v.isArray = false := by cases v <;> first | rfl | cases hv
  rcases value_cases harray h with rfl | hflat
  · exact hv
  · exact hflat

/-- No list comes out of a value that is none. -/
theorem isArray_of_value {v w : Json} (hv : v.isArray = false) (h : value type v = .ok w) :
    w.isArray = false := by
  rcases value_cases hv h with rfl | hflat
  · exact hv
  · cases w <;> first | rfl | cases hflat

theorem forall₂_of_values {items ws : List Json} (h : values type items = .ok ws) :
    List.Forall₂ (fun v w => value type v = .ok w) items ws := by
  induction items generalizing ws with
  | nil =>
    cases h
    exact .nil
  | cons first rest ih =>
    rw [values] at h
    cases hfirst : value type first with
    | error error =>
      rw [hfirst] at h
      cases h
    | ok u =>
      cases hrest : values type rest with
      | error error =>
        rw [hfirst, hrest] at h
        cases h
      | ok us =>
        rw [hfirst, hrest] at h
        cases h
        exact .cons hfirst (ih hrest)

theorem value_json (v : Json) : value .json v = .ok v := by
  cases v <;> rfl

/-- A list is converted to a list of the values that its items are converted to. -/
theorem value_list {items : List Json} {u : Json} (h : value type (.arr items) = .ok u) :
    ∃ ws, u = .arr ws ∧ List.Forall₂ (fun v w => value type v = .ok w) items ws := by
  by_cases htype : type = .json
  · subst htype
    rw [value_json] at h
    cases h
    exact ⟨items, rfl, List.forall₂_same.mpr fun w _ => value_json w⟩
  · have hother : (type == .json) = false := by simpa using htype
    rw [value, if_neg (by simp [hother])] at h
    obtain ⟨ws, hws, rfl⟩ := ok_of_map h
    exact ⟨ws, rfl, forall₂_of_values hws⟩

end Convert

end QueryCatalog
