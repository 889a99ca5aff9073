import QueryCatalog.Proofs.Engine.Matching

/-!
What a parameter with distinct values is bound to. Of equal values that its source gives the first
one is kept, and then they are converted: where a list has equal values all the same, conversion
has made them of different ones.
-/
namespace QueryCatalog

open Json (equals)

namespace Json

/-- No value equals one that comes later. -/
def Different (items : List Json) : Prop :=
  items.Pairwise fun first later => equals first later = false

/-- Different values give different ones, or two of them give equal ones. -/
theorem Different.image {R : Json → Json → Prop} {us ws : List Json}
    (hus : Different us) (h : List.Forall₂ R us ws) :
    Different ws ∨ ∃ a ∈ us, ∃ b ∈ us, equals a b = false ∧
      ∃ w w', R a w ∧ R b w' ∧ equals w w' = true := by
  induction h with
  | nil => exact .inl .nil
  | @cons a w us ws haw hrest ih =>
    obtain ⟨hfirst, hlater⟩ := List.pairwise_cons.mp hus
    rcases ih hlater with hdifferent | ⟨b, hb, c, hc, hequal⟩
    · by_cases hall : ∀ w' ∈ ws, equals w w' = false
      · exact .inl (List.pairwise_cons.mpr ⟨hall, hdifferent⟩)
      · push Not at hall
        obtain ⟨w', hw', hequal⟩ := hall
        obtain ⟨b, hb, hbw⟩ := exists_of_forall₂ hrest hw'
        exact .inr ⟨a, List.mem_cons_self, b, List.mem_cons_of_mem a hb, hfirst b hb, w, w', haw,
          hbw, by simpa using hequal⟩
    · exact .inr ⟨b, List.mem_cons_of_mem a hb, c, List.mem_cons_of_mem a hc, hequal⟩

theorem foldl_pushUnique_eq (items : List Json) :
    items.foldl (fun out v => pushUnique out v true) [] =
      items.eraseDupsBy fun later first => equals first later := by
  rw [List.eraseDupsBy, eraseDupsBy_loop]
  rfl

end Json

namespace Parameter

variable {p : Parameter} {owner : String} {v : Json}

theorem unique_different (items : List Json) : Json.Different (unique items) := by
  rw [unique, Json.foldl_pushUnique_eq]
  exact pairwise_eraseDupsBy _ _

theorem asked_of_isArray (h : v.isArray = false) : v.asked = [v] := by
  cases v <;> first | rfl | cases h

theorem deduplicated_different (hdistinct : p.distinct = true) (v : Json) :
    Json.Different (p.deduplicated v).asked := by
  unfold deduplicated
  rw [hdistinct]
  cases v with
  | arr items => exact unique_different items
  | _ => exact List.pairwise_singleton _ _

theorem isArray_of_converted {w : Json} (hv : v.isArray = false)
    (h : p.converted owner v = .ok w) : w.isArray = false := by
  cases htype : p.type with
  | none =>
    rw [converted_untyped htype] at h
    cases h
    exact hv
  | some type => exact Convert.isArray_of_value hv ((converted_typed_iff htype).mp h)

/-- Only a single value is made a list. -/
theorem listed_eq_arr {u : Json} {ws : List Json} (hu : u.isArray = false)
    (h : p.listed u = .arr ws) : ws = [u] := by
  cases u with
  | null => cases h
  | arr items => cases hu
  | _ =>
    unfold listed at h
    dsimp only at h
    split_ifs at h
    exact (Json.arr.inj h).symm

/-- Item by item, a list holds what the values that are asked for are converted to. -/
theorem converted_asked {u : Json} {ws : List Json} (hu : p.converted owner v = .ok u)
    (h : p.listed u = .arr ws) :
    List.Forall₂ (fun v w => p.converted owner v = .ok w) v.asked ws := by
  by_cases harray : v.isArray = true
  · cases v with
    | arr items =>
      obtain ⟨us, rfl, hitems⟩ := converted_list hu
      cases h
      exact hitems
    | _ => cases harray
  · have hv : v.isArray = false := by simpa using harray
    rw [listed_eq_arr (isArray_of_converted hv hu) h, asked_of_isArray hv]
    exact .cons hu .nil

section Resolving

variable {evaluate : Script → Except QueryError Json} {criteria : Json} {rows : List Row}
  {ws : List Json}

/-- The values of the source are different before they are converted, and the list that is bound
holds equal ones only where two of them are converted to such. -/
theorem different_unless_converted (hdistinct : p.distinct = true)
    (h : p.resolve owner evaluate criteria rows = .ok (.arr ws)) :
    ∃ v, p.sourceValue evaluate criteria rows = .ok v ∧
      Json.Different (p.deduplicated v).asked ∧
      List.Forall₂ (fun v w => p.converted owner v = .ok w) (p.deduplicated v).asked ws ∧
      (Json.Different ws ∨ ∃ type, p.type = some type ∧ type ≠ .json ∧
        ∃ a ∈ (p.deduplicated v).asked, ∃ b ∈ (p.deduplicated v).asked, equals a b = false ∧
          ∃ w w', Convert.value type a = .ok w ∧ Convert.value type b = .ok w' ∧
            equals w w' = true) := by
  obtain ⟨v, u, hv, hu, hlisted⟩ := resolve_steps h
  have hdifferent := deduplicated_different hdistinct v
  have hconverted := converted_asked hu hlisted.symm
  refine ⟨v, hv, hdifferent, hconverted, ?_⟩
  refine (hdifferent.image hconverted).imp_right ?_
  rintro ⟨a, ha, b, hb, hab, w, w', hw, hw', hequal⟩
  cases htype : p.type with
  | none =>
    rw [converted_untyped htype] at hw hw'
    cases hw
    cases hw'
    rw [hab] at hequal
    cases hequal
  | some type =>
    rw [converted_typed_iff htype] at hw hw'
    refine ⟨type, rfl, ?_, a, ha, b, hb, hab, w, w', hw, hw', hequal⟩
    rintro rfl
    rw [Convert.value_json] at hw hw'
    cases hw
    cases hw'
    rw [hab] at hequal
    cases hequal

end Resolving

def userIds (type : Option ParameterType) : Parameter where
  name := "user_id"
  source := .parentResultField
  sourceName := some "id"
  value := none
  type := type
  script := none
  distinct := true
  singleAsList := false

theorem different_unless_converted_users :
    (userIds none).resolve "users" (fun _ => .ok .null) .null
        [[("id", .int 1)], [("id", .int 2)], [("id", .int 1)]] = .ok (.arr [.int 1, .int 2]) ∧
      Json.Different [.int 1, .int 2] := by
  have hresolved : (userIds none).resolve "users" (fun _ => .ok .null) .null
      [[("id", .int 1)], [("id", .int 2)], [("id", .int 1)]] = .ok (.arr [.int 1, .int 2]) := rfl
  obtain ⟨v, -, -, -, hdifferent | ⟨type, htype, -⟩⟩ := different_unless_converted rfl hresolved
  · exact ⟨hresolved, hdifferent⟩
  · cases htype

/-- The text of a number is not equal to the number, and is converted to it. -/
theorem converted_ids_are_equal :
    (userIds (some .integer)).distinct = true ∧
      (userIds (some .integer)).resolve "users" (fun _ => .ok .null) .null
        [[("id", .str "1")], [("id", .int 1)]] = .ok (.arr [.int 1, .int 1]) ∧
      ¬ Json.Different [.int 1, .int 1] := by
  refine ⟨rfl, rfl, fun h => ?_⟩
  have hne := (List.pairwise_cons.mp h).1 (.int 1) List.mem_cons_self
  exact absurd hne (by decide)

end Parameter

end QueryCatalog
