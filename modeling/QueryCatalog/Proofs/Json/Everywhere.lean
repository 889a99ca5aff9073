import Mathlib.Data.List.Nodup
import QueryCatalog.Proofs.Dictionary
import QueryCatalog.Proofs.Json.Equality

/-!
What holds of a document and of everything within it.
-/
namespace QueryCatalog.Json

/-- Items and the values of fields come before the document that holds them. -/
@[elab_as_elim]
theorem induction {motive : Json → Prop} (null : motive .null) (bool : ∀ b, motive (.bool b))
    (num : ∀ n, motive (.num n)) (str : ∀ s, motive (.str s))
    (arr : ∀ items, (∀ v ∈ items, motive v) → motive (.arr items))
    (obj : ∀ fields, (∀ field ∈ fields, motive field.2) → motive (.obj fields)) (v : Json) :
    motive v := by
  refine @Json.rec motive (fun items => ∀ v ∈ items, motive v)
    (fun fields => ∀ field ∈ fields, motive field.2) (fun field => motive field.2)
    null bool num str arr obj ?_ ?_ ?_ ?_ ?_ v
  · exact fun v hv => absurd hv List.not_mem_nil
  · exact fun v rest hv hrest => List.forall_mem_cons.mpr ⟨hv, hrest⟩
  · exact fun field hfield => absurd hfield List.not_mem_nil
  · exact fun field rest hfield hrest => List.forall_mem_cons.mpr ⟨hfield, hrest⟩
  · exact fun key value hvalue => hvalue

mutual

/-- The property holds of the document and of every value within it. -/
def Everywhere (p : Json → Prop) : Json → Prop
  | .arr items => p (.arr items) ∧ EveryItem p items
  | .obj fields => p (.obj fields) ∧ EveryField p fields
  | v => p v

def EveryItem (p : Json → Prop) : List Json → Prop
  | [] => True
  | v :: rest => Everywhere p v ∧ EveryItem p rest

def EveryField (p : Json → Prop) : List (String × Json) → Prop
  | [] => True
  | (_, v) :: rest => Everywhere p v ∧ EveryField p rest

end

variable {p : Json → Prop}

theorem everyItem_iff {items : List Json} : EveryItem p items ↔ ∀ v ∈ items, Everywhere p v := by
  induction items with
  | nil => simp [EveryItem]
  | cons v rest ih => rw [EveryItem, ih, List.forall_mem_cons]

theorem everyField_iff {fields : List (String × Json)} :
    EveryField p fields ↔ ∀ field ∈ fields, Everywhere p field.2 := by
  induction fields with
  | nil => simp [EveryField]
  | cons field rest ih => rw [EveryField, ih, List.forall_mem_cons]

theorem everywhere_arr {items : List Json} :
    Everywhere p (.arr items) ↔ p (.arr items) ∧ ∀ v ∈ items, Everywhere p v := by
  rw [Everywhere, everyItem_iff]

theorem everywhere_obj {fields : List (String × Json)} :
    Everywhere p (.obj fields) ↔ p (.obj fields) ∧ ∀ field ∈ fields, Everywhere p field.2 := by
  rw [Everywhere, everyField_iff]

/-- What a document can be made of: integers of 64 bits with or without a sign, finite floats,
arrays whose items can be counted, and objects that have each field once. -/
def Regular : Json → Prop
  | .num (.int n) => Text.minInt64 ≤ n ∧ n < Text.wordBound
  | .num (.float x) => x.isFinite = true
  | .arr items => items.length ≤ Text.maxInt64
  | .obj fields => (fields.map (·.1)).Nodup
  | _ => True

theorem sameItems_length {as bs : List Json} (h : sameItems as bs = true) :
    as.length = bs.length := by
  induction as generalizing bs with
  | nil => cases bs with
    | nil => rfl
    | cons b bs => cases h
  | cons a as ih => cases bs with
    | nil => cases h
    | cons b bs =>
      rw [sameItems, Bool.and_eq_true] at h
      exact congrArg (· + 1) (ih h.2)

theorem sameItems_map {items : List Json} {f : Json → Json} :
    sameItems items (items.map f) = true ↔ ∀ v ∈ items, same v (f v) = true := by
  induction items with
  | nil => simp [sameItems]
  | cons v rest ih => rw [List.map_cons, sameItems, Bool.and_eq_true, ih, List.forall_mem_cons]

theorem get?_of_mem {row : Row} (hnodup : (row.map (·.1)).Nodup) {field : String × Json}
    (h : field ∈ row) : row.get? field.1 = some field.2 :=
  Dictionary.find?_of_mem hnodup h

theorem sameFields_iff {fields : List (String × Json)} {row : Row} :
    sameFields fields row = true ↔
      ∀ field ∈ fields, ∃ w, row.get? field.1 = some w ∧ same field.2 w = true := by
  induction fields with
  | nil => simp [sameFields]
  | cons field rest ih =>
    obtain ⟨k, v⟩ := field
    rw [sameFields, Bool.and_eq_true, ih, List.forall_mem_cons]
    cases row.get? k <;> simp

theorem float_beq_self {x : Float} (h : x.isFinite = true) : (x == x) = true := by
  refine beq_of_unsigned (a := x.toModel.unpack) (b := x.toModel.unpack) rfl ?_
  have hfinite : x.toModel.unpack.isFinite = true := h
  cases hx : x.toModel.unpack with
  | notANumber => rw [hx] at hfinite; cases hfinite
  | _ => rfl

/-- A document is the same as itself; it has no float that differs from itself. -/
theorem same_self {v : Json} (h : v.Everywhere Regular) : same v v = true := by
  induction v using Json.induction with
  | null => rfl
  | bool b => exact beq_self_eq_true b
  | num n =>
    cases n with
    | int n => exact beq_self_eq_true n
    | float x => exact float_beq_self h
  | str s => exact beq_self_eq_true s
  | arr items ih =>
    rw [everywhere_arr] at h
    have hitems := (sameItems_map (f := id)).mpr fun v hv => ih v hv (h.2 v hv)
    rwa [List.map_id] at hitems
  | obj fields ih =>
    rw [everywhere_obj] at h
    rw [same, beq_self_eq_true, Bool.true_and, sameFields_iff]
    intro field hfield
    exact ⟨field.2, get?_of_mem h.1 hfield, ih field hfield (h.2 field hfield)⟩

end QueryCatalog.Json
