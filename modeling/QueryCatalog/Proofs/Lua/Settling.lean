import Mathlib.Data.List.DropRight
import QueryCatalog.Lua.Data
import QueryCatalog.Proofs.Decimal.Rounding
import QueryCatalog.Proofs.Json.Everywhere
import QueryCatalog.Proofs.Json.Path

/-!
What becomes of a document that is made a value of Lua and read back. Null fields are not stored,
nulls at the end of an array are not counted, a table without entries reads as an object, and
integers beyond the signed ones of 64 bits become floats. Everything else stays.
-/
namespace QueryCatalog

def Number.settled (n : Number) : Number :=
  match n.int64? with
  | some i => .int i
  | none => .float n.toFloat

namespace Json

/-- A table without entries is an object. -/
def ofKept : List Json → Json
  | [] => .obj []
  | items => .arr items

mutual

def settled : Json → Json
  | .null => .null
  | .bool b => .bool b
  | .num n => .num n.settled
  | .str s => .str s
  | .arr items => ofKept ((settledItems items).rdropWhile isNull)
  | .obj fields => .obj (settledFields fields)

def settledItems : List Json → List Json
  | [] => []
  | v :: rest => settled v :: settledItems rest

def settledFields : List (String × Json) → List (String × Json)
  | [] => []
  | (k, v) :: rest => if v.isNull then settledFields rest else (k, settled v) :: settledFields rest

end

/-- A value that comes back as it was, apart from what is within it. -/
def Lossless : Json → Prop
  | .num (.int n) => n ≤ Text.maxInt64
  | .arr items => items ≠ [] ∧ items.getLast? ≠ some .null
  | .obj fields => ∀ field ∈ fields, field.2 ≠ .null
  | _ => True

theorem isNull_iff {v : Json} : v.isNull = true ↔ v = .null := by
  cases v <;> simp [isNull]

theorem isNull_ofKept (items : List Json) : (ofKept items).isNull = false := by
  cases items <;> rfl

theorem ofKept_ne_nil {items : List Json} (h : items ≠ []) : ofKept items = .arr items := by
  cases items with
  | nil => exact absurd rfl h
  | cons v rest => rfl

theorem isNull_settled (v : Json) : v.settled.isNull = v.isNull := by
  cases v with
  | arr items => rw [settled, isNull_ofKept]; rfl
  | _ => simp [settled, isNull]

theorem settledItems_eq (items : List Json) : settledItems items = items.map settled := by
  induction items with
  | nil => rfl
  | cons v rest ih => rw [settledItems, ih, List.map_cons]

theorem settledFields_eq (fields : List (String × Json)) :
    settledFields fields =
      (fields.filter (!·.2.isNull)).map fun field => (field.1, field.2.settled) := by
  induction fields with
  | nil => rfl
  | cons field rest ih =>
    obtain ⟨k, v⟩ := field
    cases hnull : v.isNull <;> simp [settledFields, hnull, ih]

theorem settled_arr (items : List Json) :
    settled (.arr items) = ofKept ((items.map settled).rdropWhile isNull) := by
  rw [settled, settledItems_eq]

theorem settledFields_names (fields : List (String × Json)) :
    (settledFields fields).map (·.1) = (fields.filter (!·.2.isNull)).map (·.1) := by
  rw [settledFields_eq, List.map_map]
  rfl

theorem settledFields_nodup {fields : List (String × Json)} (h : (fields.map (·.1)).Nodup) :
    ((settledFields fields).map (·.1)).Nodup := by
  rw [settledFields_names]
  exact h.sublist (List.filter_sublist.map _)

/-- An array keeps all its items if the last one is not null. -/
theorem kept_eq_self_iff {items : List Json} :
    (items.map settled).rdropWhile isNull = items.map settled ↔ items.getLast? ≠ some .null := by
  rw [List.rdropWhile_eq_self_iff]
  cases items using List.reverseRecOn with
  | nil => simp
  | append_singleton rest last =>
    simp [isNull_settled, isNull_iff]

theorem settledFields_eq_map {fields : List (String × Json)}
    (h : ∀ field ∈ fields, field.2 ≠ .null) :
    settledFields fields = fields.map fun field => (field.1, field.2.settled) := by
  have hall : fields.filter (!·.2.isNull) = fields := by
    rw [List.filter_eq_self]
    intro field hfield
    rw [Bool.not_eq_true', Bool.eq_false_iff]
    exact fun hnull => h field hfield (isNull_iff.mp hnull)
  rw [settledFields_eq, hall]

theorem settled_eq_self {v : Json} (hregular : v.Everywhere Regular)
    (h : v.Everywhere Lossless) : v.settled = v := by
  induction v using Json.induction with
  | null => rfl
  | bool b => rfl
  | str s => rfl
  | num n =>
    cases n with
    | float x => rfl
    | int n =>
      have hint : (Number.int n).int64? = some n := if_pos ⟨hregular.1, h⟩
      rw [settled, Number.settled, hint]
  | arr items ih =>
    rw [everywhere_arr] at hregular h
    obtain ⟨⟨hne, hlast⟩, hitems⟩ := h
    have hself : items.map settled = items.map id :=
      List.map_congr_left fun v hv => ih v hv (hregular.2 v hv) (hitems v hv)
    rw [settled_arr, kept_eq_self_iff.mpr hlast, hself, List.map_id, ofKept_ne_nil hne]
  | obj fields ih =>
    rw [everywhere_obj] at hregular h
    have hself : fields.map (fun field => (field.1, field.2.settled)) = fields.map id :=
      List.map_congr_left fun field hfield =>
        Prod.ext rfl (ih field hfield (hregular.2 field hfield) (h.2 field hfield))
    rw [settled, settledFields_eq_map h.1, hself, List.map_id]

/-- An array with fewer items, or no array, is another document. -/
theorem lossless_of_same {v : Json} (hregular : v.Everywhere Regular)
    (h : same v v.settled = true) : v.Everywhere Lossless := by
  induction v using Json.induction with
  | null => trivial
  | bool b => trivial
  | str s => trivial
  | num n =>
    cases n with
    | float x => trivial
    | int n =>
      by_contra hlarge
      have hint : (Number.int n).int64? = none := if_neg fun hrange => hlarge hrange.2
      rw [settled, Number.settled, hint] at h
      cases h
  | arr items ih =>
    rw [everywhere_arr] at hregular ⊢
    rw [settled_arr] at h
    by_cases hnone : (items.map settled).rdropWhile isNull = []
    · rw [hnone] at h
      cases h
    · rw [ofKept_ne_nil hnone, same] at h
      have hlength := sameItems_length h
      have hkept : (items.map settled).rdropWhile isNull = items.map settled := by
        refine (List.rdropWhile_prefix isNull _).eq_of_length ?_
        rw [← hlength, List.length_map]
      rw [hkept, sameItems_map] at h
      refine ⟨⟨?_, kept_eq_self_iff.mp hkept⟩, fun v hv => ih v hv (hregular.2 v hv) (h v hv)⟩
      rintro rfl
      exact hnone rfl
  | obj fields ih =>
    rw [everywhere_obj] at hregular ⊢
    rw [settled, same, Bool.and_eq_true, beq_iff_eq, sameFields_iff] at h
    obtain ⟨hlength, hfields⟩ := h
    rw [settledFields_eq, List.length_map] at hlength
    have hnonnull : ∀ field ∈ fields, field.2 ≠ .null := by
      intro field hfield hnull
      have hkept := List.filter_eq_self.mp
        (List.filter_sublist.eq_of_length hlength.symm) field hfield
      rw [hnull] at hkept
      cases hkept
    refine ⟨hnonnull, fun field hfield => ih field hfield (hregular.2 field hfield) ?_⟩
    obtain ⟨w, hget, hsame⟩ := hfields field hfield
    have hmem : (field.1, field.2.settled) ∈ settledFields fields := by
      rw [settledFields_eq_map hnonnull]
      exact List.mem_map_of_mem hfield
    rw [get?_of_mem (settledFields_nodup hregular.1) hmem] at hget
    cases hget
    exact hsame

theorem same_settled_iff {v : Json} (h : v.Everywhere Regular) :
    same v v.settled = true ↔ v.Everywhere Lossless := by
  refine ⟨lossless_of_same h, fun hlossless => ?_⟩
  rw [settled_eq_self h hlossless]
  exact same_self h

end Json

namespace Lua.Data

open Json (settled settledFields Regular isNull)

theorem position?_ofNat {i : Nat} (hpos : 0 < i) (hi : (i : Int) ≤ Text.maxInt64) :
    position? (.num (.int (Int64.ofNat i))) = some i := by
  have hlt : i < 2 ^ 63 := by
    simp only [Text.maxInt64] at hi
    omega
  have hint : (Int64.ofNat i).toInt = i := Int64.toInt_ofNat_of_lt hlt
  have hgt : Int64.ofNat i > 0 := by
    rw [gt_iff_lt, Int64.lt_iff_toInt_lt, hint, Int64.toInt_zero]
    omega
  rw [position?, if_pos hgt, hint, Int.toNat_natCast]

theorem isNil_ofNumber (n : Number) : (ofNumber n).isNil = false := by
  unfold ofNumber
  cases n.int64? <;> rfl

theorem isNil_ofJson (v : Json) : (ofJson v).isNil = v.isNull := by
  cases v with
  | num n => rw [ofJson, isNil_ofNumber]; rfl
  | _ => rw [ofJson]; rfl

theorem store_of_null {v : Json} (h : v.isNull = true) (key : Key) (rest : List (Key × Data)) :
    store key (ofJson v) rest = rest := by
  rw [Json.isNull_iff.mp h]
  rfl

theorem store_of_value {v : Json} (h : v.isNull = false) (key : Key) (rest : List (Key × Data)) :
    store key (ofJson v) rest = (key, ofJson v) :: rest := by
  rw [← isNil_ofJson] at h
  generalize ofJson v = d at h ⊢
  cases d with
  | nil => cases h
  | _ => rfl

/-- Each item that is not null has an entry under its index. -/
theorem ofItems_eq (i : Nat) (items : List Json) :
    ofItems i items = ((items.zipIdx i).filter (!·.1.isNull)).map fun item =>
      (.num (.int (Int64.ofNat item.2)), ofJson item.1) := by
  induction items generalizing i with
  | nil => rfl
  | cons v rest ih =>
    rw [ofItems, ih, List.zipIdx_cons]
    cases hnull : v.isNull with
    | true => rw [store_of_null hnull, List.filter_cons_of_neg (by simp [hnull])]
    | false => rw [store_of_value hnull, List.filter_cons_of_pos (by simp [hnull]), List.map_cons]

/-- Each field that is not null has an entry under its name. -/
theorem ofFields_eq (fields : List (String × Json)) :
    ofFields fields = (fields.filter (!·.2.isNull)).map fun field =>
      (.str field.1.toUTF8, ofJson field.2) := by
  induction fields with
  | nil => rfl
  | cons field rest ih =>
    obtain ⟨k, v⟩ := field
    rw [ofFields, ih]
    cases hnull : v.isNull with
    | true => rw [store_of_null hnull, List.filter_cons_of_neg (by simp [hnull])]
    | false => rw [store_of_value hnull, List.filter_cons_of_pos (by simp [hnull]), List.map_cons]

theorem ofItems_append (i : Nat) (items more : List Json) :
    ofItems i (items ++ more) = ofItems i items ++ ofItems (i + items.length) more := by
  rw [ofItems_eq, ofItems_eq, ofItems_eq, List.zipIdx_append, List.filter_append, List.map_append]

/-- The items of an array that a script can see. -/
def kept (items : List Json) : List Json := (items.map settled).rdropWhile isNull

theorem kept_length_le (items : List Json) : (kept items).length ≤ items.length := by
  have hle := (List.rdropWhile_prefix isNull (items.map settled)).length_le
  rwa [List.length_map] at hle

theorem kept_concat_null {items : List Json} {v : Json} (h : v.isNull = true) :
    kept (items ++ [v]) = kept items := by
  rw [kept, List.map_append, List.map_singleton,
    List.rdropWhile_concat_pos _ _ _ (by rwa [Json.isNull_settled]), kept]

theorem kept_concat_value {items : List Json} {v : Json} (h : v.isNull = false) :
    kept (items ++ [v]) = items.map settled ++ [v.settled] := by
  rw [kept, List.map_append, List.map_singleton,
    List.rdropWhile_concat_neg _ _ _ (by rw [Json.isNull_settled, h]; exact Bool.false_ne_true)]

/-- The largest index of an array is the number of items that are kept. -/
theorem largest_index {items : List Json} (h : (items.length : Int) ≤ Text.maxInt64) :
    (ofItems 1 items).foldlM (fun longest entry => (position? entry.1).map (max longest)) 0 =
      some (kept items).length := by
  induction items using List.reverseRecOn with
  | nil => rfl
  | append_singleton rest last ih =>
    have hlength : (rest ++ [last]).length = rest.length + 1 := by simp
    rw [hlength] at h
    have hrest := ih (by omega)
    rw [ofItems_append, List.foldlM_append, hrest]
    cases hnull : last.isNull with
    | true =>
      rw [ofItems, store_of_null hnull, kept_concat_null hnull]
      rfl
    | false =>
      have hle := kept_length_le rest
      have hindex : position? (.num (.int (Int64.ofNat (1 + rest.length)))) =
          some (1 + rest.length) := position?_ofNat (by omega) (by omega)
      have hmax : max (kept rest).length (1 + rest.length) = rest.length + 1 := by omega
      rw [ofItems, store_of_value hnull, kept_concat_value hnull, Option.bind_eq_bind,
        Option.bind_some, List.foldlM_cons, hindex, Option.map_some, hmax]
      simp [ofItems]

theorem kept_eq_nil_iff {items : List Json} : kept items = [] ↔ ∀ v ∈ items, v.isNull = true := by
  simp [kept, List.rdropWhile_eq_nil_iff, Json.isNull_settled]

theorem ofItems_eq_nil_iff {i : Nat} {items : List Json} :
    ofItems i items = [] ↔ ∀ v ∈ items, v.isNull = true := by
  induction items generalizing i with
  | nil => simp [ofItems]
  | cons v rest ih =>
    rw [ofItems, List.forall_mem_cons]
    cases hnull : v.isNull with
    | true => rw [store_of_null hnull, ih]; simp
    | false => rw [store_of_value hnull]; simp

theorem arrayLength?_ofItems {items : List Json} (h : (items.length : Int) ≤ Text.maxInt64) :
    arrayLength? (ofItems 1 items) = if kept items = [] then none else some (kept items).length := by
  rw [arrayLength?, largest_index h]
  simp only [List.isEmpty_iff, ofItems_eq_nil_iff, kept_eq_nil_iff]

/-- The items that are not null, each at its position. -/
def slots (i : Nat) (items : List Json) : List (Nat × Json) :=
  ((items.zipIdx i).filter (!·.1.isNull)).map fun item => (item.2, item.1.settled)

theorem toSlots?_map {items : List (Json × Nat)}
    (hindex : ∀ item ∈ items, 0 < item.2 ∧ (item.2 : Int) ≤ Text.maxInt64)
    (hitems : ∀ item ∈ items, (ofJson item.1).toJson? = some item.1.settled) :
    toSlots? (items.map fun item => (.num (.int (Int64.ofNat item.2)), ofJson item.1)) =
      some (items.map fun item => (item.2, item.1.settled)) := by
  induction items with
  | nil => rfl
  | cons item rest ih =>
    rw [List.forall_mem_cons] at hindex hitems
    have hposition := position?_ofNat hindex.1.1 hindex.1.2
    rw [List.map_cons, toSlots?, hposition, hitems.1, ih hindex.2 hitems.2]
    rfl

theorem toSlots?_ofItems {items : List Json} (hlength : (items.length : Int) ≤ Text.maxInt64)
    (hitems : ∀ v ∈ items, (ofJson v).toJson? = some v.settled) :
    toSlots? (ofItems 1 items) = some (slots 1 items) := by
  rw [ofItems_eq]
  refine toSlots?_map (fun item hitem => ?_) (fun item hitem => ?_)
  · have hmem := List.mem_of_mem_filter hitem
    have hle := List.le_snd_of_mem_zipIdx hmem
    have hlt := List.snd_lt_add_of_mem_zipIdx hmem
    omega
  · exact hitems _ (List.fst_mem_of_mem_zipIdx (List.mem_of_mem_filter hitem))

/-- A position without a slot is one of a null, or there is no such position. -/
theorem lookup_slots (i j : Nat) (items : List Json) :
    Json.orNull ((slots i items).lookup (i + j)) = Json.orNull (items.map settled)[j]? := by
  induction items generalizing i j with
  | nil => rfl
  | cons v rest ih =>
    have hlater : ∀ j, Json.orNull ((slots (i + 1) rest).lookup (i + (j + 1))) =
        Json.orNull (rest.map settled)[j]? := by
      intro j
      rw [← ih (i + 1) j, Nat.add_assoc, Nat.add_comm 1 j]
    cases hnull : v.isNull with
    | true =>
      have hslots : slots i (v :: rest) = slots (i + 1) rest := by
        rw [slots, List.zipIdx_cons, List.filter_cons_of_neg (by simp [hnull]), slots]
      rw [hslots]
      cases j with
      | zero =>
        have hnone : (slots (i + 1) rest).lookup i = none := by
          rw [List.lookup_eq_none_iff]
          intro slot hslot
          obtain ⟨item, hitem, rfl⟩ := List.mem_map.mp hslot
          have hle := List.le_snd_of_mem_zipIdx (List.mem_of_mem_filter hitem)
          exact bne_iff_ne.mpr (by dsimp only; omega)
        rw [Nat.add_zero, hnone, List.map_cons, Json.isNull_iff.mp hnull]
        rfl
      | succ j => exact hlater j
    | false =>
      have hslots : slots i (v :: rest) = (i, v.settled) :: slots (i + 1) rest := by
        rw [slots, List.zipIdx_cons, List.filter_cons_of_pos (by simp [hnull]), List.map_cons,
          slots]
      rw [hslots]
      cases j with
      | zero => simp [Json.orNull]
      | succ j =>
        have hne : (i + (j + 1) == i) = false := beq_eq_false_iff_ne.mpr (by omega)
        rw [List.lookup_cons, hne]
        exact hlater j

theorem fill_slots (items : List Json) :
    fill (kept items).length (slots 1 items) = kept items := by
  have hstart : kept items <+: items.map settled := List.rdropWhile_prefix isNull _
  refine List.ext_getElem (by simp [fill]) fun j hj hkept => ?_
  have hitem : (items.map settled)[j]? = some (kept items)[j] := by
    rw [hstart.getElem hkept]
    exact List.getElem?_eq_getElem _
  have hslot : (fill (kept items).length (slots 1 items))[j] =
      Json.orNull ((slots 1 items).lookup (j + 1)) := by
    simp [fill]
  rw [hslot, Nat.add_comm, lookup_slots, hitem]
  rfl

theorem fromUTF8?_toUTF8 (s : String) : String.fromUTF8? s.toUTF8 = some s :=
  dif_pos s.isValidUTF8

theorem toFields?_map {fields : List (String × Json)}
    (h : ∀ field ∈ fields, (ofJson field.2).toJson? = some field.2.settled) :
    toFields? (fields.map fun field => (.str field.1.toUTF8, ofJson field.2)) =
      some (fields.map fun field => (field.1, field.2.settled)) := by
  induction fields with
  | nil => rfl
  | cons field rest ih =>
    rw [List.forall_mem_cons] at h
    have hname : name? (.str field.1.toUTF8) = some field.1 := fromUTF8?_toUTF8 field.1
    rw [List.map_cons, toFields?, hname, h.1, ih h.2]
    rfl

theorem toFields?_ofFields {fields : List (String × Json)}
    (h : ∀ field ∈ fields, (ofJson field.2).toJson? = some field.2.settled) :
    toFields? (ofFields fields) = some (settledFields fields) := by
  rw [ofFields_eq, Json.settledFields_eq]
  exact toFields?_map fun field hfield => h field (List.mem_of_mem_filter hfield)

/-- Text is no position. -/
theorem arrayLength?_ofFields (fields : List (String × Json)) :
    arrayLength? (ofFields fields) = none := by
  rw [ofFields_eq]
  cases fields.filter (!·.2.isNull) <;> rfl

theorem toJson?_ofNumber {n : Number} (h : Regular (.num n)) :
    (ofNumber n).toJson? = some (.num n.settled) := by
  unfold ofNumber Number.settled
  cases n with
  | float x =>
    have hfinite : x.isFinite = true := h
    simp [Number.int64?, toJson?, Number.toFloat, hfinite]
  | int n =>
    by_cases hrange : Text.minInt64 ≤ n ∧ n ≤ Text.maxInt64
    · have hint : (Number.int n).int64? = some n := if_pos hrange
      simp only [Text.minInt64, Text.maxInt64] at hrange
      rw [hint]
      simp only [toJson?]
      rw [Int64.toInt_ofInt_of_le (by omega) (by omega)]
    · have hint : (Number.int n).int64? = none := if_neg hrange
      obtain ⟨hmin, hword⟩ := h
      simp only [Text.minInt64, Text.maxInt64, Text.wordBound] at hrange hmin hword
      obtain ⟨m, rfl⟩ : ∃ m : Nat, n = m := ⟨n.toNat, by omega⟩
      have hfinite : (Float.ofInt m).isFinite = true :=
        Decimal.isFinite_ofNat (by omega) (by omega)
      rw [hint]
      simp only [toJson?, Number.toFloat, hfinite, if_true]

theorem toJson?_ofJson {v : Json} (h : v.Everywhere Regular) :
    (ofJson v).toJson? = some v.settled := by
  induction v using Json.induction with
  | null => rfl
  | bool b => rfl
  | num n => exact toJson?_ofNumber h
  | str s => rw [ofJson, toJson?, fromUTF8?_toUTF8]; rfl
  | arr items ih =>
    rw [Json.everywhere_arr] at h
    have hslots := toSlots?_ofItems h.1 fun v hv => ih v hv (h.2 v hv)
    rw [ofJson, toJson?, arrayLength?_ofItems h.1]
    by_cases hnone : kept items = []
    · have hempty : ofItems 1 items = [] := ofItems_eq_nil_iff.mpr (kept_eq_nil_iff.mp hnone)
      have hsettled : settled (.arr items) = .obj [] := by
        rw [Json.settled_arr, ← kept, hnone]
        rfl
      rw [if_pos hnone, hempty, hsettled]
      rfl
    · have hsettled : settled (.arr items) = .arr (kept items) := by
        rw [Json.settled_arr, ← kept, Json.ofKept_ne_nil hnone]
      rw [if_neg hnone, hslots, hsettled]
      exact congrArg (fun items => some (Json.arr items)) (fill_slots items)
  | obj fields ih =>
    rw [Json.everywhere_obj] at h
    have hfields := toFields?_ofFields fun field hfield => ih field hfield (h.2 field hfield)
    rw [ofJson, toJson?, arrayLength?_ofFields, hfields, settled]
    exact congrArg (fun fields => some (Json.obj fields))
      (Row.ofList_of_nodup (Json.settledFields_nodup h.1))

end Lua.Data

end QueryCatalog
