import QueryCatalog.Proofs.Convert.Shape
import QueryCatalog.Proofs.Decimal.Rounding
import QueryCatalog.Proofs.Json.Sameness
import QueryCatalog.Proofs.Json.Writing
import QueryCatalog.Proofs.Lists

/-!
Conversion done again. A converted value is of the type that was asked for and is not changed any
more. The one exception are decimals: text that is read as a float without a finite value becomes
the integer zero, and zero becomes a float when it is converted again.
-/
namespace QueryCatalog

namespace Decimal

theorem isFinite_ofInt {n : Int} (hlow : Text.minInt64 ≤ n) (hhigh : n < Text.wordBound) :
    (Float.ofInt n).isFinite = true := by
  rw [Text.minInt64] at hlow
  rw [Text.wordBound] at hhigh
  cases n with
  | ofNat n =>
    rcases Nat.eq_zero_or_pos n with rfl | hpos
    · rfl
    · exact isFinite_ofNat hpos (Int.ofNat_lt.mp hhigh)
  | negSucc n =>
    obtain ⟨m, e, hm, hunpack, -⟩ := (stands_ofNat (Nat.succ_pos n) (by omega)).neg
    change (-Float.ofNat (n + 1)).toModel.unpack.isFinite = true
    rw [hunpack]
    rfl

end Decimal

namespace Convert

variable {type : ParameterType} {schema : Schema} {v w : Json}

theorem values_of_forall₂ {items ws : List Json}
    (h : List.Forall₂ (fun v w => value type v = .ok w) items ws) :
    values type items = .ok ws := by
  induction h with
  | nil => rfl
  | cons hfirst _ ih => rw [values, hfirst, ih]

theorem value_arr_of_forall₂ {items ws : List Json}
    (h : List.Forall₂ (fun v w => value type v = .ok w) items ws) :
    value type (.arr items) = .ok (.arr ws) := by
  by_cases htype : type = .json
  · subst htype
    have hsame : items = ws := by
      refine List.forall₂_eq_eq_eq ▸ h.imp fun v w hvw => ?_
      rw [value_json] at hvw
      exact Except.ok.inj hvw
    rw [value_json, hsame]
  · rw [value, if_neg (by simpa using htype), values_of_forall₂ h]
    rfl

/-- A type whose scalars are not changed any more changes no value any more. -/
theorem value_again_of_scalar (hscalar : ∀ v w, scalar v type = .ok w → value type w = .ok w)
    (h : value type v = .ok w) : value type w = .ok w := by
  induction v using Json.induction generalizing w with
  | null =>
    cases h
    rfl
  | arr items ih =>
    obtain ⟨ws, rfl, hitems⟩ := value_list h
    refine value_arr_of_forall₂ (List.forall₂_same.mpr fun w hw => ?_)
    obtain ⟨v, hv, hvw⟩ := exists_of_forall₂ hitems hw
    exact ih v hv hvw
  | bool b => exact hscalar _ _ h
  | num n => exact hscalar _ _ h
  | str s => exact hscalar _ _ h
  | obj fields => exact hscalar _ _ h

theorem toInteger_shape (h : toInteger v = .ok w) : ∃ n, w = .int n := by
  unfold toInteger at h
  split at h
  · exact ⟨_, (Except.ok.inj h).symm⟩
  · split at h
    · exact ⟨_, (Except.ok.inj h).symm⟩
    · cases h
  · split at h
    · exact ⟨_, (Except.ok.inj h).symm⟩
    · cases h
  · exact ⟨_, (Except.ok.inj h).symm⟩
  · cases h

theorem toBoolean_shape (h : toBoolean v = .ok w) : ∃ b, w = .bool b := by
  unfold toBoolean at h
  split at h
  · exact ⟨_, (Except.ok.inj h).symm⟩
  · exact ⟨_, (Except.ok.inj h).symm⟩
  · dsimp only at h
    split at h
    · exact ⟨_, (Except.ok.inj h).symm⟩
    · split at h
      · exact ⟨_, (Except.ok.inj h).symm⟩
      · cases h
  · cases h

theorem scalar_string_shape (h : scalar v .string = .ok w) : ∃ s, w = .str s := by
  cases v <;> exact ⟨_, (Except.ok.inj h).symm⟩

/-- Text, integers, truth values and documents are not changed any more. -/
theorem value_again (htype : type = .string ∨ type = .integer ∨ type = .boolean ∨ type = .json)
    (h : value type v = .ok w) : value type w = .ok w := by
  rcases htype with rfl | rfl | rfl | rfl
  · refine value_again_of_scalar (fun v w h => ?_) h
    obtain ⟨s, rfl⟩ := scalar_string_shape h
    rfl
  · refine value_again_of_scalar (fun v w h => ?_) h
    obtain ⟨n, rfl⟩ := toInteger_shape h
    rfl
  · refine value_again_of_scalar (fun v w h => ?_) h
    obtain ⟨b, rfl⟩ := toBoolean_shape h
    rfl
  · exact value_json w

/-- Text that is read as a float without a finite value, or a list that holds such text at some
depth. -/
inductive Unbounded : Json → Prop
  | text {s : String} {x : Float} : Decimal.float? (Text.trimChars s.toList) = some x →
      x.isFinite = false → Unbounded (.str s)
  | item {items : List Json} {v : Json} : v ∈ items → Unbounded v → Unbounded (.arr items)

theorem number_ofFloat {x : Float} (h : x.isFinite = true) : Number.ofFloat x = .float x := if_pos h

theorem decimal_float {x : Float} (h : x.isFinite = true) :
    value .decimal (.float x) = .ok (.float x) :=
  congrArg (fun n => Except.ok (Json.num n)) (number_ofFloat h)

/-- A value `v` that is converted to `w` and then to `u` is not changed any more after that, and not
by the second conversion either, unless it is a decimal without a finite value. -/
structure Again (type : ParameterType) (v w u : Json) : Prop where
  again : value type w = .ok u
  settled : value type u = .ok u
  same_iff : u = w ↔ (type = .decimal → ¬Unbounded v)

theorem again_of_float {x : Float} (hx : x.isFinite = true) (hv : ¬Unbounded v) :
    Again .decimal v (.float x) (.float x) :=
  ⟨decimal_float hx, decimal_float hx, iff_of_true rfl fun _ => hv⟩

theorem decimal_number {n : Number} (hn : Json.Regular (.num n))
    (h : value .decimal (.num n) = .ok w) : ∃ u, Again .decimal (.num n) w u := by
  have hfinite : n.toFloat.isFinite = true := by
    cases n with
    | int n => exact Decimal.isFinite_ofInt hn.1 hn.2
    | float x => exact hn
  have hw : w = .float n.toFloat := by
    refine (Except.ok.inj h).symm.trans ?_
    rw [number_ofFloat hfinite]
    rfl
  rw [hw]
  exact ⟨_, again_of_float hfinite (fun h => nomatch h)⟩

theorem decimal_text {s : String} (h : value .decimal (.str s) = .ok w) :
    ∃ u, Again .decimal (.str s) w u := by
  have htext : toDecimal (.str s) = .ok w := h
  unfold toDecimal at htext
  dsimp only at htext
  cases hread : Decimal.float? (Text.trimChars s.toList) with
  | none => rw [hread] at htext; cases htext
  | some x =>
    rw [hread] at htext
    obtain rfl := Except.ok.inj htext
    by_cases hx : x.isFinite = true
    · rw [number_ofFloat hx]
      refine ⟨_, again_of_float hx fun hunbounded => ?_⟩
      obtain ⟨hread', hinfinite⟩ := hunbounded
      rw [hread] at hread'
      obtain rfl := Option.some.inj hread'
      rw [hx] at hinfinite
      cases hinfinite
    · have hzero : Number.ofFloat x = .int 0 := if_neg hx
      have hfloat : (Float.ofInt 0).isFinite = true := rfl
      rw [hzero]
      refine ⟨.float (Float.ofInt 0), ?_, decimal_float hfloat, ?_⟩
      · exact congrArg (fun n => Except.ok (Json.num n)) (number_ofFloat hfloat)
      · exact iff_of_false (fun h => nomatch h)
          fun hbounded => hbounded rfl (.text hread (Bool.eq_false_iff.mpr hx))

theorem unbounded_arr_iff {items : List Json} :
    Unbounded (.arr items) ↔ ∃ v ∈ items, Unbounded v := by
  constructor
  · intro h
    cases h with
    | item hv hunbounded => exact ⟨_, hv, hunbounded⟩
  · rintro ⟨v, hv, hunbounded⟩
    exact .item hv hunbounded

theorem decimal_items {items ws : List Json}
    (h : List.Forall₂ (fun v w => ∃ u, Again .decimal v w u) items ws) :
    ∃ us, List.Forall₂ (fun w u => value .decimal w = .ok u) ws us ∧
      (∀ u ∈ us, value .decimal u = .ok u) ∧ (us = ws ↔ ∀ v ∈ items, ¬Unbounded v) := by
  induction h with
  | nil => exact ⟨[], .nil, by simp, by simp⟩
  | cons hfirst _ ih =>
    obtain ⟨u, hagain, hsettled, hsame⟩ := hfirst
    obtain ⟨us, hagains, hsettleds, hsames⟩ := ih
    refine ⟨u :: us, .cons hagain hagains, List.forall_mem_cons.mpr ⟨hsettled, hsettleds⟩, ?_⟩
    rw [List.cons.injEq, hsame, hsames, List.forall_mem_cons, imp_iff_right rfl]

theorem decimal_again (hv : v.Everywhere Json.Regular) (h : value .decimal v = .ok w) :
    ∃ u, Again .decimal v w u := by
  induction v using Json.induction generalizing w with
  | null =>
    cases h
    exact ⟨.null, rfl, rfl, iff_of_true rfl fun _ h => nomatch h⟩
  | bool b => cases h
  | num n => exact decimal_number hv h
  | str s => exact decimal_text h
  | arr items ih =>
    rw [Json.everywhere_arr] at hv
    obtain ⟨ws, rfl, hitems⟩ := value_list h
    have hagain : List.Forall₂ (fun v w => ∃ u, Again .decimal v w u) items ws := by
      rw [List.forall₂_iff_get] at hitems ⊢
      refine ⟨hitems.1, fun i hi hi' => ?_⟩
      have hmem := items.get_mem ⟨i, hi⟩
      exact ih _ hmem (hv.2 _ hmem) (hitems.2 i hi hi')
    obtain ⟨us, hus, hsettled, hsame⟩ := decimal_items hagain
    refine ⟨.arr us, value_arr_of_forall₂ hus,
      value_arr_of_forall₂ (List.forall₂_same.mpr hsettled), ?_⟩
    rw [Json.arr.injEq, hsame, unbounded_arr_iff]
    simp
  | obj fields => cases h

/-- Fields and what they are converted to, where both rows have them. -/
def Converts (schema : Schema) (row out : Row) : Prop :=
  ∀ entry ∈ schema, Option.Rel (fun v w => value entry.2 v = .ok w) (row.get? entry.1)
    (out.get? entry.1)

/-- Fields that are not declared stay as they are. -/
theorem get?_of_fields {row out : Row} {key : String} (hkey : key ∉ schema.map (·.1))
    (h : fields schema row = .ok out) : out.get? key = row.get? key := by
  induction schema generalizing row with
  | nil =>
    cases h
    rfl
  | cons entry rest ih =>
    obtain ⟨name, type⟩ := entry
    rw [List.map_cons, List.mem_cons, not_or] at hkey
    rw [fields] at h
    split at h
    · exact ih hkey.2 h
    · split at h
      · cases h
      · rw [ih hkey.2 h, Row.get?_put_of_ne hkey.1]

theorem ne_of_declared {name : String} {entry : String × ParameterType}
    (hname : name ∉ schema.map (·.1)) (hentry : entry ∈ schema) : entry.1 ≠ name := by
  rintro rfl
  exact hname (List.mem_map_of_mem hentry)

/-- Each declared field is converted for itself. -/
theorem converts_of_fields {row out : Row} (hnames : (schema.map (·.1)).Nodup)
    (h : fields schema row = .ok out) : Converts schema row out := by
  induction schema generalizing row with
  | nil => exact fun entry hentry => absurd hentry List.not_mem_nil
  | cons entry rest ih =>
    obtain ⟨name, type⟩ := entry
    rw [List.map_cons, List.nodup_cons] at hnames
    rw [fields] at h
    cases hget : row.get? name with
    | none =>
      rw [hget] at h
      refine List.forall_mem_cons.mpr ⟨?_, ih hnames.2 h⟩
      rw [get?_of_fields hnames.1 h, hget]
      exact .none
    | some v =>
      rw [hget] at h
      dsimp only at h
      cases hvalue : value type v with
      | error e => rw [hvalue] at h; cases h
      | ok w =>
        rw [hvalue] at h
        refine List.forall_mem_cons.mpr ⟨?_, fun entry hentry => ?_⟩
        · rw [get?_of_fields hnames.1 h, hget, Row.get?_put_self]
          exact .some hvalue
        · have hne := ne_of_declared hnames.1 hentry
          have hrel := ih hnames.2 h entry hentry
          rwa [Row.get?_put_of_ne hne] at hrel

/-- Conversion of a row succeeds where it succeeds for each declared field. -/
theorem exists_fields {row : Row} (hnames : (schema.map (·.1)).Nodup)
    (h : ∀ entry ∈ schema, ∀ v, row.get? entry.1 = some v → ∃ w, value entry.2 v = .ok w) :
    ∃ out, fields schema row = .ok out := by
  induction schema generalizing row with
  | nil => exact ⟨row, rfl⟩
  | cons entry rest ih =>
    obtain ⟨name, type⟩ := entry
    rw [List.map_cons, List.nodup_cons] at hnames
    rw [List.forall_mem_cons] at h
    rw [fields]
    cases hget : row.get? name with
    | none => exact ih hnames.2 h.2
    | some v =>
      obtain ⟨w, hw⟩ := h.1 v hget
      dsimp only
      rw [hw]
      refine ih hnames.2 fun entry hentry x hx => h.2 entry hentry x ?_
      have hne := ne_of_declared hnames.1 hentry
      rwa [Row.get?_put_of_ne hne] at hx

theorem put_of_get? {row : Row} {key : String} (h : row.get? key = some v) :
    row.put key v = row := by
  induction row with
  | nil => cases h
  | cons field rest ih =>
    obtain ⟨name, old⟩ := field
    by_cases hname : name = key
    · subst hname
      obtain rfl : old = v := by simpa [Row.get?] using h
      simp [Row.put]
    · have hne : (key == name) = false := by simpa using Ne.symm hname
      have hrest : Row.get? rest key = some v := by
        simpa [Row.get?, List.lookup_cons, hne] using h
      simp [Row.put, hname, ih hrest]

/-- A row whose declared fields are not changed is not changed. -/
theorem fields_eq_self {row : Row}
    (h : ∀ entry ∈ schema, ∀ v, row.get? entry.1 = some v → value entry.2 v = .ok v) :
    fields schema row = .ok row := by
  induction schema with
  | nil => rfl
  | cons entry rest ih =>
    obtain ⟨name, type⟩ := entry
    rw [List.forall_mem_cons] at h
    rw [fields]
    cases hget : row.get? name with
    | none => exact ih h.2
    | some v =>
      dsimp only
      rw [h.1 v hget]
      dsimp only
      rw [put_of_get? hget]
      exact ih h.2

theorem value_again_cases (htype : type ≠ .date ∧ type ≠ .datetime)
    (hv : v.Everywhere Json.Regular) (h : value type v = .ok w) : ∃ u, Again type v w u := by
  by_cases hdecimal : type = .decimal
  · subst hdecimal
    exact decimal_again hv h
  · have hsame : value type w = .ok w := by
      refine value_again ?_ h
      cases type <;> simp at htype hdecimal ⊢
    exact ⟨w, hsame, hsame, iff_of_true rfl fun htype => absurd htype hdecimal⟩

section

variable {row out settled : Row} {entry : String × ParameterType}

theorem Converts.to (h : Converts schema row out) (hentry : entry ∈ schema)
    (hv : row.get? entry.1 = some v) :
    ∃ w, out.get? entry.1 = some w ∧ value entry.2 v = .ok w := by
  have hrel := h entry hentry
  rw [hv] at hrel
  cases hget : out.get? entry.1 with
  | none => rw [hget] at hrel; cases hrel
  | some w =>
    rw [hget] at hrel
    cases hrel with
    | some hvalue => exact ⟨w, rfl, hvalue⟩

theorem Converts.from (h : Converts schema row out) (hentry : entry ∈ schema)
    (hw : out.get? entry.1 = some w) :
    ∃ v, row.get? entry.1 = some v ∧ value entry.2 v = .ok w := by
  have hrel := h entry hentry
  rw [hw] at hrel
  cases hget : row.get? entry.1 with
  | none => rw [hget] at hrel; cases hrel
  | some v =>
    rw [hget] at hrel
    cases hrel with
    | some hvalue => exact ⟨v, rfl, hvalue⟩

/-- A converted row is converted again, and then once and for all. -/
theorem fields_again (hnames : (schema.map (·.1)).Nodup)
    (htypes : ∀ entry ∈ schema, entry.2 ≠ .date ∧ entry.2 ≠ .datetime)
    (hrow : ∀ field ∈ row, field.2.Everywhere Json.Regular) (h : fields schema row = .ok out) :
    ∃ settled, fields schema out = .ok settled ∧ fields schema settled = .ok settled ∧
      (settled = out ↔ ∀ entry ∈ schema, entry.2 = .decimal →
        ∀ v, row.get? entry.1 = some v → ¬Unbounded v) := by
  have hfirst := converts_of_fields hnames h
  have hagain : ∀ entry ∈ schema, ∀ w, out.get? entry.1 = some w →
      ∃ v u, row.get? entry.1 = some v ∧ Again entry.2 v w u := by
    intro entry hentry w hw
    obtain ⟨v, hv, hvalue⟩ := hfirst.from hentry hw
    obtain ⟨u, hu⟩ := value_again_cases (htypes entry hentry) (hrow _ (Json.mem_of_get? hv)) hvalue
    exact ⟨v, u, hv, hu⟩
  have hsucceeds : ∀ entry ∈ schema, ∀ w, out.get? entry.1 = some w →
      ∃ u, value entry.2 w = .ok u := by
    intro entry hentry w hw
    obtain ⟨v, u, -, hu⟩ := hagain entry hentry w hw
    exact ⟨u, hu.again⟩
  obtain ⟨settled, hsettled⟩ := exists_fields hnames hsucceeds
  have hsecond := converts_of_fields hnames hsettled
  refine ⟨settled, hsettled, fields_eq_self fun entry hentry u hu => ?_, ?_, ?_⟩
  · obtain ⟨w, hw, hvalue⟩ := hsecond.from hentry hu
    obtain ⟨v, u', -, hu'⟩ := hagain entry hentry w hw
    obtain rfl := Except.ok.inj (hu'.again.symm.trans hvalue)
    exact hu'.settled
  · rintro rfl entry hentry hdecimal v hv
    obtain ⟨w, hw, -⟩ := hfirst.to hentry hv
    obtain ⟨v', u, hv', hu⟩ := hagain entry hentry w hw
    obtain ⟨w', hw', hvalue⟩ := hsecond.to hentry hw
    obtain rfl := Option.some.inj (hw.symm.trans hw')
    obtain rfl := Except.ok.inj (hu.again.symm.trans hvalue)
    obtain rfl := Option.some.inj (hv.symm.trans hv')
    exact hu.same_iff.mp rfl hdecimal
  · intro hbounded
    have hsame : fields schema out = .ok out := fields_eq_self fun entry hentry w hw => by
      obtain ⟨v, u, hv, hu⟩ := hagain entry hentry w hw
      obtain rfl := hu.same_iff.mpr fun hdecimal => hbounded entry hentry hdecimal v hv
      exact hu.again
    exact Except.ok.inj (hsettled.symm.trans hsame)

end

theorem criteria_obj {row : Row} (h : criteria schema (.obj row) = .ok w) :
    ∃ out, w = .obj out ∧ fields schema row = .ok out := by
  obtain ⟨out, hout, rfl⟩ := ok_of_map h
  exact ⟨out, rfl, hout⟩

theorem criteria_of_fields {row out : Row} (h : fields schema row = .ok out) :
    criteria schema (.obj row) = .ok (.obj out) := by
  rw [criteria, h]
  rfl

/-- Converted criteria are converted again, to the same criteria just if no decimal field has text
without a finite value in it, and what comes out then is not changed any more. -/
theorem criteria_again (hnames : (schema.map (·.1)).Nodup)
    (htypes : ∀ entry ∈ schema, entry.2 ≠ .date ∧ entry.2 ≠ .datetime)
    (hv : v.Everywhere Json.Regular) (h : criteria schema v = .ok w) :
    ∃ u, criteria schema w = .ok u ∧ criteria schema u = .ok u ∧
      (u = w ↔ ∀ row : Row, v = .obj row → ∀ entry ∈ schema, entry.2 = .decimal →
        ∀ x, row.get? entry.1 = some x → ¬Unbounded x) := by
  cases v with
  | obj row =>
    obtain ⟨out, rfl, hout⟩ := criteria_obj h
    obtain ⟨settled, hagain, hsettled, hsame⟩ :=
      fields_again hnames htypes (Json.everywhere_obj.mp hv).2 hout
    refine ⟨.obj settled, criteria_of_fields hagain, criteria_of_fields hsettled, ?_⟩
    rw [Json.obj.injEq, hsame]
    constructor
    · rintro hbounded _ ⟨rfl⟩
      exact hbounded
    · exact fun hbounded => hbounded row rfl
  | _ =>
    cases h
    exact ⟨_, rfl, rfl, iff_of_true rfl fun row hrow => nomatch hrow⟩

/-- Prices with nested lists of rates, and a flag and a note to go with them. -/
def priceSchema : Schema :=
  [("active", .boolean), ("note", .string), ("rates", .decimal), ("regions", .integer)]

def priceCriteria : Json :=
  .obj [("rates", .arr [.int 3, .arr [.str " 2.5", .null]]), ("active", .str "Yes"),
    ("note", .arr [.int 7]), ("regions", .str "+12"), ("other", .obj [("rates", .str "nan")])]

theorem priceCriteria_regular : priceCriteria.Everywhere Json.Regular := by
  simp [priceCriteria, Json.Everywhere, Json.EveryField, Json.EveryItem, Json.Regular, Json.int,
    Text.minInt64, Text.wordBound, Text.maxInt64]

theorem not_unbounded_rates : ¬Unbounded (.arr [.int 3, .arr [.str " 2.5", .null]]) := by
  have htext : ¬Unbounded (.str " 2.5") := by
    intro h
    cases h with
    | @text _ x hread hinfinite =>
      have hfinite : (Decimal.float? (Text.trimChars " 2.5".toList)).all (·.isFinite) = true := by
        decide +kernel
      rw [hread, Option.all_some, hinfinite] at hfinite
      cases hfinite
  have hnumber : ¬Unbounded (.int 3) := fun h => nomatch h
  have hnull : ¬Unbounded .null := fun h => nomatch h
  simp [unbounded_arr_iff, htext, hnumber, hnull]

theorem criteria_again_prices :
    ∃ w, criteria priceSchema priceCriteria = .ok w ∧ criteria priceSchema w = .ok w := by
  obtain ⟨w, hw⟩ : ∃ w, criteria priceSchema priceCriteria = .ok w := ⟨_, rfl⟩
  have hnames : (priceSchema.map (·.1)).Nodup := by decide
  obtain ⟨u, hu, -, hsame⟩ := criteria_again hnames (by decide) priceCriteria_regular hw
  have hbounded : u = w := hsame.mpr fun row hrow entry hentry hdecimal x hx => by
    obtain rfl := Json.obj.inj hrow
    have hrates : entry = ("rates", .decimal) := by
      simp only [priceSchema, List.mem_cons, List.not_mem_nil, or_false] at hentry
      rcases hentry with rfl | rfl | rfl | rfl <;> first | rfl | cases hdecimal
    rw [hrates] at hx
    obtain rfl := Option.some.inj hx
    exact not_unbounded_rates
  exact ⟨w, hw, hbounded ▸ hu⟩

/-- Text without a finite value is the integer zero first and a float then. -/
theorem zero_becomes_float :
    criteria [("rate", .decimal)] (.obj [("rate", .str "nan")]) = .ok (.obj [("rate", .int 0)]) ∧
      criteria [("rate", .decimal)] (.obj [("rate", .int 0)]) =
        .ok (.obj [("rate", .float (Float.ofInt 0))]) ∧
      Json.float (Float.ofInt 0) ≠ .int 0 := by
  refine ⟨by rfl, by rfl, fun h => nomatch h⟩

end Convert

end QueryCatalog
