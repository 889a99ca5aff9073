import Mathlib.Tactic.SplitIfs
import QueryCatalog.Engine.Fetch
import QueryCatalog.Proofs.Json.Equality
import QueryCatalog.Proofs.Json.Path

/-!
Fetches for whole batches of parents. A batch binds its parameters to the values of all its
parents, and the matching of the rows that come back leaves each parent with its own.
-/
namespace QueryCatalog

namespace Json

/-- Null or a scalar. -/
def isFlat (v : Json) : Bool := v.isNull || v.isScalar

/-- The values that a parameter is bound to, of which null is none. -/
def candidates : Json → List Json
  | .null => []
  | .arr items => items
  | v => [v]

theorem matchesValue_scalar {v : Json} (h : v.isScalar = true) (w : Json) :
    v.matchesValue w = equals v w := by
  cases v <;> first | rfl | cases h

/-- A list of values that has the value, or one that equals it. -/
def Covers (out : List Json) (v : Json) : Prop := ∃ u ∈ out, u = v ∨ equals u v = true

theorem mem_of_mem_pushUnique {out : List Json} {u v : Json} {distinct : Bool}
    (h : u ∈ pushUnique out v distinct) : u ∈ out ∨ u = v := by
  unfold pushUnique at h
  split_ifs at h
  · exact .inl h
  · simpa using h

theorem mem_pushUnique_of_mem {out : List Json} {u : Json} (h : u ∈ out) (v : Json)
    (distinct : Bool) : u ∈ pushUnique out v distinct := by
  unfold pushUnique
  split_ifs
  · exact h
  · exact List.mem_append_left _ h

theorem covers_pushUnique (out : List Json) (v : Json) (distinct : Bool) :
    Covers (pushUnique out v distinct) v := by
  unfold pushUnique
  split_ifs with h
  · obtain ⟨u, hu, heq⟩ := List.any_eq_true.mp (Bool.and_eq_true_iff.mp h).2
    exact ⟨u, hu, .inr heq⟩
  · exact ⟨v, List.mem_append_right _ (List.mem_singleton_self v), .inl rfl⟩

theorem mem_of_mem_foldl_pushUnique {distinct : Bool} {items out : List Json} {u : Json}
    (h : u ∈ items.foldl (fun out v => pushUnique out v distinct) out) :
    u ∈ out ∨ u ∈ items := by
  induction items generalizing out with
  | nil => exact .inl h
  | cons v rest ih =>
    rcases ih h with hout | hrest
    · rcases mem_of_mem_pushUnique hout with hin | heq
      · exact .inl hin
      · exact .inr (by simp [heq])
    · exact .inr (List.mem_cons_of_mem v hrest)

theorem mem_foldl_pushUnique_of_mem {distinct : Bool} {items out : List Json} {u : Json}
    (h : u ∈ out) : u ∈ items.foldl (fun out v => pushUnique out v distinct) out := by
  induction items generalizing out with
  | nil => exact h
  | cons v rest ih => exact ih (mem_pushUnique_of_mem h v distinct)

/-- Every item is kept, or one that equals it. -/
theorem covers_foldl_pushUnique {distinct : Bool} {items : List Json} {v : Json}
    (h : v ∈ items) (out : List Json) :
    Covers (items.foldl (fun out v => pushUnique out v distinct) out) v := by
  induction items generalizing out with
  | nil => cases h
  | cons first rest ih =>
    rw [List.foldl_cons]
    rcases List.mem_cons.mp h with rfl | hrest
    · obtain ⟨u, hu, heq⟩ := covers_pushUnique out v distinct
      exact ⟨u, mem_foldl_pushUnique_of_mem hu, heq⟩
    · exact ih hrest _

end Json

open Json (Covers isScalar equals)

namespace Parameter

/-- The value of a row at the parameter's source, unless it is null. -/
def given? (p : Parameter) (row : Row) : Option Json :=
  (row.path? p.path).filter fun v => !v.isNull

theorem gather_eq (p : Parameter) (rows : List Row) :
    p.gather p.path rows =
      (rows.filterMap p.given?).foldl (fun out v => Json.pushUnique out v p.distinct) [] := by
  unfold gather
  generalize ([] : List Json) = out
  induction rows generalizing out with
  | nil => rfl
  | cons row rest ih =>
    rw [List.foldl_cons, ih, List.filterMap_cons]
    cases hv : row.path? p.path with
    | none => simp [given?, hv]
    | some v =>
      cases v with
      | null => simp [given?, hv, Option.filter, Json.isNull]
      | _ => simp [given?, hv, Option.filter, Json.isNull]

/-- What the parameter is bound to for some rows. -/
def bound (p : Parameter) (rows : List Row) : Json :=
  p.listed (p.deduplicated (p.gathered p.path rows))

/-- The values of the rows that are left after the removal of duplicates, if they are removed. -/
def kept (p : Parameter) (rows : List Row) : List Json :=
  if p.distinct then unique (p.gather p.path rows) else p.gather p.path rows

/-- Each row has null, a scalar or nothing at all at the parameter's source. -/
def FlatIn (p : Parameter) (rows : List Row) : Prop :=
  ∀ row ∈ rows, ∀ v, row.path? p.path = some v → v.isFlat = true

variable {p : Parameter} {rows : List Row} {row : Row}

theorem FlatIn.single (hflat : p.FlatIn rows) (hrow : row ∈ rows) : p.FlatIn [row] := by
  intro r hr v hv
  rw [List.mem_singleton.mp hr] at hv
  exact hflat row hrow v hv

theorem given?_eq_some_iff {v : Json} :
    p.given? row = some v ↔ row.path? p.path = some v ∧ v.isNull = false := by
  simp [given?, Option.filter_eq_some_iff]

theorem scalar_of_given (hflat : p.FlatIn rows) (hrow : row ∈ rows) {v : Json}
    (h : p.given? row = some v) : v.isScalar = true := by
  obtain ⟨hv, hnull⟩ := given?_eq_some_iff.mp h
  have hor := hflat row hrow v hv
  rw [Json.isFlat, hnull] at hor
  exact hor

theorem given_of_mem_gather {u : Json} (hu : u ∈ p.gather p.path rows) :
    ∃ row ∈ rows, p.given? row = some u := by
  rw [gather_eq] at hu
  rcases Json.mem_of_mem_foldl_pushUnique hu with hnil | hin
  · cases hnil
  · exact List.mem_filterMap.mp hin

theorem given_of_mem_kept {u : Json} (hu : u ∈ p.kept rows) :
    ∃ row ∈ rows, p.given? row = some u := by
  unfold kept at hu
  split_ifs at hu
  · rcases Json.mem_of_mem_foldl_pushUnique hu with hnil | hin
    · cases hnil
    · exact given_of_mem_gather hin
  · exact given_of_mem_gather hu

theorem kept_scalar (hflat : p.FlatIn rows) {u : Json} (hu : u ∈ p.kept rows) :
    u.isScalar = true := by
  obtain ⟨row, hrow, hgiven⟩ := given_of_mem_kept hu
  exact scalar_of_given hflat hrow hgiven

theorem gather_covers (hrow : row ∈ rows) {v : Json} (h : p.given? row = some v) :
    Covers (p.gather p.path rows) v := by
  rw [gather_eq]
  exact Json.covers_foldl_pushUnique (List.mem_filterMap.mpr ⟨row, hrow, h⟩) []

theorem kept_covers (hflat : p.FlatIn rows) (hrow : row ∈ rows) {v : Json}
    (h : p.given? row = some v) : Covers (p.kept rows) v := by
  obtain ⟨u, hu, huv⟩ := gather_covers hrow h
  by_cases hdistinct : p.distinct = true
  · have hkept : p.kept rows = unique (p.gather p.path rows) := if_pos hdistinct
    obtain ⟨x, hx, hxu⟩ : Covers (p.kept rows) u := by
      rw [hkept]
      exact Json.covers_foldl_pushUnique hu []
    refine ⟨x, hx, ?_⟩
    rcases hxu with rfl | hxu
    · exact huv
    rcases huv with rfl | huv
    · exact .inr hxu
    · exact .inr (Json.equals_trans (kept_scalar hflat hx) hxu huv)
  · have hkept : p.kept rows = p.gather p.path rows := if_neg hdistinct
    exact ⟨u, by rwa [hkept], huv⟩

theorem deduplicated_scalar (p : Parameter) {v : Json} (h : v.isScalar = true) :
    p.deduplicated v = v := by
  unfold deduplicated
  cases v with
  | arr items => cases h
  | _ => cases p.distinct <;> rfl

theorem candidates_listed_scalar (p : Parameter) {v : Json} (h : v.isScalar = true) :
    (p.listed v).candidates = [v] := by
  unfold listed
  cases v with
  | null => cases h
  | arr items => cases h
  | obj fields => cases h
  | _ => cases p.singleAsList <;> rfl

/-- For a single row the value stands by itself, and for several in a list. -/
theorem candidates_bound (hflat : p.FlatIn rows) : (p.bound rows).candidates = p.kept rows := by
  have hlist : ∀ values, (p.listed (p.deduplicated (.arr values))).candidates =
      if p.distinct then unique values else values := by
    intro values
    unfold deduplicated
    cases p.distinct <;> rfl
  unfold bound kept
  match rows with
  | [] => exact hlist _
  | [row] =>
    cases hv : p.given? row with
    | none => simp [gathered, gather_eq, hv, unique, Json.orNull, deduplicated, listed,
        Json.candidates]
    | some v =>
      have hscalar := scalar_of_given hflat (List.mem_singleton_self row) hv
      have hgather : p.gather p.path [row] = [v] := by
        simp [gather_eq, hv, Json.pushUnique]
      have hone : unique [v] = [v] := by simp [unique, Json.pushUnique]
      simp [gathered, hgather, hone, Json.orNull, p.deduplicated_scalar hscalar,
        p.candidates_listed_scalar hscalar]
  | _ :: _ :: _ => exact hlist _

/-- A parameter for the values that the parents themselves hold, as they are and under a plain
name. -/
structure IsKey (p : Parameter) : Prop where
  source : p.source = .parentResultField
  type : p.type = none
  name : PlainName p.name

theorem resolve_eq (hp : p.IsKey) (owner : String)
    (evaluate : Script → Except QueryError Json) (criteria : Json) (rows : List Row) :
    p.resolve owner evaluate criteria rows = .ok (p.bound rows) := by
  simp [resolve, sourceValue, converted, hp.source, hp.type, bound, bind, Except.bind, pure,
    Except.pure]

/-- A row of a table that the value of a parameter asks for. -/
def selects (p : Parameter) (value : Json) (row : Row) : Bool :=
  match row.get? p.name with
  | some w => value.candidates.any (equals · w)
  | none => false

/-- A row of a table with the parent's value, which is not null. -/
def owns (p : Parameter) (parent row : Row) : Bool :=
  match p.sourceName.bind fun path => parent.path? path, row.get? p.name with
  | some v, some w => !v.isNull && equals v w
  | _, _ => false

theorem selects_bound (hflat : p.FlatIn rows) {parent : Row} (hparent : parent ∈ rows) {v w : Json}
    (hv : p.given? parent = some v) (hw : row.get? p.name = some w) (heq : equals v w = true) :
    p.selects (p.bound rows) row = true := by
  obtain ⟨u, hu, huv⟩ := kept_covers hflat hparent hv
  rw [selects, hw, candidates_bound hflat]
  refine List.any_eq_true.mpr ⟨u, hu, ?_⟩
  rcases huv with rfl | huv
  · exact heq
  · exact Json.equals_trans (kept_scalar hflat hu) huv heq

theorem scalar_of_selects (hflat : p.FlatIn rows) {w : Json} (hw : row.get? p.name = some w)
    (h : p.selects (p.bound rows) row = true) : w.isScalar = true := by
  rw [selects, hw, candidates_bound hflat] at h
  obtain ⟨u, hu, heq⟩ := List.any_eq_true.mp h
  exact Json.isScalar_of_equals (kept_scalar hflat hu) heq

/-- A parent without a value gets none of the rows of the others. -/
theorem selects_and_null (hflat : p.FlatIn rows) {w : Json} (hw : row.get? p.name = some w) :
    (p.selects (p.bound rows) row && Json.null.matchesValue w) = false := by
  cases hs : p.selects (p.bound rows) row with
  | false => rfl
  | true =>
    have hscalar := scalar_of_selects hflat hw hs
    cases w with
    | null => cases hscalar
    | _ => rfl

/-- Of the rows that a batch asks for, those that match a parent are its own. -/
theorem selects_and_matchesKey (hp : p.IsKey) (hflat : p.FlatIn rows) {parent : Row}
    (hparent : parent ∈ rows) (row : Row) :
    (p.selects (p.bound rows) row && Fetch.matchesKey parent row p) = p.owns parent row := by
  rw [Fetch.matchesKey, Row.path?_plain hp.name, owns]
  cases hw : row.get? p.name with
  | none => simp [selects, hw]
  | some w =>
    cases hsource : p.sourceName.bind fun path => parent.path? path with
    | none => exact selects_and_null hflat hw
    | some v =>
      obtain ⟨path, hpath, hv⟩ := Option.bind_eq_some_iff.mp hsource
      have hat : parent.path? p.path = some v := by rw [Parameter.path, hpath, Option.getD, hv]
      by_cases hnull : v.isNull = true
      · have hv : v = .null := by cases v <;> first | rfl | cases hnull
        rw [hv]
        exact selects_and_null hflat hw
      · have hgiven : p.given? parent = some v := given?_eq_some_iff.mpr ⟨hat, by simpa using hnull⟩
        have hscalar := scalar_of_given hflat hparent hgiven
        have hmatches : (Json.orNull (some v)).matchesValue w = equals v w :=
          Json.matchesValue_scalar hscalar w
        simp only [hmatches, hnull, Bool.not_false, Bool.true_and]
        cases heq : equals v w with
        | false => exact Bool.and_false _
        | true => rw [selects_bound hflat hparent hgiven hw heq, Bool.and_true]

/-- What a parent asks for by itself, it asks for in a batch. -/
theorem selects_mono (hflat : p.FlatIn rows) {parent : Row} (hparent : parent ∈ rows)
    (h : p.selects (p.bound [parent]) row = true) : p.selects (p.bound rows) row = true := by
  have hone := hflat.single hparent
  cases hw : row.get? p.name with
  | none => simp [selects, hw] at h
  | some w =>
    rw [selects, hw, candidates_bound hone] at h
    obtain ⟨u, hu, heq⟩ := List.any_eq_true.mp h
    obtain ⟨r, hr, hgiven⟩ := given_of_mem_kept hu
    rw [List.mem_singleton.mp hr] at hgiven
    exact selects_bound hflat hparent hgiven hw heq

end Parameter

namespace Fetch

/-- A fetch whose parameters are all keys, each under a name of its own. -/
structure Keyed (f : Fetch) : Prop where
  keys : ∀ p ∈ f.parameters, p.IsKey
  names : (f.parameters.map (·.name)).Nodup

/-- Each row has null, a scalar or nothing at all where the parameters look. -/
def FlatIn (f : Fetch) (rows : List Row) : Prop := ∀ p ∈ f.parameters, p.FlatIn rows

def boundCriteria (f : Fetch) (rows : List Row) : Json :=
  .obj (f.parameters.map fun p => (p.name, p.bound rows))

/-- A row of a table that the criteria of the fetch ask for. -/
def selects (f : Fetch) (criteria : Json) (row : Row) : Bool :=
  f.parameters.all fun p => p.selects (criteria.field p.name) row

/-- A row of a table that has the parent's value under each parameter's name. -/
def owns (f : Fetch) (parent row : Row) : Bool := f.parameters.all fun p => p.owns parent row

/-- What a parent is to be given of a table: all of its own rows, or the first of them. -/
def own (f : Fetch) (table : List Row) (parent : Row) : Json :=
  if f.multiple then .arr ((table.filter (f.owns parent)).map .obj)
  else .orNull ((table.find? (f.owns parent)).map .obj)

variable {f : Fetch} {rows : List Row}

theorem foldlM_resolve (owner : String) (evaluate : Script → Except QueryError Json)
    (criteria : Json) (rows : List Row) (ps : List Parameter) (hkeys : ∀ p ∈ ps, p.IsKey)
    (hnames : (ps.map (·.name)).Nodup) (row : Row)
    (hnew : ∀ p ∈ ps, p.name ∉ row.map (·.1)) :
    ps.foldlM (fun (row : Row) p => do
      return row.setPath p.name (← p.resolve owner evaluate criteria rows)) row =
        (.ok (row ++ ps.map fun p => (p.name, p.bound rows)) : Except QueryError Row) := by
  induction ps generalizing row with
  | nil => simp [pure, Except.pure]
  | cons p rest ih =>
    have hp := hkeys p (by simp)
    obtain ⟨hfirst, hrest⟩ := List.nodup_cons.mp hnames
    have hput : row.setPath p.name (p.bound rows) = row ++ [(p.name, p.bound rows)] := by
      rw [Row.setPath_plain hp.name, Row.put_of_new (hnew p (by simp))]
    rw [List.foldlM_cons, p.resolve_eq hp]
    simp only [bind, Except.bind, pure, Except.pure, hput]
    have hnext := ih (fun q hq => hkeys q (List.mem_cons_of_mem p hq)) hrest
      (row ++ [(p.name, p.bound rows)]) ?_
    · simp only [bind, Except.bind, pure, Except.pure] at hnext
      rw [hnext]
      simp
    · intro q hq hin
      rw [List.map_append, List.mem_append] at hin
      rcases hin with hold | hlast
      · exact hnew q (List.mem_cons_of_mem p hq) hold
      · have hname : q.name = p.name := by simpa using hlast
        exact hfirst (List.mem_map.mpr ⟨q, hq, hname⟩)

theorem criteria_eq (hf : f.Keyed) (owner : String) (evaluate : Script → Except QueryError Json)
    (criteria : Json) (rows : List Row) :
    f.criteria owner evaluate criteria rows = .ok (f.boundCriteria rows) := by
  unfold Fetch.criteria
  rw [foldlM_resolve owner evaluate criteria rows f.parameters hf.keys hf.names [] (by simp)]
  rfl

theorem get?_of_names (g : Parameter → Json) (ps : List Parameter)
    (hnames : (ps.map (·.name)).Nodup) {p : Parameter} (hp : p ∈ ps) :
    Row.get? (ps.map fun p => (p.name, g p)) p.name = some (g p) := by
  unfold Row.get?
  induction ps with
  | nil => cases hp
  | cons q rest ih =>
    obtain ⟨hfirst, hrest⟩ := List.nodup_cons.mp hnames
    rcases List.mem_cons.mp hp with rfl | hin
    · simp
    · have hne : (p.name == q.name) = false := by
        have h : p.name ≠ q.name := fun heq => hfirst (List.mem_map.mpr ⟨p, hin, heq⟩)
        simpa using h
      simp [List.lookup_cons, hne, ih hrest hin]

theorem field_boundCriteria (hf : f.Keyed) {p : Parameter} (hp : p ∈ f.parameters) :
    (f.boundCriteria rows).field p.name = p.bound rows := by
  rw [boundCriteria, Json.field_plain (hf.keys p hp).name,
    get?_of_names (fun p => p.bound rows) f.parameters hf.names hp, Json.orNull]

theorem keys_eq (hf : f.Keyed) : f.keys = f.parameters := by
  refine List.filter_eq_self.mpr ?_
  intro p hp
  rw [(hf.keys p hp).source]
  rfl

theorem selects_and_matchesParent (hf : f.Keyed) (hflat : f.FlatIn rows) {parent : Row}
    (hparent : parent ∈ rows) (row : Row) :
    (f.selects (f.boundCriteria rows) row && matchesParent f.keys parent row) =
      f.owns parent row := by
  have hkey : ∀ p ∈ f.parameters, p.owns parent row =
      (p.selects ((f.boundCriteria rows).field p.name) row && matchesKey parent row p) := by
    intro p hp
    rw [field_boundCriteria hf hp]
    exact (Parameter.selects_and_matchesKey (hf.keys p hp) (hflat p hp) hparent row).symm
  rw [selects, matchesParent, keys_eq hf, owns, Bool.eq_iff_iff, Bool.and_eq_true]
  simp only [List.all_eq_true]
  constructor
  · intro ⟨hselects, hmatches⟩ p hp
    rw [hkey p hp, hselects p hp, hmatches p hp, Bool.and_true]
  · intro howns
    have hboth : ∀ p ∈ f.parameters,
        p.selects ((f.boundCriteria rows).field p.name) row = true ∧
          matchesKey parent row p = true := by
      intro p hp
      have h := howns p hp
      rw [hkey p hp] at h
      exact Bool.and_eq_true_iff.mp h
    exact ⟨fun p hp => (hboth p hp).1, fun p hp => (hboth p hp).2⟩

theorem selects_mono (hf : f.Keyed) (hflat : f.FlatIn rows) {parent row : Row}
    (hparent : parent ∈ rows) (h : f.selects (f.boundCriteria [parent]) row = true) :
    f.selects (f.boundCriteria rows) row = true := by
  rw [selects, List.all_eq_true] at h ⊢
  intro p hp
  have hone := h p hp
  rw [field_boundCriteria hf hp] at hone ⊢
  exact Parameter.selects_mono (hflat p hp) hparent hone

/-- Each parent is given its own rows, whichever other parents are in the batch. -/
theorem injected_eq_own (hf : f.Keyed) (hflat : f.FlatIn rows) {parent : Row}
    (hparent : parent ∈ rows) (table : List Row) :
    f.injected (table.filter (f.selects (f.boundCriteria rows))) parent = f.own table parent := by
  have howns := selects_and_matchesParent hf hflat hparent
  have hfilter : (table.filter (f.selects (f.boundCriteria rows))).filter
      (matchesParent f.keys parent) = table.filter (f.owns parent) := by
    rw [List.filter_filter]
    refine List.filter_congr fun row _ => ?_
    rw [Bool.and_comm, howns row]
  have hfind : (table.filter (f.selects (f.boundCriteria rows))).find?
      (matchesParent f.keys parent) = table.find? (f.owns parent) := by
    rw [List.find?_filter]
    congr 1
    funext row
    rw [← howns row, Bool.decide_and, Bool.decide_eq_true, Bool.decide_eq_true]
  rw [injected, own, hfilter, hfind]

/-- A batch brings at least the rows that each of its parents asks for. -/
theorem length_selects_le (hf : f.Keyed) (hflat : f.FlatIn rows) {parent : Row}
    (hparent : parent ∈ rows) (table : List Row) :
    (table.filter (f.selects (f.boundCriteria [parent]))).length ≤
      (table.filter (f.selects (f.boundCriteria rows))).length := by
  rw [← List.countP_eq_length_filter, ← List.countP_eq_length_filter]
  exact List.countP_mono_left fun row _ h => selects_mono hf hflat hparent h

end Fetch

end QueryCatalog
