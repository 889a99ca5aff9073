import QueryCatalog.Proofs.Convert.Shape
import QueryCatalog.Proofs.Engine.Batch
import QueryCatalog.Proofs.Engine.Execution
import QueryCatalog.Proofs.Json.Writing
import QueryCatalog.Proofs.Lists
import QueryCatalog.Proofs.Mapping.Soundness

/-!
Which fetched rows reach a parent when the values that were asked for had been converted to a
declared type. A row is matched against what the parents held before the conversion, so it is given
to none of them where only the converted value equals its own.
-/
namespace QueryCatalog

open Json (equals)

namespace Json

theorem equals_symm {a b : Json} (ha : a.isFlat = true) (h : equals b a = true) :
    equals a b = true := by
  cases a with
  | null =>
    cases b with
    | null => exact h
    | _ => cases h
  | bool x =>
    cases b with
    | bool y =>
      have hxy : y = x := by simpa [equals, BEq.beq, same] using h
      rw [hxy] at h ⊢
      exact h
    | _ => cases h
  | str x =>
    cases b with
    | str y =>
      have hxy : y = x := by simpa [equals, BEq.beq, same] using h
      rw [hxy] at h ⊢
      exact h
    | _ => cases h
  | num x =>
    cases b with
    | num y => exact float_beq_symm h
    | _ => cases h
  | arr items => cases ha
  | obj fields => cases ha

theorem equals_trans_flat {a b c : Json} (ha : a.isFlat = true) (hab : equals a b = true)
    (hbc : equals b c = true) : equals a c = true := by
  cases a with
  | null =>
    cases b with
    | null => exact hbc
    | _ => cases hab
  | arr items => cases ha
  | obj fields => cases ha
  | _ => exact equals_trans rfl hab hbc

theorem matchesValue_flat {v : Json} (h : v.isFlat = true) (w : Json) :
    v.matchesValue w = equals v w := by
  cases v <;> first | rfl | cases h

/-- The values that a bound value asks for: the items of a list, or the value itself. -/
def asked : Json → List Json
  | .arr items => items
  | v => [v]

end Json

namespace Parameter

variable {k : Parameter} {rows : List Row} {parent : Row}

/-- What a parent holds at the parameter's source, before any conversion. -/
def sourceOf (k : Parameter) (parent : Row) : Json := .orNull (parent.path? k.path)

theorem sourceOf_flat (hflat : k.FlatIn rows) (hparent : parent ∈ rows) :
    (k.sourceOf parent).isFlat = true := by
  unfold sourceOf
  cases hv : parent.path? k.path with
  | none => rfl
  | some v => exact hflat parent hparent v hv

theorem sourceOf_of_given {v : Json} (h : k.given? parent = some v) : k.sourceOf parent = v := by
  rw [sourceOf, (given?_eq_some_iff.mp h).1]
  rfl

theorem gathered_single (k : Parameter) (parent : Row) :
    k.gathered k.path [parent] = k.sourceOf parent := by
  have hlast : (k.gather k.path [parent]).getLast? = k.given? parent := by
    rw [gather_eq]
    cases hv : k.given? parent with
    | none => simp [hv]
    | some v => simp [hv, Json.pushUnique]
  unfold gathered
  dsimp only
  rw [hlast, sourceOf]
  cases hv : parent.path? k.path with
  | none => simp [given?, hv]
  | some v => cases v <;> simp [given?, hv, Option.filter, Json.isNull, Json.orNull]

theorem deduplicated_flat (k : Parameter) {v : Json} (h : v.isFlat = true) :
    k.deduplicated v = v := by
  unfold deduplicated
  cases v with
  | arr items => cases h
  | _ => cases k.distinct <;> rfl

theorem asked_listed_flat (k : Parameter) {v : Json} (h : v.isFlat = true) :
    (k.listed v).asked = [v] := by
  unfold listed
  cases v with
  | arr items => cases h
  | obj fields => cases h
  | null => rfl
  | _ => cases k.singleAsList <;> rfl

theorem deduplicated_gathered (hmany : rows.length ≠ 1) :
    k.deduplicated (k.gathered k.path rows) = .arr (k.kept rows) := by
  have hlist : k.gathered k.path rows = .arr (k.gather k.path rows) := by
    match rows, hmany with
    | [], _ => rfl
    | [_], hmany => exact absurd rfl hmany
    | _ :: _ :: _, _ => rfl
  rw [hlist]
  unfold deduplicated kept
  cases k.distinct <;> rfl

theorem converted_typed_iff {type : ParameterType} (htype : k.type = some type) {owner : String}
    {v u : Json} : k.converted owner v = .ok u ↔ Convert.value type v = .ok u := by
  unfold converted
  rw [htype]
  dsimp only
  cases Convert.value type v with
  | error error =>
    constructor
    · intro h
      cases h
    · intro h
      cases h
  | ok w =>
    constructor
    · intro h
      exact congrArg Except.ok (Except.ok.inj h)
    · intro h
      exact congrArg Except.ok (Except.ok.inj h)

theorem converted_untyped (htype : k.type = none) (owner : String) (v : Json) :
    k.converted owner v = .ok v := by
  rw [converted, htype]

theorem converted_flat {owner : String} {v u : Json} (hv : v.isFlat = true)
    (h : k.converted owner v = .ok u) : u.isFlat = true := by
  cases htype : k.type with
  | none =>
    rw [converted_untyped htype] at h
    cases h
    exact hv
  | some type =>
    rw [converted_typed_iff htype] at h
    exact Convert.flat_of_value hv h

theorem converted_list {owner : String} {items : List Json} {u : Json}
    (h : k.converted owner (.arr items) = .ok u) :
    ∃ ws, u = .arr ws ∧ List.Forall₂ (fun v w => k.converted owner v = .ok w) items ws := by
  cases htype : k.type with
  | none =>
    rw [converted_untyped htype] at h
    cases h
    exact ⟨items, rfl, List.forall₂_same.mpr fun w _ => converted_untyped htype owner w⟩
  | some type =>
    simp only [converted_typed_iff htype] at h ⊢
    exact Convert.value_list h

section Resolving

variable {owner : String} {evaluate : Script → Except QueryError Json} {criteria bound : Json}

theorem resolve_steps (h : k.resolve owner evaluate criteria rows = .ok bound) :
    ∃ v u, k.sourceValue evaluate criteria rows = .ok v ∧
      k.converted owner (k.deduplicated v) = .ok u ∧ bound = k.listed u := by
  rw [resolve] at h
  cases hv : k.sourceValue evaluate criteria rows with
  | error error =>
    simp only [bind, Except.bind, hv] at h
    cases h
  | ok v =>
    cases hu : k.converted owner (k.deduplicated v) with
    | error error =>
      simp only [bind, Except.bind, hv, hu] at h
      cases h
    | ok u =>
      simp only [bind, Except.bind, hv, hu] at h
      exact ⟨v, u, rfl, hu, (Except.ok.inj h).symm⟩

theorem resolve_cases (hsource : k.source = .parentResultField)
    (h : k.resolve owner evaluate criteria rows = .ok bound) :
    ∃ u, k.converted owner (k.deduplicated (k.gathered k.path rows)) = .ok u ∧
      bound = k.listed u := by
  obtain ⟨v, u, hv, hu, hbound⟩ := resolve_steps h
  rw [sourceValue, hsource] at hv
  cases hv
  exact ⟨u, hu, hbound⟩

/-- Each value that is asked for is what conversion makes of a value of the parents. -/
theorem mem_asked (hsource : k.source = .parentResultField) (hflat : k.FlatIn rows)
    (h : k.resolve owner evaluate criteria rows = .ok bound) {u : Json} (hu : u ∈ bound.asked) :
    ∃ parent ∈ rows, k.converted owner (k.sourceOf parent) = .ok u := by
  obtain ⟨c, hc, rfl⟩ := resolve_cases hsource h
  by_cases hone : rows.length = 1
  · obtain ⟨parent, rfl⟩ := List.length_eq_one_iff.mp hone
    have hparent := sourceOf_flat hflat (List.mem_singleton_self parent)
    rw [gathered_single, deduplicated_flat k hparent] at hc
    rw [asked_listed_flat k (converted_flat hparent hc), List.mem_singleton] at hu
    rw [hu]
    exact ⟨parent, List.mem_singleton_self parent, hc⟩
  · rw [deduplicated_gathered hone] at hc
    obtain ⟨ws, rfl, hws⟩ := converted_list hc
    obtain ⟨v, hv, hconverted⟩ := exists_of_forall₂ hws hu
    obtain ⟨parent, hparent, hgiven⟩ := given_of_mem_kept hv
    rw [← sourceOf_of_given hgiven] at hconverted
    exact ⟨parent, hparent, hconverted⟩

end Resolving

end Parameter

namespace Fetch

theorem resolved_of_foldlM {owner : String} {evaluate : Script → Except QueryError Json}
    {criteria : Json} {rows : List Row} {ps : List Parameter} {start asked : Row}
    (h : ps.foldlM (fun (row : Row) p => do
      return row.setPath p.name (← p.resolve owner evaluate criteria rows)) start = .ok asked) :
    ∀ k ∈ ps, ∃ bound, k.resolve owner evaluate criteria rows = .ok bound := by
  induction ps generalizing start with
  | nil => simp
  | cons p rest ih =>
    rw [List.foldlM_cons] at h
    cases hp : p.resolve owner evaluate criteria rows with
    | error error =>
      simp only [hp, bind, Except.bind] at h
      cases h
    | ok bound =>
      simp only [hp, bind, Except.bind, pure, Except.pure] at h
      exact List.forall_mem_cons.mpr ⟨⟨bound, hp⟩, ih h⟩

/-- Where the criteria of a fetch could be made, each of its parameters was resolved. -/
theorem resolved_of_criteria {f : Fetch} {owner : String}
    {evaluate : Script → Except QueryError Json} {criteria asked : Json} {rows : List Row}
    (h : f.criteria owner evaluate criteria rows = .ok asked) :
    ∀ k ∈ f.parameters, ∃ bound, k.resolve owner evaluate criteria rows = .ok bound := by
  unfold Fetch.criteria at h
  cases hrun : f.parameters.foldlM (fun (row : Row) p => do
      return row.setPath p.name (← p.resolve owner evaluate criteria rows)) ([] : Row) with
  | error error =>
    rw [hrun] at h
    cases h
  | ok row => exact resolved_of_foldlM hrun

/-- A parent is matched by what it holds itself, without any conversion. -/
theorem matchesKey_eq {k : Parameter} {rows : List Row} {parent row : Row} {w : Json}
    (hname : ∃ name, k.sourceName = some name) (hflat : k.FlatIn rows) (hparent : parent ∈ rows)
    (hw : row.path? k.name = some w) :
    matchesKey parent row k = equals (k.sourceOf parent) w := by
  obtain ⟨name, hname⟩ := hname
  have hsource : Json.orNull (k.sourceName.bind fun path => parent.path? path) =
      k.sourceOf parent := by
    rw [Parameter.sourceOf, Parameter.path, hname]
    rfl
  rw [matchesKey, hw]
  dsimp only
  rw [hsource, Json.matchesValue_flat (Parameter.sourceOf_flat hflat hparent)]

end Fetch

namespace Engine

variable {σ : Type} {e : Engine σ} {nested : Nested σ} {path : List String} {p : Prepared}
  {s t : Session σ} {after : List Row} {x : Execution} {k : Parameter} {property : String}

/-- The row stands in a list that was injected. -/
def ListedIn (property : String) (rows : List Row) (row : Row) : Prop :=
  ∃ r ∈ rows, ∃ items, r.path? property = some (.arr items) ∧ Json.obj row ∈ items

/-- A row that was fetched is listed where its value is that of a parent. -/
theorem listedIn_iff (hran : e.Ran nested path p s x t after) (hinjects : x.fetch.Injects property)
    (hmultiple : x.fetch.multiple = true) (hkeys : x.fetch.keys = [k])
    (hname : ∃ name, k.sourceName = some name) (hflat : k.FlatIn x.parents) {row : Row}
    (hrow : row ∈ x.fetched) {w : Json} (hw : row.path? k.name = some w) :
    ListedIn property after row ↔ ∃ parent ∈ x.parents, equals (k.sourceOf parent) w = true := by
  have hinjected : ∀ parent, x.fetch.injected x.fetched parent =
      .arr ((x.fetched.filter (Fetch.matchesParent [k] parent)).map .obj) := by
    intro parent
    rw [Fetch.injected, if_pos hmultiple, hkeys]
  have hmatches : ∀ parent ∈ x.parents, (Json.obj row ∈
      (x.fetched.filter (Fetch.matchesParent [k] parent)).map Json.obj ↔
        equals (k.sourceOf parent) w = true) := by
    intro parent hparent
    rw [List.mem_map_of_injective (fun _ _ h => Json.obj.inj h), List.mem_filter,
      Fetch.matchesParent, List.all_cons, List.all_nil, Bool.and_true,
      Fetch.matchesKey_eq hname hflat hparent hw]
    exact ⟨fun h => h.2, fun h => ⟨hrow, h⟩⟩
  rw [hran.after_eq hinjects.injection hinjects.property]
  constructor
  · rintro ⟨r, hr, items, hread, hin⟩
    obtain ⟨parent, hparent, rfl⟩ := List.mem_map.mp hr
    rw [Row.path?_setPath_self, hinjected, Option.some.injEq, Json.arr.injEq] at hread
    rw [← hread] at hin
    exact ⟨parent, hparent, (hmatches parent hparent).mp hin⟩
  · rintro ⟨parent, hparent, heq⟩
    refine ⟨_, List.mem_map_of_mem hparent, _, ?_, (hmatches parent hparent).mpr heq⟩
    rw [Row.path?_setPath_self, hinjected]

/-- What becomes of a fetched row with a value that equals one of those that were asked for. -/
structure MatchedBySource (owner : String) (k : Parameter) (parents : List Row) (u w : Json)
    (listed : Prop) : Prop where
  /-- It is listed exactly if some parent holds its value. -/
  iff : listed ↔ ∃ parent ∈ parents, equals (k.sourceOf parent) w = true
  /-- Conversion does no harm where it leaves a value equal to what it was. -/
  kept : (∃ parent ∈ parents, k.converted owner (k.sourceOf parent) = .ok u ∧
    equals (k.sourceOf parent) u = true) → listed
  /-- Without a type there is no conversion. -/
  untyped : k.type = none → listed

theorem rows_matched_by_source (hran : e.Ran nested path p s x t after)
    (hinjects : x.fetch.Injects property) (hmultiple : x.fetch.multiple = true)
    (hkeys : x.fetch.keys = [k]) (hsound : k.Sound) (hflat : k.FlatIn x.parents) :
    ∃ bound, k.resolve p.name (fun script => e.evaluate p.name script (fetchBindings p x.parents))
        p.request.criteria x.parents = .ok bound ∧
      ∀ u ∈ bound.asked,
        (∃ parent ∈ x.parents, k.converted p.name (k.sourceOf parent) = .ok u) ∧
        ∀ row ∈ x.fetched, ∀ w, row.path? k.name = some w → equals w u = true →
          MatchedBySource p.name k x.parents u w (ListedIn property after row) := by
  have hkey : k ∈ x.fetch.keys := by
    rw [hkeys]
    exact List.mem_singleton_self k
  obtain ⟨hk, hsource⟩ := List.mem_filter.mp hkey
  have hsource : k.source = .parentResultField := by simpa using hsource
  have hname : ∃ name, k.sourceName = some name := by
    obtain ⟨name, hname, -⟩ := hsound.sourceName (.inr hsource)
    exact ⟨name, hname⟩
  obtain ⟨bound, hbound⟩ := Fetch.resolved_of_criteria hran.asked k hk
  refine ⟨bound, hbound, fun u hu => ?_⟩
  obtain ⟨origin, horigin, hconverted⟩ := Parameter.mem_asked hsource hflat hbound hu
  refine ⟨⟨origin, horigin, hconverted⟩, fun row hrow w hw hwu => ?_⟩
  have hlisted := listedIn_iff hran hinjects hmultiple hkeys hname hflat hrow hw
  have huflat := Parameter.converted_flat (Parameter.sourceOf_flat hflat horigin) hconverted
  have huw := Json.equals_symm huflat hwu
  have hheld : ∀ parent ∈ x.parents, equals (k.sourceOf parent) u = true →
      ListedIn property after row := by
    intro parent hparent heq
    have hparents := Json.equals_trans_flat (Parameter.sourceOf_flat hflat hparent) heq huw
    exact hlisted.mpr ⟨parent, hparent, hparents⟩
  constructor
  · exact hlisted
  · rintro ⟨parent, hparent, -, heq⟩
    exact hheld parent hparent heq
  · intro htype
    rw [Parameter.converted_untyped htype, Except.ok.injEq] at hconverted
    rw [← hconverted] at huw
    exact hlisted.mpr ⟨origin, horigin, huw⟩

/-- The id of a user, which is text, as the number that orders hold. -/
def userKey : Parameter :=
  .ofDefinition
    { name := "user_id", source := .parentResultField, sourceName := some "id",
      type := some "integer" }

def ordersOfUsers : Fetch where
  referenceName := "orders"
  referenceVersion := ""
  property := some "orders"
  injection := none
  parameters := [userKey]
  multiple := true
  maxSize := 1024
  predicate := none
  eager := true

def orderRow : Row := [("user_id", .int 5), ("total", .int 9)]

def orderStorage : Engine Unit where
  executor :=
    { get := fun _ _ _ s => (.ok none, s)
      select := fun _ _ _ args s =>
        (.ok ([orderRow].filter fun row => args.any fun v => row.get? "user_id" == some v), s) }

def orderSession : Session Unit :=
  { store :=
      { catalog :=
          [("orders", .ofDefinition
            { name := "orders"
              script := { kind := some .literal,
                          code := some "SELECT * FROM orders WHERE user_id = :user_id" } })]
        running := true }
    storage := () }

def userPrepared : Prepared :=
  { query := .ofDefinition { name := "users" }
    request := {}
    bound := ⟨"SELECT * FROM users", []⟩
    expanded := true }

/-- The orders of a user with the id `"5"`, which is asked for as `5`. -/
def orderExecution : Execution where
  fetch := ordersOfUsers
  parents := [[("id", .str "5")]]
  criteria := .obj [("user_id", .int 5)]
  fetched := [orderRow]

theorem userKey_flat : userKey.FlatIn orderExecution.parents := by
  intro row hrow v hv
  rw [List.mem_singleton.mp hrow] at hv
  cases hv
  rfl

theorem userKey_sound : userKey.Sound where
  sourceName _ := ⟨"id", rfl, by decide⟩
  constant h := by cases h
  script h := by cases h

theorem ordersOfUsers_injects : ordersOfUsers.Injects "orders" := ⟨rfl, rfl, rfl⟩

theorem orders_brought :
    orderStorage.Brings ordersOfUsers userPrepared.request.context orderSession
      orderExecution.criteria orderExecution.fetched :=
  ⟨_, _, ⟨"SELECT * FROM orders WHERE user_id = ?", [.int 5]⟩, _, rfl, rfl, rfl, rfl, rfl⟩

theorem orders_ran : ∃ t after, orderStorage.Ran (orderStorage.nestedOf 1) ["users"] userPrepared
    orderSession orderExecution t after := by
  obtain ⟨t, ht⟩ := nested_of_brings orders_brought (by decide) 0
    (["users"] ++ [ordersOfUsers.target])
  exact ⟨t, _, rfl, rfl, rfl, by decide, ht, rfl⟩

theorem rows_matched_by_source_orders : ∃ t after, orderStorage.Ran (orderStorage.nestedOf 1)
      ["users"] userPrepared orderSession orderExecution t after ∧
    ordersOfUsers.Injects "orders" ∧ ordersOfUsers.multiple = true ∧
    ordersOfUsers.keys = [userKey] ∧ userKey.Sound ∧ userKey.FlatIn orderExecution.parents ∧
    ∃ bound, userKey.resolve userPrepared.name (fun script =>
        orderStorage.evaluate userPrepared.name script
          (fetchBindings userPrepared orderExecution.parents)) userPrepared.request.criteria
        orderExecution.parents = .ok bound ∧
      ∀ u ∈ bound.asked,
        (∃ parent ∈ orderExecution.parents,
          userKey.converted userPrepared.name (userKey.sourceOf parent) = .ok u) ∧
        ∀ row ∈ orderExecution.fetched, ∀ w, row.path? userKey.name = some w → equals w u = true →
          MatchedBySource userPrepared.name userKey orderExecution.parents u w
            (ListedIn "orders" after row) := by
  obtain ⟨t, after, hran⟩ := orders_ran
  exact ⟨t, after, hran, ordersOfUsers_injects, rfl, rfl, userKey_sound, userKey_flat,
    rows_matched_by_source hran ordersOfUsers_injects rfl rfl userKey_sound userKey_flat⟩

/-- The order was asked for by its user's id and is given to nobody. -/
theorem converted_key_loses_row : ∃ t after bound, orderStorage.Ran (orderStorage.nestedOf 1)
      ["users"] userPrepared orderSession orderExecution t after ∧
    ordersOfUsers.Injects "orders" ∧ ordersOfUsers.multiple = true ∧
    ordersOfUsers.keys = [userKey] ∧ userKey.FlatIn orderExecution.parents ∧
    userKey.resolve userPrepared.name (fun script => orderStorage.evaluate userPrepared.name
      script (fetchBindings userPrepared orderExecution.parents)) userPrepared.request.criteria
      orderExecution.parents = .ok bound ∧
    ∃ u ∈ bound.asked, ∃ row ∈ orderExecution.fetched, ∃ w, row.path? userKey.name = some w ∧
      equals w u = true ∧ ¬ListedIn "orders" after row := by
  obtain ⟨t, after, hran⟩ := orders_ran
  refine ⟨t, after, .int 5, hran, ordersOfUsers_injects, rfl, rfl, userKey_flat, rfl, .int 5,
    List.mem_singleton_self _, orderRow, List.mem_singleton_self _, .int 5, rfl, rfl, ?_⟩
  rw [listedIn_iff hran ordersOfUsers_injects rfl rfl ⟨"id", rfl⟩ userKey_flat
    (List.mem_singleton_self _) rfl]
  rintro ⟨parent, hparent, heq⟩
  rw [List.mem_singleton.mp hparent] at heq
  cases heq

end Engine

end QueryCatalog
