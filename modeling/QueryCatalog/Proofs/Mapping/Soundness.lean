import QueryCatalog.Proofs.Mapping.References

/-!
What may be relied on in a catalog that was built. Validation looks at definitions and the catalog
holds queries made from them; each check is read here as a fact about the query, so that in the end
every definition has its query, and nothing that was checked is lost on the way.
-/
namespace QueryCatalog

/-- Text that can be evaluated for a value. -/
def Script.Evaluates (s : Script) : Prop :=
  s.isValid = true ∧ (s.kind = .lua ∨ s.kind = .native)

structure Parameter.Sound (p : Parameter) : Prop where
  sourceName : p.source = .parentParameter ∨ p.source = .parentResultField →
    ∃ name, p.sourceName = some name ∧ Text.allBlank name = false
  constant : p.source = .constant → ∃ value, p.value = some value
  script : p.source = .script → ∃ s, p.script = some s ∧ s.Evaluates

structure Fetch.Sound (catalog : Catalog) (owner : String) (f : Fetch) : Prop where
  reference : ∃ q, catalog.find? f.target = some q ∧ q.id = f.target ∧ q.id ≠ owner
  injection : (∃ path, f.property = some path ∧ Text.allBlank path = false ∧ f.injection = none) ∨
    (f.property = none ∧ ∃ s, f.injection = some s ∧ s.Evaluates)
  predicate : ∀ s, f.predicate = some s → s.Evaluates
  parameters : ∀ p ∈ f.parameters, p.Sound

structure Query.Sound (catalog : Catalog) (q : Query) : Prop where
  body : q.script.isValid = true
  fetches : ∀ f ∈ q.fetches, f.Sound catalog q.id
  paths : (q.fetches.filterMap (·.property)).Nodup
  hints : ∀ h ∈ q.hints, ∀ s, h.script = some s → s.Evaluates

/-- The query is of the kind that was declared, and has every type that was. -/
structure Query.Keeps (definition : QueryDefinition) (q : Query) : Prop where
  kind : definition.script.kind = some q.script.kind
  types : q.parameterTypes.map (fun entry => (entry.1, some entry.2)) =
    definition.parameterTypes.map fun entry => (entry.1, ParameterType.ofName? entry.2)
  fetchTypes : q.fetches.map (·.parameters.map (·.type.map some)) =
    definition.fetches.map (·.parameters.map (·.type.map ParameterType.ofName?))

/-- One query for each definition, under its own name, and each of them sound. -/
structure Catalog.Sound (definitions : List QueryDefinition) (catalog : Catalog) : Prop where
  queries : catalog.Perm (definitions.map fun d => (d.id, Query.ofDefinition d))
  names : catalog.names.Nodup
  ids : ∀ entry ∈ catalog, entry.1 = entry.2.id
  found : ∀ d ∈ definitions, catalog.find? d.id = some (Query.ofDefinition d)
  kept : ∀ d ∈ definitions, (Query.ofDefinition d).Keeps d
  sound : ∀ entry ∈ catalog, entry.2.Sound catalog

namespace Validation

variable {known : List (String × QueryType)}

theorem script_of_no_faults {place : ScriptUse} {valuesOnly : Bool} {s : ScriptDefinition}
    (h : scriptFaults place valuesOnly s = []) :
    s.kind = some (Script.ofDefinition s).kind ∧ (Script.ofDefinition s).isValid = true ∧
      (valuesOnly = true → (Script.ofDefinition s).Evaluates) := by
  unfold scriptFaults at h
  cases hkind : s.kind with
  | none => rw [hkind] at h; cases h
  | some kind =>
    rw [hkind] at h
    obtain ⟨hblank, hevaluated⟩ := List.append_eq_nil_iff.mp h
    have hsame : (Script.ofDefinition s).kind = kind := by
      rw [Script.ofDefinition, hkind]
      rfl
    have hvalid : (Script.ofDefinition s).isValid = true := by
      have hnot : s.isBlank = false := by
        by_contra hne
        rw [if_pos (by simpa using hne)] at hblank
        cases hblank
      exact (congrArg (!·) hnot).trans rfl
    refine ⟨congrArg some hsame.symm, hvalid, fun hvalues => ⟨hvalid, ?_⟩⟩
    rw [hsame]
    cases kind with
    | lua => exact .inl rfl
    | native => exact .inr rfl
    | template => rw [hvalues] at hevaluated; cases hevaluated
    | literal => rw [hvalues] at hevaluated; cases hevaluated

theorem script_of_no_optional_faults {place : ScriptUse} {d : Option ScriptDefinition}
    (h : optionalScriptFaults place d = []) {s : Script}
    (hs : d.map Script.ofDefinition = some s) : s.Evaluates := by
  obtain ⟨definition, rfl, rfl⟩ := Option.map_eq_some_iff.mp hs
  exact (script_of_no_faults h).2.2 rfl

theorem parameter_of_no_faults {target : String} {p : ParameterDefinition}
    (h : parameterFaults target p = []) :
    (Parameter.ofDefinition p).Sound ∧
      (Parameter.ofDefinition p).type.map some = p.type.map ParameterType.ofName? := by
  unfold parameterFaults at h
  simp only [List.append_eq_nil_iff] at h
  obtain ⟨⟨⟨-, hname⟩, hsource⟩, htype⟩ := h
  refine ⟨⟨?_, ?_, ?_⟩, ?_⟩
  · intro hparent
    have hneeds : p.source.needsSourceName = true := by
      rcases hparent with hp | hp <;>
        · rw [show p.source = _ from hp]
          rfl
    cases hgiven : p.sourceName with
    | none =>
      rw [hneeds, hgiven] at hname
      cases hname
    | some name =>
      refine ⟨Text.trim name, congrArg (Option.map Text.trim) hgiven, ?_⟩
      rw [Text.allBlank_trim]
      by_contra hblank
      rw [hneeds, hgiven, Option.map_some, Option.getD_some,
        if_pos (by simpa using hblank)] at hname
      cases hname
  · intro hconstant
    have hp : p.source = .constant := hconstant
    unfold sourceFaults at hsource
    rw [hp] at hsource
    cases hvalue : p.value with
    | none =>
      rw [hvalue] at hsource
      cases hsource
    | some value => exact ⟨value, hvalue⟩
  · intro hscript
    have hp : p.source = .script := hscript
    unfold sourceFaults at hsource
    rw [hp] at hsource
    cases hs : p.script with
    | none =>
      rw [hs] at hsource
      cases hsource
    | some s =>
      rw [hs] at hsource
      exact ⟨Script.ofDefinition s, congrArg (Option.map Script.ofDefinition) hs,
        (script_of_no_faults hsource).2.2 rfl⟩
  · cases ht : p.type with
    | none => simp [Parameter.ofDefinition, ht]
    | some type =>
      rw [ht] at htype
      cases hknown : ParameterType.ofName? type with
      | none => simp [isUnknownType, hknown] at htype
      | some t => simp [Parameter.ofDefinition, ht, hknown]

/-- A path that counts is not blank. -/
theorem allBlank_of_path? {f : FetchDefinition} {path : String} (h : f.path? = some path) :
    Text.allBlank path = false := by
  obtain ⟨hmap, hne⟩ := Option.filter_eq_some_iff.mp h
  obtain ⟨property, -, rfl⟩ := Option.map_eq_some_iff.mp hmap
  by_contra hblank
  have hempty := (Text.allBlank_iff _).mp (by simpa using hblank)
  rw [Text.trim, String.toList_ofList, Text.trimChars_idempotent] at hempty
  simp [Text.trim, hempty] at hne

theorem injection_of_no_faults {taken : List String} {f : FetchDefinition}
    (h : injectionFaults taken f = []) :
    (∃ path, f.path? = some path ∧ f.injection = none ∧ path ∉ taken) ∨
      (f.path? = none ∧ ∃ s, f.injection = some s ∧ (Script.ofDefinition s).Evaluates) := by
  unfold injectionFaults at h
  cases hpath : f.path? with
  | some path =>
    cases hs : f.injection with
    | some s => rw [hpath, hs] at h; cases h
    | none =>
      rw [hpath, hs] at h
      refine .inl ⟨path, rfl, rfl, fun hmem => ?_⟩
      have hshared : (if taken.contains path then [Fault.sharedPath path] else []) = [] := h
      rw [if_pos (by simpa using hmem)] at hshared
      cases hshared
  | none =>
    cases hs : f.injection with
    | none => rw [hpath, hs] at h; cases h
    | some s =>
      rw [hpath, hs] at h
      exact .inr ⟨rfl, s, rfl, (script_of_no_faults h).2.2 rfl⟩

/-- The names that are known are those of the catalog. -/
def Resolves (known : List (String × QueryType)) (catalog : Catalog) : Prop :=
  ∀ name type, known.lookup name = some type →
    ∃ q, catalog.find? name = some q ∧ q.id = name

theorem fetch_of_no_faults {catalog : Catalog} (hresolves : Resolves known catalog) {id : String}
    {taken : List String} {f : FetchDefinition} (h : fetchFaults known id taken f = []) :
    (Fetch.ofDefinition f).Sound catalog id ∧ takenPath? f = f.path? ∧
      (∀ path, f.path? = some path → path ∉ taken) ∧
      (Fetch.ofDefinition f).parameters.map (·.type.map some) =
        f.parameters.map (·.type.map ParameterType.ofName?) := by
  unfold fetchFaults at h
  by_cases hblank : Text.allBlank f.reference = true
  · rw [if_pos hblank] at h
    cases h
  rw [if_neg hblank] at h
  simp only [List.append_eq_nil_iff, List.flatMap_eq_nil_iff] at h
  obtain ⟨⟨⟨⟨hself, hreference⟩, hinjection⟩, hpredicate⟩, hparameters⟩ := h
  have hother : f.target ≠ id := by
    intro heq
    rw [if_pos (beq_iff_eq.mpr heq)] at hself
    cases hself
  have htarget : (Fetch.ofDefinition f).target = f.target := Fetch.target_ofDefinition f
  have hinjected := injection_of_no_faults hinjection
  refine ⟨⟨?_, ?_, ?_, ?_⟩, ?_, ?_, ?_⟩
  · unfold referenceFaults at hreference
    cases hlookup : known.lookup f.target with
    | none =>
      rw [hlookup] at hreference
      cases hreference
    | some type =>
      obtain ⟨q, hq, hid⟩ := hresolves _ _ hlookup
      rw [htarget]
      exact ⟨q, hq, hid, by rw [hid]; exact hother⟩
  · rcases hinjected with ⟨path, hpath, hnone, -⟩ | ⟨hnone, s, hs, hevaluates⟩
    · exact .inl ⟨path, hpath, allBlank_of_path? hpath, by simp [Fetch.ofDefinition, hnone]⟩
    · exact .inr ⟨hnone, Script.ofDefinition s, by simp [Fetch.ofDefinition, hs], hevaluates⟩
  · intro s hs
    exact script_of_no_optional_faults hpredicate hs
  · intro p hp
    obtain ⟨definition, hdefinition, rfl⟩ := List.mem_map.mp hp
    exact (parameter_of_no_faults (hparameters definition hdefinition)).1
  · rcases hinjected with ⟨path, hpath, hnone, -⟩ | ⟨hnone, s, hs, -⟩
    · simp [takenPath?, hblank, hnone]
    · simp [takenPath?, hs, hnone]
  · intro path hpath
    rcases hinjected with ⟨path', hpath', -, hfree⟩ | ⟨hnone, -⟩
    · rw [hpath] at hpath'
      cases hpath'
      exact hfree
    · rw [hpath] at hnone
      cases hnone
  · simp only [Fetch.ofDefinition, List.map_map]
    refine List.map_congr_left fun p hp => ?_
    exact (parameter_of_no_faults (hparameters p hp)).2

theorem fetches_of_no_faults {catalog : Catalog} (hresolves : Resolves known catalog) {id : String}
    {fetches : List FetchDefinition} {taken : List String}
    (h : fetchesFaults known id taken fetches = []) :
    (∀ f ∈ fetches, (Fetch.ofDefinition f).Sound catalog id ∧
      (Fetch.ofDefinition f).parameters.map (·.type.map some) =
        f.parameters.map (·.type.map ParameterType.ofName?)) ∧
      (fetches.filterMap (·.path?)).Nodup ∧ ∀ path ∈ fetches.filterMap (·.path?), path ∉ taken := by
  induction fetches generalizing taken with
  | nil => simp
  | cons f rest ih =>
    rw [fetchesFaults, List.append_eq_nil_iff] at h
    obtain ⟨hsound, htaken, hfree, htypes⟩ := fetch_of_no_faults hresolves h.1
    obtain ⟨hrest, hnodup, hfrees⟩ := ih h.2
    refine ⟨List.forall_mem_cons.mpr ⟨⟨hsound, htypes⟩, hrest⟩, ?_⟩
    cases hpath : f.path? with
    | none =>
      rw [htaken, hpath] at hfrees
      rw [List.filterMap_cons_none hpath]
      exact ⟨hnodup, fun path hmem => hfrees path hmem⟩
    | some path =>
      rw [htaken, hpath] at hfrees
      rw [List.filterMap_cons_some hpath]
      refine ⟨List.nodup_cons.mpr ⟨fun hmem => ?_, hnodup⟩, List.forall_mem_cons.mpr ⟨?_, ?_⟩⟩
      · exact hfrees path hmem (by simp)
      · exact hfree path hpath
      · intro other hmem hother
        exact hfrees other hmem (by simp [hother])

theorem types_of_no_faults {types : Dictionary String} (h : typeFaults types = []) :
    (Query.schema types).map (fun entry => (entry.1, some entry.2)) =
      types.map fun entry => (entry.1, ParameterType.ofName? entry.2) := by
  induction types with
  | nil => rfl
  | cons entry rest ih =>
    obtain ⟨name, text⟩ := entry
    cases hknown : ParameterType.ofName? text with
    | none => simp [typeFaults, isUnknownType, hknown] at h
    | some t =>
      have hrest : typeFaults rest = [] := by
        simpa [typeFaults, isUnknownType, hknown] using h
      have hcons : Query.schema ((name, text) :: rest) = (name, t) :: Query.schema rest := by
        simp [Query.schema, hknown]
      rw [hcons, List.map_cons, List.map_cons, ih hrest, hknown]

theorem query_of_no_faults {catalog : Catalog} (hresolves : Resolves known catalog)
    {q : QueryDefinition} (h : ownFaults known q = []) :
    (Query.ofDefinition q).Sound catalog ∧ (Query.ofDefinition q).Keeps q := by
  simp only [ownFaults, List.append_eq_nil_iff, List.flatMap_eq_nil_iff] at h
  obtain ⟨⟨⟨hbody, htypes⟩, hhints⟩, hfetches⟩ := h
  obtain ⟨hkind, hvalid, -⟩ := script_of_no_faults hbody
  obtain ⟨hsound, hpaths, -⟩ := fetches_of_no_faults hresolves hfetches
  refine ⟨⟨hvalid, ?_, ?_, ?_⟩, ⟨hkind, types_of_no_faults htypes, ?_⟩⟩
  · intro f hf
    obtain ⟨definition, hdefinition, rfl⟩ := List.mem_map.mp hf
    rw [Query.id_ofDefinition]
    exact (hsound definition hdefinition).1
  · simp only [Query.ofDefinition, List.filterMap_map]
    exact hpaths
  · intro hint hmem s hs
    obtain ⟨definition, hdefinition, rfl⟩ := List.mem_map.mp hmem
    have hfaults := (List.append_eq_nil_iff.mp (hhints definition hdefinition)).2
    exact script_of_no_optional_faults hfaults hs
  · simp only [Query.ofDefinition, List.map_map]
    exact List.map_congr_left fun f hf => (hsound f hf).2

theorem duplicateFaults_eq_nil_iff {earlier : List (String × String)} {id : String} :
    duplicateFaults earlier id = [] ↔ id ∉ earlier.map (·.1) := by
  have hnone : earlier.lookup id = none ↔ id ∉ earlier.map (·.1) := by
    rw [List.lookup_eq_none_iff, List.mem_map, not_exists]
    refine forall_congr' fun entry => ?_
    rw [not_and, bne_iff_ne, ne_comm]
  rw [← hnone, duplicateFaults]
  cases earlier.lookup id <;> simp

/-- Nothing is wrong just if every definition is right on its own, and all names differ. -/
theorem problemsFrom_eq_nil_iff {set : List Sourced} {earlier : List (String × String)} :
    problemsFrom known earlier set = [] ↔
      (∀ s ∈ set, Text.allBlank s.definition.name = false ∧ ownFaults known s.definition = []) ∧
        (set.map (·.definition.id)).Nodup ∧
        ∀ s ∈ set, s.definition.id ∉ earlier.map (·.1) := by
  induction set generalizing earlier with
  | nil => simp [problemsFrom]
  | cons s rest ih =>
    obtain ⟨origin, q⟩ := s
    rw [problemsFrom, List.forall_mem_cons, List.forall_mem_cons, List.map_cons, List.nodup_cons]
    cases hblank : Text.allBlank q.name with
    | true => simp
    | false =>
      -- the name of the first one is among the earlier names for the rest
      have hfresh : (∀ s ∈ rest, s.definition.id ∉ ((q.id, origin) :: earlier).map (·.1)) ↔
          q.id ∉ rest.map (·.definition.id) ∧
            ∀ s ∈ rest, s.definition.id ∉ earlier.map (·.1) := by
        simp only [List.map_cons, List.mem_cons, not_or, forall_and, List.mem_map, not_exists,
          not_and]
      rw [if_neg Bool.false_ne_true, List.append_eq_nil_iff, List.map_eq_nil_iff,
        List.append_eq_nil_iff, duplicateFaults_eq_nil_iff, ih, hfresh]
      tauto

end Validation

/-- The names of a catalog are the names as they were written down. -/
theorem Catalog.ofDefinitions_eq (definitions : List QueryDefinition) :
    ofDefinitions definitions =
      Dictionary.ofList (definitions.map fun d => (d.id, Query.ofDefinition d)) := by
  have hentries : (definitions.map fun q => ((Query.ofDefinition q).id, Query.ofDefinition q)) =
      definitions.map fun d => (d.id, Query.ofDefinition d) :=
    List.map_congr_left fun q _ => by rw [Query.id_ofDefinition]
  rw [ofDefinitions, hentries]

/-- A catalog of definitions with different names has them all. -/
theorem Catalog.ofDefinitions_perm {definitions : List QueryDefinition}
    (hnodup : (definitions.map (·.id)).Nodup) :
    (Catalog.ofDefinitions definitions).Perm
      (definitions.map fun d => (d.id, Query.ofDefinition d)) := by
  rw [ofDefinitions_eq]
  refine Dictionary.ofList_perm ?_
  rw [List.map_map]
  exact hnodup

theorem Catalog.sound_of_no_problems {set : List Sourced} (h : Validation.problems set = []) :
    Catalog.Sound (set.map (·.definition)) (Catalog.ofDefinitions (set.map (·.definition))) := by
  obtain ⟨hown, hnodup, -⟩ := Validation.problemsFrom_eq_nil_iff.mp h
  have hids : ((set.map (·.definition)).map (·.id)).Nodup := by
    rw [List.map_map]
    exact hnodup
  have hqueries := Catalog.ofDefinitions_perm hids
  have hnames : (Catalog.ofDefinitions (set.map (·.definition))).names.Nodup := by
    refine ((hqueries.map (·.1)).nodup_iff).mpr ?_
    rw [List.map_map]
    exact hids
  have hfound : ∀ d ∈ set.map (·.definition),
      (Catalog.ofDefinitions (set.map (·.definition))).find? d.id = some (Query.ofDefinition d) := by
    intro d hd
    have hmem : (d.id, Query.ofDefinition d) ∈
        Catalog.ofDefinitions (set.map (·.definition)) :=
      hqueries.mem_iff.mpr (List.mem_map.mpr ⟨d, hd, rfl⟩)
    exact Dictionary.find?_of_mem hnames hmem
  have hresolves : Validation.Resolves (Validation.knownTypes set)
      (Catalog.ofDefinitions (set.map (·.definition))) := by
    intro name type hlookup
    obtain ⟨s, hs, rfl⟩ := Validation.mem_of_knownTypes hlookup
    exact ⟨_, hfound _ (List.mem_map.mpr ⟨s, hs, rfl⟩), Query.id_ofDefinition _⟩
  have hright := fun s hs => Validation.query_of_no_faults hresolves (hown s hs).2
  refine ⟨hqueries, hnames, ?_, hfound, ?_, ?_⟩
  · intro entry hentry
    obtain ⟨d, -, rfl⟩ := List.mem_map.mp (hqueries.mem_iff.mp hentry)
    exact (Query.id_ofDefinition d).symm
  · intro d hd
    obtain ⟨s, hs, rfl⟩ := List.mem_map.mp hd
    exact (hright s hs).2
  · intro entry hentry
    obtain ⟨d, hd, rfl⟩ := List.mem_map.mp (hqueries.mem_iff.mp hentry)
    obtain ⟨s, hs, rfl⟩ := List.mem_map.mp hd
    exact (hright s hs).1

/-- Whatever a query of the catalog may fetch is in the catalog. -/
def Catalog.Closed (catalog : Catalog) : Prop :=
  ∀ name q, catalog.find? name = some q → ∀ f ∈ q.fetches,
    ∃ target, catalog.find? f.target = some target

theorem Catalog.closed_of_build {d : Draft} {catalog : Catalog} (h : d.build = .ok catalog) :
    catalog.Closed := by
  obtain ⟨hproblems, rfl⟩ := Draft.build_cases h
  have hsound := Catalog.sound_of_no_problems hproblems
  intro name q hq f hf
  have hquery := hsound.sound _ (Dictionary.mem_of_find? hq)
  obtain ⟨target, htarget, -⟩ := (hquery.fetches f hf).reference
  exact ⟨target, htarget⟩

/-- What is built from definitions, whether written in code or loaded, has all that they ask for. -/
theorem Catalog.sound_of_build {d : Draft} {catalog : Catalog} (h : d.build = .ok catalog) :
    Catalog.Sound (d.definitions.map (·.definition)) catalog := by
  obtain ⟨hproblems, rfl⟩ := Draft.build_cases h
  exact Catalog.sound_of_no_problems hproblems

/-- Two versions of a query, one of which fetches orders along a path and completes them by a
script, with a parameter from each source. -/
def shopDraft : Draft :=
  let users : QueryDefinition :=
    { name := " users", script := { kind := some .literal, code := some "SELECT * FROM users" } }
  let lua (code : String) : ScriptDefinition := { kind := some .lua, code := some code }
  let parameters : List ParameterDefinition :=
    [{ name := "user", source := .parentResultField, sourceName := some "id ", type := some " Long" },
      { name := "region", source := .parentParameter, sourceName := some "where.region" },
      { name := "state", source := .constant, value := some (.str "paid") },
      { name := "day", source := .script, script := some (lua "return ctx.day") }]
  let orders : FetchDefinition :=
    { reference := "orders", property := some " orders ", parameters }
  let merged : FetchDefinition :=
    { reference := "users", injection := some (lua "return rows"), predicate := some (lua "return p.all") }
  { definitions :=
      [⟨"shop.toml", users⟩,
        ⟨"shop.toml", { users with
          version := "2 "
          fetches := [orders, merged]
          hints := [{ key := "mask", script := some { kind := some .native, code := some "mask" } }]
          parameterTypes := [("id", "LONG"), ("name", "text")] }⟩,
        ⟨"<code>", { users with name := "orders" }⟩] }

theorem shopCatalog_sound :
    ∃ catalog, shopDraft.build = .ok catalog ∧
      Catalog.Sound (shopDraft.definitions.map (·.definition)) catalog := by
  have hbuild := Draft.build_of_no_problems (d := shopDraft) (by decide +kernel)
  exact ⟨_, hbuild, Catalog.sound_of_build hbuild⟩

end QueryCatalog
