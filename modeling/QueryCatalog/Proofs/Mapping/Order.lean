import Mathlib.Data.String.Basic
import QueryCatalog.Proofs.Mapping.Soundness

/-!
The order of definitions does not matter. Names that differ make the last definition of a name the
only one, so that validation knows the same names and the catalog holds the same queries, in
whatever order the definitions were written and their files were loaded.
-/
namespace QueryCatalog

namespace Dictionary

variable {α : Type}

/-- The names are in their order, and none is there twice. -/
def Ascending (d : Dictionary α) : Prop := d.names.Pairwise (· < ·)

theorem ascending_cons {n : String} {v : α} {d : Dictionary α} :
    Ascending ((n, v) :: d) ↔ (∀ m ∈ d.names, n < m) ∧ d.Ascending :=
  List.pairwise_cons

theorem mem_names_insert {d : Dictionary α} {name other : String} {value : α}
    (h : other ∈ (d.insert name value).names) : other = name ∨ other ∈ d.names := by
  induction d with
  | nil => exact .inl (List.mem_singleton.mp h)
  | cons entry rest ih =>
    rw [insert] at h
    split_ifs at h
    · rcases List.mem_cons.mp h with hsame | hrest
      · exact .inl hsame
      · exact .inr (List.mem_cons_of_mem _ hrest)
    · exact List.mem_cons.mp h
    · rcases List.mem_cons.mp h with hfirst | hrest
      · exact .inr (List.mem_cons.mpr (.inl hfirst))
      · rcases ih hrest with hsame | hin
        · exact .inl hsame
        · exact .inr (List.mem_cons_of_mem _ hin)

theorem Ascending.insert {d : Dictionary α} (h : d.Ascending) (name : String) (value : α) :
    (d.insert name value).Ascending := by
  induction d with
  | nil => exact List.pairwise_singleton _ _
  | cons entry rest ih =>
    obtain ⟨n, v⟩ := entry
    obtain ⟨hfirst, hrest⟩ := ascending_cons.mp h
    rw [Dictionary.insert]
    split_ifs with hsame hless
    · rw [beq_iff_eq.mp hsame]
      exact ascending_cons.mpr ⟨hfirst, hrest⟩
    · refine ascending_cons.mpr ⟨?_, h⟩
      intro m hm
      rcases List.mem_cons.mp hm with rfl | hm
      · exact hless
      · exact hless.trans (hfirst m hm)
    · refine ascending_cons.mpr ⟨?_, ih hrest⟩
      have hne : name ≠ n := by simpa using hsame
      intro m hm
      rcases mem_names_insert hm with rfl | hm
      · exact lt_of_le_of_ne (not_lt.mp hless) hne.symm
      · exact hfirst m hm

theorem ascending_ofList (entries : List (String × α)) : (ofList entries).Ascending := by
  have hfold : ∀ d : Dictionary α, d.Ascending →
      Ascending (entries.foldl (fun d entry => d.insert entry.1 entry.2) d) := by
    induction entries with
    | nil => exact fun d h => h
    | cons entry rest ih => exact fun d h => ih _ (h.insert entry.1 entry.2)
  exact hfold [] List.Pairwise.nil

theorem Ascending.eq_of_perm {d d' : Dictionary α} (hd : d.Ascending) (hd' : d'.Ascending)
    (h : d.Perm d') : d = d' := by
  have hless := List.pairwise_map.mp hd
  have hless' := List.pairwise_map.mp hd'
  refine h.eq_of_pairwise ?_ hless hless'
  intro a b _ _ hab hba
  exact absurd hba hab.asymm

/-- Entries with different names make the same dictionary in any order. -/
theorem ofList_eq_of_perm {entries entries' : List (String × α)} (h : entries.Perm entries')
    (hnodup : (entries.map (·.1)).Nodup) : ofList entries = ofList entries' := by
  have hnodup' : (entries'.map (·.1)).Nodup := (h.map _).nodup_iff.mp hnodup
  have hperm : (ofList entries).Perm (ofList entries') :=
    (ofList_perm hnodup).trans (h.trans (ofList_perm hnodup').symm)
  exact (ascending_ofList entries).eq_of_perm (ascending_ofList entries') hperm

theorem find?_perm {d d' : Dictionary α} (h : d.Perm d') (hnodup : d.names.Nodup)
    (name : String) : d.find? name = d'.find? name := by
  have hnodup' : d'.names.Nodup := (h.map _).nodup_iff.mp hnodup
  refine Option.ext fun value => ?_
  constructor
  · intro hfound
    exact find?_of_mem hnodup' (h.mem_iff.mp (mem_of_find? hfound))
  · intro hfound
    exact find?_of_mem hnodup (h.mem_iff.mpr (mem_of_find? hfound))

end Dictionary

namespace Validation

/-- The names that are known matter only as far as they are looked up. -/
theorem ownFaults_congr {known known' : List (String × QueryType)}
    (h : ∀ name, known.lookup name = known'.lookup name) (q : QueryDefinition) :
    ownFaults known q = ownFaults known' q := by
  have hfetches : ∀ (fetches : List FetchDefinition) (taken : List String),
      fetchesFaults known q.id taken fetches = fetchesFaults known' q.id taken fetches := by
    intro fetches
    induction fetches with
    | nil => exact fun _ => rfl
    | cons f rest ih =>
      intro taken
      have hreference : referenceFaults known f = referenceFaults known' f := by
        rw [referenceFaults, referenceFaults, h]
      rw [fetchesFaults, fetchesFaults, ih, fetchFaults, fetchFaults, hreference]
  rw [ownFaults, ownFaults, hfetches]

theorem knownTypes_names (set : List Sourced) :
    (knownTypes set).map (·.1) = (set.map (·.definition.id)).reverse := by
  rw [knownTypes, List.map_reverse, List.map_map]
  rfl

theorem lookup_knownTypes_perm {set set' : List Sourced} (h : set.Perm set')
    (hnodup : (set.map (·.definition.id)).Nodup) (name : String) :
    (knownTypes set).lookup name = (knownTypes set').lookup name := by
  have hperm : (knownTypes set).Perm (knownTypes set') :=
    (List.reverse_perm _).trans ((h.map _).trans (List.reverse_perm _).symm)
  refine Dictionary.find?_perm hperm ?_ name
  rw [Dictionary.names, knownTypes_names]
  exact (List.reverse_perm _).nodup_iff.mpr hnodup

theorem problems_perm {set set' : List Sourced} (h : set.Perm set') (hnone : problems set = []) :
    problems set' = [] := by
  obtain ⟨hright, hnodup, -⟩ := problemsFrom_eq_nil_iff.mp hnone
  refine problemsFrom_eq_nil_iff.mpr ⟨?_, (h.map _).nodup_iff.mp hnodup, ?_⟩
  · intro s hs
    obtain ⟨hname, hown⟩ := hright s (h.mem_iff.mpr hs)
    rw [← ownFaults_congr (lookup_knownTypes_perm h hnodup)]
    exact ⟨hname, hown⟩
  · exact fun _ _ => List.not_mem_nil

end Validation

theorem Catalog.ofDefinitions_eq_of_perm {definitions definitions' : List QueryDefinition}
    (h : definitions.Perm definitions') (hnodup : (definitions.map (·.id)).Nodup) :
    ofDefinitions definitions = ofDefinitions definitions' := by
  rw [ofDefinitions_eq, ofDefinitions_eq]
  have hentries := h.map fun d => (d.id, Query.ofDefinition d)
  refine Dictionary.ofList_eq_of_perm hentries ?_
  rw [List.map_map]
  exact hnodup

namespace Draft

/-- The same definitions and failures, in another order. -/
structure Rearranges (d d' : Draft) : Prop where
  definitions : d.definitions.Perm d'.definitions
  failures : d.failures.Perm d'.failures

theorem Rearranges.symm {d d' : Draft} (h : d.Rearranges d') : d'.Rearranges d :=
  ⟨h.definitions.symm, h.failures.symm⟩

theorem Rearranges.build {d d' : Draft} (h : d.Rearranges d') {catalog : Catalog}
    (hbuild : d.build = .ok catalog) : d'.build = .ok catalog := by
  have hnone : d.problems = [] := by
    unfold Draft.build at hbuild
    split at hbuild
    · assumption
    · cases hbuild
  obtain ⟨hfailures, hproblems⟩ := List.append_eq_nil_iff.mp hnone
  obtain ⟨-, hnodup, -⟩ := Validation.problemsFrom_eq_nil_iff.mp hproblems
  have hnone' : d'.problems = [] := by
    have hfailures' := h.failures
    rw [hfailures] at hfailures'
    exact List.append_eq_nil_iff.mpr
      ⟨List.nil_perm.mp hfailures', Validation.problems_perm h.definitions hproblems⟩
  have hsame : Catalog.ofDefinitions (d.definitions.map (·.definition)) =
      Catalog.ofDefinitions (d'.definitions.map (·.definition)) := by
    refine Catalog.ofDefinitions_eq_of_perm (h.definitions.map _) ?_
    rw [List.map_map]
    exact hnodup
  rw [(build_cases hbuild).2, hsame]
  exact build_of_no_problems (List.isEmpty_iff.mpr hnone')

/-! Loading a file adds what is in it, whatever is there already. -/

def append (d e : Draft) : Draft := ⟨d.definitions ++ e.definitions, d.failures ++ e.failures⟩

def loadAll (d : Draft) (files : Files) (paths : List String) : Draft :=
  paths.foldl (fun d path => d.loadFile files path) d

theorem addAll_eq (d : Draft) (origin : String) (qs : List QueryDefinition) :
    d.addAll origin qs = d.append ⟨qs.map (⟨origin, ·⟩), []⟩ := by
  rw [append, List.append_nil, addAll]
  induction qs generalizing d with
  | nil => rw [List.map_nil, List.append_nil]; rfl
  | cons q qs ih => rw [List.foldl_cons, ih, List.map_cons, add, List.append_assoc]; rfl

theorem fail_eq (d : Draft) (p : Problem) : d.fail p = d.append (fail {} p) := by
  rw [append, fail, fail, List.append_nil, List.nil_append]

theorem loadText_eq (d : Draft) (files : Files) (origin text : String) (format : DescriptorFormat)
    (directory : Option String) :
    d.loadText files origin text format directory =
      d.append (loadText {} files origin text format directory) := by
  unfold loadText
  cases Descriptor.parse? format text with
  | none => exact fail_eq d _
  | some qs =>
    simp only [addAll_eq, append, List.nil_append, List.append_nil]
    rfl

theorem loadFile_eq (d : Draft) (files : Files) (path : String) :
    d.loadFile files path = d.append (loadFile {} files path) := by
  unfold loadFile
  cases DescriptorFormat.ofPath? path with
  | none => exact fail_eq d _
  | some format =>
    cases files path with
    | error e => exact fail_eq d _
    | ok text => exact loadText_eq d files path text format _

theorem loadAll_eq (d : Draft) (files : Files) (paths : List String) :
    d.loadAll files paths = d.append
      ⟨paths.flatMap fun path => (loadFile {} files path).definitions,
        paths.flatMap fun path => (loadFile {} files path).failures⟩ := by
  induction paths generalizing d with
  | nil => simp [loadAll, append]
  | cons path paths ih =>
    have hcons : d.loadAll files (path :: paths) = (d.loadFile files path).loadAll files paths :=
      rfl
    rw [hcons, ih, loadFile_eq]
    simp [append]

theorem Rearranges.loadAll {d d' : Draft} (h : d.Rearranges d') (files : Files)
    {paths paths' : List String} (hpaths : paths.Perm paths') :
    (d.loadAll files paths).Rearranges (d'.loadAll files paths') := by
  rw [loadAll_eq, loadAll_eq]
  constructor
  · exact h.definitions.append (hpaths.flatMap_right _)
  · exact h.failures.append (hpaths.flatMap_right _)

/-- Definitions in any order, with files that are loaded in any order, make the same catalog, or
none at all. -/
theorem build_in_any_order {d d' : Draft} (hdefinitions : d.definitions.Perm d'.definitions)
    (hfailures : d.failures.Perm d'.failures) {paths paths' : List String}
    (hpaths : paths.Perm paths') (files : Files) (catalog : Catalog) :
    (d.build = .ok catalog ↔ d'.build = .ok catalog) ∧
      ((d.loadAll files paths).build = .ok catalog ↔
        (d'.loadAll files paths').build = .ok catalog) := by
  have hdrafts : d.Rearranges d' := ⟨hdefinitions, hfailures⟩
  have hloaded := hdrafts.loadAll files hpaths
  exact ⟨⟨hdrafts.build, hdrafts.symm.build⟩, ⟨hloaded.build, hloaded.symm.build⟩⟩

/-- Two files, one of which fetches what the other defines. -/
def petFiles : Files
  | "people.toml" => .ok ("\n".intercalate ["[[query]]", "name = 'people'", "script.type = 'sql'",
      "script.code = 'SELECT 1'", "[[query.fetch-query]]", "reference-query = 'pets'",
      "inject-property-name = 'pets'"])
  | "pets.toml" => .ok ("\n".intercalate ["[[query]]", "name = 'pets'", "script.type = 'sql'",
      "script.code = 'SELECT 2'"])
  | _ => .error .notFound

def reversedShop : Draft := ⟨shopDraft.definitions.reverse, []⟩

theorem build_in_any_order_shop :
    ∃ catalog, (shopDraft.loadAll petFiles ["people.toml", "pets.toml"]).build = .ok catalog ∧
      (reversedShop.loadAll petFiles ["pets.toml", "people.toml"]).build = .ok catalog := by
  have hbuild : (shopDraft.loadAll petFiles ["people.toml", "pets.toml"]).build = .ok _ :=
    build_of_no_problems (by decide +kernel)
  have hdefinitions : shopDraft.definitions.Perm reversedShop.definitions :=
    (List.reverse_perm _).symm
  have horders := build_in_any_order hdefinitions (.refl []) (.swap "pets.toml" "people.toml" [])
    petFiles
  exact ⟨_, hbuild, (horders _).2.mp hbuild⟩

end Draft

end QueryCatalog
