import QueryCatalog.Mapping.Draft
import QueryCatalog.Proofs.Dictionary
import QueryCatalog.Proofs.Text.Trimming

/-!
The names of queries. Validation compares names as they were written down, a catalog holds queries
under trimmed ones; both mean the same queries.
-/
namespace QueryCatalog

theorem versionedName_trim (name version : String) :
    versionedName (Text.trim name) (Text.trim version) = versionedName name version := by
  simp only [versionedName, Text.allBlank_trim, Text.trim_idempotent]

theorem Query.id_ofDefinition (q : QueryDefinition) : (Query.ofDefinition q).id = q.id :=
  versionedName_trim q.name q.version

theorem Fetch.target_ofDefinition (f : FetchDefinition) : (Fetch.ofDefinition f).target = f.target :=
  versionedName_trim f.reference f.referenceVersion

namespace Dictionary

variable {α : Type}

theorem find?_foldl_insert (entries : List (String × α)) (d : Dictionary α) (name : String) :
    (entries.foldl (fun d entry => d.insert entry.1 entry.2) d).find? name =
      (entries.reverse.lookup name).or (d.find? name) := by
  induction entries generalizing d with
  | nil => rfl
  | cons entry rest ih =>
    obtain ⟨n, value⟩ := entry
    have hsingle : [(n, value)].lookup name = if name == n then some value else none :=
      find?_cons n value [] name
    rw [List.foldl_cons, ih, find?_insert, List.reverse_cons, List.lookup_append, Option.or_assoc,
      hsingle]
    congr 1
    split_ifs <;> rfl

/-- Of several entries with a name the last one counts. -/
theorem find?_ofList (entries : List (String × α)) (name : String) :
    (ofList entries).find? name = entries.reverse.lookup name := by
  rw [ofList, find?_foldl_insert]
  exact Option.or_none

theorem mem_of_find?_ofList {entries : List (String × α)} {name : String} {value : α}
    (h : (ofList entries).find? name = some value) : (name, value) ∈ entries := by
  rw [find?_ofList, List.lookup_eq_some_iff] at h
  obtain ⟨before, after, heq, -⟩ := h
  have hmem : (name, value) ∈ entries.reverse := by
    rw [heq]
    simp
  exact List.mem_reverse.mp hmem

theorem mem_names_of_find? {d : Dictionary α} {name : String} {value : α}
    (h : d.find? name = some value) : name ∈ d.names :=
  List.mem_map_of_mem (mem_of_find? h)

end Dictionary

namespace Validation

theorem mem_of_knownTypes {set : List Sourced} {name : String} {type : QueryType}
    (h : (knownTypes set).lookup name = some type) : ∃ s ∈ set, s.definition.id = name := by
  obtain ⟨before, after, heq, -⟩ := List.lookup_eq_some_iff.mp h
  have hmem : (name, type) ∈ knownTypes set := by
    rw [heq]
    simp
  obtain ⟨s, hs, heq⟩ := List.mem_map.mp (List.mem_reverse.mp hmem)
  exact ⟨s, hs, congrArg Prod.fst heq⟩

end Validation

theorem Draft.build_cases {d : Draft} {catalog : Catalog} (h : d.build = .ok catalog) :
    Validation.problems d.definitions = [] ∧
      catalog = Catalog.ofDefinitions (d.definitions.map (·.definition)) := by
  unfold build at h
  cases hproblems : d.problems with
  | cons p rest =>
    rw [hproblems] at h
    cases h
  | nil =>
    rw [hproblems] at h
    exact ⟨(List.append_eq_nil_iff.mp hproblems).2, (Except.ok.inj h).symm⟩

theorem Draft.build_of_no_problems {d : Draft} (h : d.problems.isEmpty = true) :
    d.build = .ok (Catalog.ofDefinitions (d.definitions.map (·.definition))) := by
  unfold build
  rw [List.isEmpty_iff.mp h]

end QueryCatalog
