import Mathlib.Data.List.Basic
import QueryCatalog.Proofs.Mapping.References

/-!
Definitions that share a name. Validation tells the problems definition by definition, and what it
tells of one depends on the definitions before it only by the names that they have taken: a
definition is a duplicate just if one before it has the same versioned name. Names without the
separator and their versions can be read off the versioned name, so there it is just the same name
with the same version.
-/
namespace QueryCatalog

namespace QueryDefinition

/-- The same name in the same version, apart from blanks around them. -/
def SameVersion (a b : QueryDefinition) : Prop :=
  Text.trim a.name = Text.trim b.name ∧ Text.trim a.version = Text.trim b.version

/-- No separator of name and version in the name. -/
def PlainName (q : QueryDefinition) : Prop := ':' ∉ (Text.trim q.name).toList

variable {a b : QueryDefinition}

theorem allBlank_version_iff : Text.allBlank a.version = true ↔ Text.trim a.version = "" := by
  rw [Text.allBlank_iff, Text.trim, String.ofList_eq_empty_iff]

theorem id_of_blank (h : Text.trim a.version = "") : a.id = Text.trim a.name := by
  rw [id, versionedName, if_pos (allBlank_version_iff.mpr h)]

theorem id_of_version (h : Text.trim a.version ≠ "") :
    a.id = Text.trim a.name ++ ":" ++ Text.trim a.version := by
  rw [id, versionedName, if_neg (fun hblank => h (allBlank_version_iff.mp hblank))]

theorem SameVersion.id_eq (h : a.SameVersion b) : a.id = b.id := by
  obtain ⟨hname, hversion⟩ := h
  by_cases hblank : Text.trim a.version = ""
  · rw [id_of_blank hblank, id_of_blank (hversion ▸ hblank), hname]
  · rw [id_of_version hblank, id_of_version (hversion ▸ hblank), hname, hversion]

theorem toList_id_of_version (h : Text.trim a.version ≠ "") :
    a.id.toList = (Text.trim a.name).toList ++ ':' :: (Text.trim a.version).toList := by
  rw [id_of_version h, String.toList_append, String.toList_append, List.append_assoc]
  rfl

/-- Two texts without a separator that stand before one are the same. -/
theorem eq_of_separated {c : Char} {before before' after after' : List Char} (h : c ∉ before)
    (h' : c ∉ before') (heq : before ++ c :: after = before' ++ c :: after') :
    before = before' ∧ after = after' := by
  induction before generalizing before' with
  | nil =>
    cases before' with
    | nil => exact ⟨rfl, (List.cons.inj heq).2⟩
    | cons d rest' =>
      obtain ⟨rfl, -⟩ := List.cons.inj heq
      exact absurd List.mem_cons_self h'
  | cons d rest ih =>
    cases before' with
    | nil =>
      obtain ⟨rfl, -⟩ := List.cons.inj heq
      exact absurd List.mem_cons_self h
    | cons d' rest' =>
      obtain ⟨rfl, hrest⟩ := List.cons.inj heq
      obtain ⟨rfl, hafter⟩ := ih (fun hc => h (List.mem_cons_of_mem _ hc))
        (fun hc => h' (List.mem_cons_of_mem _ hc)) hrest
      exact ⟨rfl, hafter⟩

theorem separator_mem_id (h : Text.trim a.version ≠ "") : ':' ∈ a.id.toList := by
  rw [toList_id_of_version h]
  exact List.mem_append_right _ List.mem_cons_self

theorem PlainName.not_mem_id (h : a.PlainName) (hblank : Text.trim a.version = "") :
    ':' ∉ a.id.toList := by
  rw [id_of_blank hblank]
  exact h

/-- The separator shows whether there is a version, and what stands before it is the name. -/
theorem id_eq_iff (ha : a.PlainName) (hb : b.PlainName) : a.id = b.id ↔ a.SameVersion b := by
  refine ⟨fun h => ?_, SameVersion.id_eq⟩
  by_cases hblank : Text.trim a.version = "" <;> by_cases hblank' : Text.trim b.version = ""
  · rw [id_of_blank hblank, id_of_blank hblank'] at h
    exact ⟨h, hblank.trans hblank'.symm⟩
  · have hplain := ha.not_mem_id hblank
    rw [h] at hplain
    exact absurd (separator_mem_id hblank') hplain
  · have hplain := hb.not_mem_id hblank'
    rw [← h] at hplain
    exact absurd (separator_mem_id hblank) hplain
  · have hchars := congrArg String.toList h
    rw [toList_id_of_version hblank, toList_id_of_version hblank'] at hchars
    obtain ⟨hname, hversion⟩ := eq_of_separated ha hb hchars
    exact ⟨String.toList_inj.mp hname, String.toList_inj.mp hversion⟩

end QueryDefinition

/-- The place that a fault names as the first definition of a name. -/
def Fault.first? : Fault → Option String
  | .duplicate first => some first
  | _ => none

def Problem.first? : Problem → Option String
  | .definition _ _ fault => fault.first?
  | _ => none

namespace Validation

variable {known : List (String × QueryType)} {earlier : List (String × String)}
  {before set : List Sourced} {s : Sourced}

/-- The names that definitions have taken, and where, the last one first. -/
def taken (set : List Sourced) : List (String × String) :=
  ((set.filter fun s => !Text.allBlank s.definition.name).map
    fun s => (s.definition.id, s.origin)).reverse

/-- What is wrong with a definition that has others before it. -/
def report (known : List (String × QueryType)) (before : List Sourced) (s : Sourced) :
    List Problem :=
  problemsFrom known (taken before) [s]

theorem taken_cons (s : Sourced) (rest : List Sourced) :
    taken (s :: rest) = taken rest ++
      if Text.allBlank s.definition.name then [] else [(s.definition.id, s.origin)] := by
  unfold taken
  cases h : Text.allBlank s.definition.name <;> simp [h]

theorem problemsFrom_append (before rest : List Sourced) :
    problemsFrom known earlier (before ++ rest) =
      problemsFrom known earlier before ++ problemsFrom known (taken before ++ earlier) rest := by
  induction before generalizing earlier with
  | nil => rfl
  | cons s before ih =>
    obtain ⟨origin, q⟩ := s
    rw [List.cons_append, problemsFrom, problemsFrom, taken_cons]
    cases Text.allBlank q.name with
    | true => simp [ih]
    | false => simp [ih]

/-- The definitions that are left have their reports in order. -/
theorem problemsFrom_eq_reports (before rest : List Sourced) :
    problemsFrom known (taken before) rest =
      (rest.zipIdx before.length).flatMap
        fun entry => report known ((before ++ rest).take entry.2) entry.1 := by
  induction rest generalizing before with
  | nil => rfl
  | cons s rest ih =>
    have hnext : taken (before ++ [s]) = taken [s] ++ taken before := by simp [taken]
    have hrest := ih (before ++ [s])
    rw [List.append_assoc, List.singleton_append, List.length_append, List.length_singleton,
      hnext] at hrest
    rw [← List.singleton_append, problemsFrom_append, hrest, List.singleton_append,
      List.zipIdx_cons, List.flatMap_cons, List.take_left]
    rfl

/-- Every definition has its own report, made from the definitions before it. -/
theorem problems_eq_reports (set : List Sourced) :
    problems set =
      set.zipIdx.flatMap fun entry => report (knownTypes set) (set.take entry.2) entry.1 :=
  problemsFrom_eq_reports [] set

/-- Where each reported duplicate is said to be defined first. -/
def firsts (problems : List Problem) : List String := problems.filterMap Problem.first?

theorem first?_optional {c : Prop} [Decidable c] (fault : Fault) (h : fault.first? = none) :
    (if c then [fault] else []).filterMap Fault.first? = [] := by
  split
  · rw [List.filterMap_cons_none h, List.filterMap_nil]
  · rfl

theorem first?_scriptFaults (place : ScriptUse) (valuesOnly : Bool) (s : ScriptDefinition) :
    (scriptFaults place valuesOnly s).filterMap Fault.first? = [] := by
  unfold scriptFaults
  split
  · rfl
  · rw [List.filterMap_append, first?_optional (.emptyScript place) rfl,
      first?_optional (.scriptKind place _) rfl, List.append_nil]

theorem first?_optionalScriptFaults (place : ScriptUse) (s : Option ScriptDefinition) :
    (optionalScriptFaults place s).filterMap Fault.first? = [] := by
  cases s with
  | none => rfl
  | some s => exact first?_scriptFaults place true s

theorem first?_typeFaults (types : Dictionary String) :
    (typeFaults types).filterMap Fault.first? = [] := by
  rw [typeFaults, List.filterMap_filterMap, List.filterMap_eq_nil_iff]
  intro entry _
  split_ifs <;> rfl

theorem first?_hintFaults (h : HintDefinition) : (hintFaults h).filterMap Fault.first? = [] := by
  rw [hintFaults, List.filterMap_append, first?_optional .hintWithoutKey rfl,
    first?_optionalScriptFaults, List.append_nil]

theorem first?_sourceFaults (target : String) (p : ParameterDefinition) :
    (sourceFaults target p).filterMap Fault.first? = [] := by
  unfold sourceFaults
  split
  · exact first?_optional (.missingValue target p.name) rfl
  · split
    · rfl
    · exact first?_scriptFaults _ _ _
  · rfl

theorem first?_parameterFaults (target : String) (p : ParameterDefinition) :
    (parameterFaults target p).filterMap Fault.first? = [] := by
  rw [parameterFaults, List.filterMap_append, List.filterMap_append, List.filterMap_append,
    first?_optional (.unnamedParameter target) rfl,
    first?_optional (.missingSourceName target p.name) rfl, first?_sourceFaults,
    List.append_nil, List.append_nil, List.nil_append]
  cases p.type with
  | none => rfl
  | some type => exact first?_optional (.parameterType target p.name type) rfl

theorem first?_referenceFaults (f : FetchDefinition) :
    (referenceFaults known f).filterMap Fault.first? = [] := by
  unfold referenceFaults
  split
  · rfl
  · split
    · split_ifs <;> rfl
    · rfl

theorem first?_injectionFaults (paths : List String) (f : FetchDefinition) :
    (injectionFaults paths f).filterMap Fault.first? = [] := by
  unfold injectionFaults
  split
  · exact first?_optional (.sharedPath _) rfl
  · exact first?_scriptFaults _ _ _
  · rfl

theorem first?_fetchFaults (id : String) (paths : List String) (f : FetchDefinition) :
    (fetchFaults known id paths f).filterMap Fault.first? = [] := by
  have hparameters : (f.parameters.flatMap (parameterFaults f.target)).filterMap Fault.first? =
      [] := by
    simp [List.filterMap_flatMap, first?_parameterFaults]
  unfold fetchFaults
  split
  · rfl
  · simp only [List.filterMap_append, first?_optional .selfReference rfl, first?_referenceFaults,
      first?_injectionFaults, first?_optionalScriptFaults, hparameters, List.append_nil]

theorem first?_fetchesFaults (id : String) (paths : List String) (fs : List FetchDefinition) :
    (fetchesFaults known id paths fs).filterMap Fault.first? = [] := by
  induction fs generalizing paths with
  | nil => rfl
  | cons f rest ih => rw [fetchesFaults, List.filterMap_append, first?_fetchFaults, ih]; rfl

/-- Only the name of a definition makes it a duplicate. -/
theorem first?_ownFaults (q : QueryDefinition) :
    (ownFaults known q).filterMap Fault.first? = [] := by
  have hhints : (q.hints.flatMap hintFaults).filterMap Fault.first? = [] := by
    simp [List.filterMap_flatMap, first?_hintFaults]
  simp only [ownFaults, List.filterMap_append, first?_scriptFaults, first?_typeFaults, hhints,
    first?_fetchesFaults, List.append_nil]

theorem report_of_named (h : Text.allBlank s.definition.name = false) :
    report known before s =
      (duplicateFaults (taken before) s.definition.id ++ ownFaults known s.definition).map
        (.definition s.origin s.definition.id) := by
  obtain ⟨origin, q⟩ := s
  rw [report, problemsFrom, if_neg (by simpa using h), problemsFrom, List.append_nil]

theorem firsts_report (h : Text.allBlank s.definition.name = false) :
    firsts (report known before s) = ((taken before).lookup s.definition.id).toList := by
  have hproblem : Problem.first? ∘ Problem.definition s.origin s.definition.id = Fault.first? := rfl
  rw [report_of_named h, firsts, List.filterMap_map, hproblem, List.filterMap_append,
    first?_ownFaults, List.append_nil, duplicateFaults]
  cases (taken before).lookup s.definition.id <;> rfl

/-- A name that is taken again and again is looked up where it was taken last. -/
theorem lookup_taken (hnamed : ∀ e ∈ before, Text.allBlank e.definition.name = false)
    (id : String) : (taken before).lookup id =
      (before.reverse.find? fun e => id == e.definition.id).map (·.origin) := by
  have hall : before.filter (fun e => !Text.allBlank e.definition.name) = before :=
    List.filter_eq_self.mpr fun e he => by rw [hnamed e he]; rfl
  rw [taken, hall, ← List.map_reverse]
  induction before.reverse with
  | nil => rfl
  | cons e rest ih =>
    rw [List.map_cons, List.lookup_cons, List.find?_cons, ih]
    cases id == e.definition.id <;> rfl

theorem lookup_taken_eq_none_iff {id : String}
    (hnamed : ∀ e ∈ before, Text.allBlank e.definition.name = false) :
    (taken before).lookup id = none ↔ ∀ e ∈ before, e.definition.id ≠ id := by
  rw [lookup_taken hnamed, Option.map_eq_none_iff, List.find?_eq_none]
  simp only [List.mem_reverse, beq_iff_eq, ne_comm]

/-- A duplicate is said to be first defined where its name was taken last before it, and not where
it was taken first. -/
theorem firsts_report_latest (hnamed : ∀ e ∈ before, Text.allBlank e.definition.name = false)
    (h : Text.allBlank s.definition.name = false) :
    firsts (report known before s) =
      ((before.reverse.find? fun e => s.definition.id == e.definition.id).map (·.origin)).toList := by
  rw [firsts_report h, lookup_taken hnamed]

example : firsts (problems [⟨"a.json", { name := "users" }⟩, ⟨"b.json", { name := "users" }⟩,
    ⟨"c.json", { name := "users" }⟩]) = ["a.json", "b.json"] := by decide +kernel

/-- What the report of a definition says of its name. -/
structure NamesFirst (before : List Sourced) (s : Sourced) (report : List Problem) : Prop where
  /-- The report is about the definition, -/
  own : ∀ p ∈ report, ∃ fault, p = .definition s.origin s.definition.id fault
  /-- and calls it a duplicate once at most: -/
  once : (firsts report).length ≤ 1
  /-- just if the name has been taken. -/
  duplicate_iff : firsts report ≠ [] ↔ ∃ e ∈ before, e.definition.id = s.definition.id
  /-- The place that it names is one where the name was taken. -/
  earlier : ∀ place ∈ firsts report,
    ∃ e ∈ before, e.definition.id = s.definition.id ∧ e.origin = place
  /-- It is the place, if there is no other one. -/
  only : ∀ place, (∃ e ∈ before, e.definition.id = s.definition.id) →
    (∀ e ∈ before, e.definition.id = s.definition.id → e.origin = place) →
    firsts report = [place]
  /-- A name is taken by the same name in the same version, -/
  sameVersion : (∃ e ∈ before, e.definition.SameVersion s.definition) → firsts report ≠ []
  /-- and between names without separator only by this. -/
  plain : (∀ e ∈ before, e.definition.PlainName) → s.definition.PlainName →
    (firsts report ≠ [] ↔ ∃ e ∈ before, e.definition.SameVersion s.definition)

theorem namesFirst_report (hnamed : ∀ e ∈ before, Text.allBlank e.definition.name = false)
    (h : Text.allBlank s.definition.name = false) :
    NamesFirst before s (report known before s) := by
  have hfirsts : firsts (report known before s) = ((taken before).lookup s.definition.id).toList :=
    firsts_report h
  have hiff : firsts (report known before s) ≠ [] ↔
      ∃ e ∈ before, e.definition.id = s.definition.id := by
    rw [hfirsts, ne_eq, Option.toList_eq_nil_iff, lookup_taken_eq_none_iff hnamed]
    simp
  have hearlier : ∀ place ∈ firsts (report known before s),
      ∃ e ∈ before, e.definition.id = s.definition.id ∧ e.origin = place := by
    intro place hplace
    rw [firsts_report_latest hnamed h, Option.mem_toList, Option.map_eq_some_iff] at hplace
    obtain ⟨e, hfound, rfl⟩ := hplace
    have hid : s.definition.id = e.definition.id := by simpa using List.find?_some hfound
    exact ⟨e, List.mem_reverse.mp (List.mem_of_find?_eq_some hfound), hid.symm, rfl⟩
  have honce : (firsts (report known before s)).length ≤ 1 := by
    rw [hfirsts]
    exact Option.length_toList_le
  refine ⟨?_, honce, hiff, hearlier, ?_, ?_, ?_⟩
  · intro p hp
    rw [report_of_named h] at hp
    obtain ⟨fault, -, rfl⟩ := List.mem_map.mp hp
    exact ⟨fault, rfl⟩
  · intro place htaken hplaces
    obtain ⟨first, rest, hcons⟩ := List.exists_cons_of_ne_nil (hiff.mpr htaken)
    rw [hcons] at hearlier honce
    obtain ⟨e, he, hid, rfl⟩ := hearlier first List.mem_cons_self
    have hrest : rest = [] := List.length_eq_zero_iff.mp (by simpa using honce)
    rw [hcons, hrest, hplaces e he hid]
  · rintro ⟨e, he, hsame⟩
    exact hiff.mpr ⟨e, he, hsame.id_eq⟩
  · intro hplain hs
    rw [hiff]
    exact exists_congr fun e => and_congr_right fun he =>
      QueryDefinition.id_eq_iff (hplain e he) hs

end Validation

/-- The problems of a set are told definition by definition, and a definition is told to be a
duplicate just if its versioned name is taken by one before it. -/
theorem Validation.duplicates_take_versioned_names {set : List Sourced}
    (hnamed : ∀ s ∈ set, Text.allBlank s.definition.name = false) :
    problems set = (set.zipIdx.flatMap fun entry =>
      report (knownTypes set) (set.take entry.2) entry.1) ∧
    ∀ entry ∈ set.zipIdx, NamesFirst (set.take entry.2) entry.1
      (report (knownTypes set) (set.take entry.2) entry.1) := by
  refine ⟨problems_eq_reports set, fun entry hentry => ?_⟩
  have hmem : entry.1 ∈ set := List.fst_mem_of_mem_zipIdx hentry
  exact namesFirst_report (fun e he => hnamed e (List.mem_of_mem_take he)) (hnamed entry.1 hmem)

/-- A version of the users twice, with blanks and without, and another version of them. -/
def userVersions : List Sourced :=
  [⟨"a.json", { name := " users", version := "2" }⟩, ⟨"b.json", { name := "users" }⟩,
    ⟨"c.json", { name := "users", version := "2 " }⟩]

theorem Validation.duplicates_take_versioned_names_users :
    firsts (problems userVersions) = ["a.json"] ∧
      ∀ entry ∈ userVersions.zipIdx, NamesFirst (userVersions.take entry.2) entry.1
        (report (knownTypes userVersions) (userVersions.take entry.2) entry.1) := by
  have hnamed : ∀ s ∈ userVersions, Text.allBlank s.definition.name = false := by decide +kernel
  exact ⟨by decide +kernel, (duplicates_take_versioned_names hnamed).2⟩

/-- A name with a separator can be the versioned name of another one. -/
theorem Validation.joined_name_is_duplicate :
    let plain : QueryDefinition := { name := "shop:users" }
    let versioned : QueryDefinition := { name := "shop", version := "users" }
    Text.allBlank plain.name = false ∧ Text.allBlank versioned.name = false ∧
      ¬plain.SameVersion versioned ∧
      firsts (problems [⟨"a.json", plain⟩, ⟨"b.json", versioned⟩]) = ["a.json"] := by
  refine ⟨by decide, by decide, fun h => ?_, by decide +kernel⟩
  exact absurd h.1 (by decide +kernel)

end QueryCatalog
