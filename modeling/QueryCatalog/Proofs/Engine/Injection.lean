import QueryCatalog.Proofs.Engine.Execution
import QueryCatalog.Proofs.Json.Writing
import QueryCatalog.Proofs.Mapping.Soundness

/-!
What is left of an injected value when all fetches of a query have run. It stays readable where the
paths of the fetches after it part from its own. Validation keeps fetches from sharing a path, but
it lets one path lead through another, and there a later fetch may take away what an earlier one
injected.
-/
namespace QueryCatalog

open QueryCatalog.Path (Apart)

namespace Execution

/-- Each row has, at the path, what the execution injected into the parent it came from. -/
def Readable (x : Execution) (property : String) (rows : List Row) : Prop :=
  List.Forall₂ (fun parent row => row.path? property = some (x.fetch.injected x.fetched parent))
    x.parents rows

/-- The injected values are readable, each along objects only. -/
def Holds (x : Execution) (property : String) (rows : List Row) : Prop :=
  List.Forall₂ (fun parent row => row.path? property = some (x.fetch.injected x.fetched parent) ∧
    row.Open (.ofString property)) x.parents rows

variable {x : Execution} {property other : String} {rows : List Row}

theorem Holds.readable (h : x.Holds property rows) : x.Readable property rows :=
  h.imp fun _ _ hrow => hrow.1

theorem holds_inject (x : Execution) (property : String) :
    x.Holds property (x.fetch.inject property x.fetched x.parents) := by
  rw [Holds, Fetch.inject, List.forall₂_map_right_iff, List.forall₂_same]
  intro parent _
  constructor
  · exact Row.path?_setPath_self parent property _
  · exact Row.open_putAt _ _ parent

/-- An injection at a path that parts from the first one leaves what was injected there. -/
theorem Holds.inject (h : x.Holds property rows)
    (hapart : Apart (.ofString property) (.ofString other)) (f : Fetch) (fetched : List Row) :
    x.Holds property (f.inject other fetched rows) := by
  rw [Holds, Fetch.inject, List.forall₂_map_right_iff]
  refine h.imp fun parent row hrow => ?_
  obtain ⟨hread, hopen⟩ := hrow
  have hkept := Row.at?_putAt_of_apart hapart (f.injected fetched row) hopen
  constructor
  · exact hkept.1.trans hread
  · exact hkept.2

/-- An execution stays unless the path of one after it leads through its own or the other way. -/
def Stays (log : List Execution) (rows : List Row) : Prop :=
  ∀ before x after, log = before ++ x :: after → ∃ property, x.fetch.property = some property ∧
    ((∀ y ∈ after, ∀ other, y.fetch.property = some other →
      Apart (.ofString property) (.ofString other)) → x.Readable property rows)

end Execution

namespace Fetch

/-- A fetch that injects at a property. -/
def AtProperty (f : Fetch) : Prop := f.injection = none ∧ ∃ property, f.property = some property

/-- What the fetch injects is still there after the other one has injected, whatever they bring. -/
def Outlasts (f g : Fetch) (property other : String) : Prop :=
  ∀ parents criteria fetched fetched', Execution.Readable ⟨f, parents, criteria, fetched⟩ property
    (g.inject other fetched' (f.inject property fetched parents))

theorem injected_nothing (f : Fetch) (parent : Row) :
    f.injected [] parent = .arr [] ∨ f.injected [] parent = .null := by
  unfold injected
  cases f.multiple with
  | true => exact .inl rfl
  | false => exact .inr rfl

theorem path?_empty (name : String) : Row.path? [] name = none := by
  unfold Row.path?
  cases Path.ofString name with
  | nil => rfl
  | cons key rest => rfl

/-- A row without any fields is injected everywhere. -/
theorem injected_empty_row (f : Fetch) (parent : Row) :
    f.injected [[]] parent = .arr [.obj []] ∨ f.injected [[]] parent = .obj [] := by
  have hmatches : matchesParent f.keys parent [] = true := by
    refine List.all_eq_true.mpr fun key _ => ?_
    rw [matchesKey, path?_empty]
  unfold injected
  cases f.multiple with
  | true => exact .inl (by simp [hmatches])
  | false => exact .inr (by simp [hmatches, Json.orNull])

/-- Nothing can be read inside of what is injected when nothing was brought. -/
theorem at?_injected_nothing (f : Fetch) (parent : Row) {rest : Path} (hrest : rest ≠ []) :
    (f.injected [] parent).at? rest = none := by
  obtain ⟨key, keys, rfl⟩ := List.exists_cons_of_ne_nil hrest
  rcases f.injected_nothing parent with h | h
  · rw [h, Json.at?, Json.step?]
    cases Text.word? key.toList <;> rfl
  · rw [h]
    rfl

/-- One injection survives another one exactly where their paths part. -/
theorem outlasts_iff (f g : Fetch) (property other : String) :
    f.Outlasts g property other ↔ Apart (.ofString property) (.ofString other) := by
  constructor
  · intro h
    -- a single parent without fields shows each loss, if the fetches bring what suits it
    have hread : ∀ fetched fetched', Row.at? (Row.setPath (Row.setPath [] property
        (f.injected fetched [])) other (g.injected fetched' (Row.setPath [] property
          (f.injected fetched [])))) (.ofString property) = some (f.injected fetched []) := by
      intro fetched fetched'
      exact (List.forall₂_cons.mp (h [[]] .null fetched fetched')).1
    have hproperty := Path.ofString_ne_nil property
    have hother := Path.ofString_ne_nil other
    have hdifferent : Path.ofString other ≠ Path.ofString property := by
      intro hsame
      have hlost := hread [] [[]]
      rw [Row.setPath, hsame, Row.at?_putAt_self hproperty, Option.some.injEq] at hlost
      rcases f.injected_nothing [] with hf | hf <;>
        rcases g.injected_empty_row (Row.setPath [] property (f.injected [] [])) with hg | hg <;>
        · rw [hg, hf] at hlost
          cases hlost
    constructor
    · rintro ⟨rest, hrest⟩
      have hbehind : rest ≠ [] := by
        rintro rfl
        exact hdifferent (by rw [← hrest, List.append_nil])
      have hlost := hread [] []
      obtain ⟨fields, hfields⟩ := Row.at?_putAt_extension hproperty hbehind
        (g.injected [] (Row.setPath [] property (f.injected [] [])))
        (Row.setPath [] property (f.injected [] []))
      rw [Row.setPath, ← hrest, hfields, Option.some.injEq] at hlost
      rcases f.injected_nothing [] with hf | hf <;>
        · rw [hf] at hlost
          cases hlost
    · rintro ⟨rest, hrest⟩
      have hbehind : rest ≠ [] := by
        rintro rfl
        exact hdifferent (by rw [← hrest, List.append_nil])
      have hlost := hread [] []
      rw [Row.setPath, ← hrest, Row.at?_putAt_prefix hother,
        g.at?_injected_nothing _ hbehind] at hlost
      cases hlost
  · intro hapart parents criteria fetched fetched'
    exact ((Execution.holds_inject ⟨f, parents, criteria, fetched⟩ property).inject hapart g
      fetched').readable

end Fetch

namespace Engine

variable {σ : Type} {e : Engine σ} {nested : Nested σ} {path : List String} {p : Prepared}
  {s t : Session σ} {rows after : List Row}

/-- What was injected before some fetches is still there after them if their paths part from it. -/
theorem Completes.holds {fetches : List Fetch} {log : List Execution} {x : Execution}
    {property : String} (h : Completes e nested path p fetches s rows log t after)
    (hfetches : ∀ f ∈ fetches, f.AtProperty) (hx : x.Holds property rows)
    (hapart : ∀ y ∈ log, ∀ other, y.fetch.property = some other →
      Apart (.ofString property) (.ofString other)) : x.Holds property after := by
  induction h with
  | nil => exact hx
  | skipped _ _ ih =>
    exact ih (fun f hf => hfetches f (List.mem_cons_of_mem _ hf)) hx hapart
  | @ran y rest _ _ _ between _ log hran _ ih =>
    obtain ⟨hscript, other, hother⟩ := hfetches y.fetch List.mem_cons_self
    refine ih (fun f hf => hfetches f (List.mem_cons_of_mem _ hf)) ?_
      fun z hz => hapart z (List.mem_cons_of_mem _ hz)
    rw [hran.after_eq hscript hother]
    exact hx.inject (hapart y List.mem_cons_self other hother) y.fetch y.fetched

theorem Completes.stays {fetches : List Fetch} {log : List Execution}
    (h : Completes e nested path p fetches s rows log t after)
    (hfetches : ∀ f ∈ fetches, f.AtProperty) : Execution.Stays log after := by
  induction h with
  | nil =>
    intro before x after hlog
    cases before <;> cases hlog
  | skipped _ _ ih => exact ih fun f hf => hfetches f (List.mem_cons_of_mem _ hf)
  | @ran y rest _ _ _ between _ log hran hrest ih =>
    have hlater : ∀ f ∈ rest, f.AtProperty := fun f hf => hfetches f (List.mem_cons_of_mem _ hf)
    intro before x later hlog
    cases before with
    | nil =>
      obtain ⟨rfl, rfl⟩ := List.cons.inj hlog
      obtain ⟨hscript, property, hproperty⟩ := hfetches y.fetch List.mem_cons_self
      refine ⟨property, hproperty, fun hapart => ?_⟩
      have hnow : y.Holds property between := by
        rw [hran.after_eq hscript hproperty]
        exact y.holds_inject property
      exact (hrest.holds hlater hnow hapart).readable
    | cons first before =>
      obtain ⟨-, hsplit⟩ := List.cons.inj hlog
      exact ih hlater before x later hsplit

/-- Rows that were found and completed. Between the fetches and the hints, each injected value is
readable as far as the paths part. -/
def CompletesTo (e : Engine σ) (depth : Nat) (name : String) (p : Prepared) (s : Session σ)
    (found : List Row) (t : Session σ) (rows : List Row) : Prop :=
  ∃ log filled, e.Filled (e.nestedOf depth) [name] p s found log t filled ∧
    Execution.Stays log filled ∧ e.handleHints p filled = .ok rows

theorem completesTo_of_complete {name : String} {depth : Nat} {found : List Row}
    (hfetches : ∀ f ∈ p.query.fetches, f.AtProperty)
    (h : (e.complete (e.nestedOf depth) [name] p found).on s = (.ok rows, t)) :
    e.CompletesTo depth name p s found t rows := by
  obtain ⟨log, filled, hfilled, hhints⟩ := complete_cases h
  refine ⟨log, filled, hfilled, ?_, hhints⟩
  cases hfilled with
  | nothing =>
    intro before x after hlog
    cases before <;> cases hlog
  | rows _ hcompletes => exact hcompletes.stays hfetches

/-- What is left of injected values in the answers of a query. -/
structure InjectionsStay (e : Engine σ) (s : Session σ) (name : String) (q : Query)
    (request : Request) : Prop where
  select : ∀ rows t, (e.select name request).on s = (.ok rows, t) → ∃ p u found, p.query = q ∧
    e.FindsRows name request none s p u found ∧
    e.CompletesTo s.store.catalog.length name p u found t rows
  get : ∀ answer t, (e.get name request).on s = (.ok answer, t) → ∃ p, p.query = q ∧
    ((e.FindsRow name request s p t none ∧ answer = none) ∨
      ∃ row u rows, e.FindsRow name request s p u (some row) ∧
        e.CompletesTo (s.store.catalog.length + 1) name p u [row] t rows ∧ answer = rows.head?)
  /-- Of any two fetches, the first one's injection survives the second one's only if the paths
  part. -/
  outlasts : ∀ f ∈ q.fetches, ∀ g ∈ q.fetches, ∀ property other, f.property = some property →
    g.property = some other →
    (f.Outlasts g property other ↔ Apart (.ofString property) (.ofString other))

theorem injections_stay {d : Draft} {q : Query} {name : String} (hs : e.Reachable s)
    (hbuild : d.build = .ok s.store.catalog) (hquery : s.store.catalog.find? name = some q)
    (hscripts : ∀ f ∈ q.fetches, f.injection = none) (request : Request) :
    e.InjectionsStay s name q request := by
  -- validation leaves a fetch without an injection script with a property
  have hfetches : ∀ f ∈ q.fetches, f.AtProperty := by
    obtain ⟨hproblems, hcatalog⟩ := Draft.build_cases hbuild
    rw [hcatalog] at hquery
    have hsound := (Catalog.sound_of_no_problems hproblems).sound _ (Dictionary.mem_of_find? hquery)
    intro f hf
    refine ⟨hscripts f hf, ?_⟩
    rcases (hsound.fetches f hf).injection with
      ⟨property, hproperty, -, -⟩ | ⟨-, script, hscript, -⟩
    · exact ⟨property, hproperty⟩
    · rw [hscripts f hf] at hscript
      cases hscript
  have hprepared : ∀ p, (∃ u, (e.prepare name request).on s = (.ok p, u)) → p.query = q := by
    rintro p ⟨u, hp⟩
    have hfound := find?_of_prepare hs.serves hp
    rw [hquery] at hfound
    exact (Option.some.inj hfound).symm
  constructor
  · intro rows t hrows
    rw [on_select] at hrows
    obtain ⟨p, u, found, hfound, hcomplete⟩ := selectBy_cases hrows
    obtain rfl := hprepared p hfound.prepared
    exact ⟨p, u, found, rfl, hfound, completesTo_of_complete hfetches hcomplete⟩
  · intro answer t hanswer
    rw [on_get] at hanswer
    obtain ⟨p, hnothing | ⟨row, u, rows, hfound, hcomplete, hhead⟩⟩ := getBy_cases hanswer
    · exact ⟨p, hprepared p hnothing.1.prepared, .inl hnothing⟩
    · obtain rfl := hprepared p hfound.prepared
      exact ⟨p, rfl, .inr ⟨row, u, rows, hfound, completesTo_of_complete hfetches hcomplete, hhead⟩⟩
  · intro f _ g _ property other _ _
    exact f.outlasts_iff g property other

def ordersFetch : FetchDefinition := { reference := "orders", property := some "orders" }

/-- Users with their orders, and with one order at a path inside of these. -/
def usersDefinition : QueryDefinition :=
  { name := "users"
    script := { kind := some .literal, code := some "SELECT * FROM users" }
    fetches := [ordersFetch,
      { reference := "orders", property := some "orders.0", multiple := false }] }

def usersDraft : Draft :=
  let orders : QueryDefinition :=
    { name := "orders", script := { kind := some .literal, code := some "SELECT * FROM orders" } }
  { definitions := [⟨"users", usersDefinition⟩, ⟨"orders", orders⟩] }

/-- One user, and one order for whoever asks. -/
def usersStorage : Engine Unit where
  executor :=
    { get := fun _ _ _ s => (.ok (some [("name", .str "ann")]), s)
      select := fun statement _ _ _ s =>
        (.ok (if statement == "SELECT * FROM users" then [[("name", .str "ann")]]
          else [[("id", .int 7)]]), s) }

def usersStart : Session Unit :=
  { store := { catalog := Catalog.ofDefinitions (usersDraft.definitions.map (·.definition))
               running := true }
    storage := () }

theorem users_reachable : usersStorage.Reachable usersStart := .fresh _ _ _

theorem users_no_problems : Validation.problems usersDraft.definitions = [] :=
  List.isEmpty_iff.mp (by decide +kernel)

theorem users_build : usersDraft.build = .ok usersStart.store.catalog :=
  Draft.build_of_no_problems (by decide +kernel)

theorem users_query :
    usersStart.store.catalog.find? "users" = some (.ofDefinition usersDefinition) :=
  (Catalog.sound_of_no_problems users_no_problems).found usersDefinition (by simp [usersDraft])

theorem users_without_scripts : ∀ f ∈ (Query.ofDefinition usersDefinition).fetches,
    f.injection = none := by
  intro f hf
  obtain ⟨definition, hdefinition, rfl⟩ := List.mem_map.mp hf
  simp only [usersDefinition, List.mem_cons, List.not_mem_nil, or_false] at hdefinition
  rcases hdefinition with rfl | rfl <;> rfl

theorem injections_stay_users : usersStorage.Reachable usersStart ∧
    usersDraft.build = .ok usersStart.store.catalog ∧
    usersStart.store.catalog.find? "users" = some (.ofDefinition usersDefinition) ∧
    (∀ f ∈ (Query.ofDefinition usersDefinition).fetches, f.injection = none) ∧
    usersStorage.InjectionsStay usersStart "users" (.ofDefinition usersDefinition) {} :=
  ⟨users_reachable, users_build, users_query, users_without_scripts,
    injections_stay users_reachable users_build users_query users_without_scripts {}⟩

/-- Whether the orders of each user are a list in the answer. -/
def ordersAreLists (answer : Except QueryError (List Row)) : List (Option Bool) :=
  match answer with
  | .ok rows => rows.map fun row => (row.path? "orders").map Json.isArray
  | .error _ => []

/-- The list of orders was injected, and is gone when the other fetch has run. -/
theorem inner_path_replaces_list : usersDraft.build = .ok usersStart.store.catalog ∧
    (∀ f ∈ (Query.ofDefinition usersDefinition).fetches, f.injection = none) ∧
    (Query.ofDefinition usersDefinition).hints = [] ∧
    ∃ rows t p u found log filled x,
      (usersStorage.select "users" {}).on usersStart = (.ok rows, t) ∧
      p.query = .ofDefinition usersDefinition ∧
      usersStorage.FindsRows "users" {} none usersStart p u found ∧
      usersStorage.Filled (usersStorage.nestedOf usersStart.store.catalog.length) ["users"] p u
        found log t filled ∧
      x ∈ log ∧ x.fetch.property = some "orders" ∧ ¬x.Readable "orders" filled := by
  have hlists : ordersAreLists ((usersStorage.select "users" {}).on usersStart).1 =
      [some false] := by decide +kernel
  rcases hselect : (usersStorage.select "users" {}).on usersStart with ⟨error | rows, t⟩
  · rw [hselect] at hlists
    cases hlists
  rw [hselect] at hlists
  have hrun := hselect
  rw [on_select] at hrun
  obtain ⟨p, u, found, hfound, hcomplete⟩ := selectBy_cases hrun
  have hquery : p.query = .ofDefinition usersDefinition := by
    obtain ⟨v, hp⟩ := hfound.prepared
    have hsame := find?_of_prepare users_reachable.serves hp
    rw [users_query] at hsame
    exact (Option.some.inj hsame).symm
  obtain ⟨log, filled, hfilled, hhints⟩ := complete_cases hcomplete
  have hplain : usersStorage.handleHints p filled = .ok filled := by
    rw [handleHints, HintHandlers.apply, hquery]
    rfl
  obtain rfl : filled = rows := by
    rw [hplain] at hhints
    exact Except.ok.inj hhints
  have hfetches : p.query.fetches = usersDefinition.fetches.map Fetch.ofDefinition := by
    rw [hquery]
    rfl
  obtain ⟨x, hx, hproperty, hmultiple⟩ : ∃ x ∈ log, x.fetch.property = some "orders" ∧
      x.fetch.multiple = true := by
    cases hfilled with
    | nothing => cases hlists
    | rows hne hcompletes =>
      rw [hfetches] at hcompletes
      have hwanted : ¬usersStorage.Skips p found (Fetch.ofDefinition ordersFetch) := by
        rintro (hlazy | hunwanted)
        · cases hlazy
        · cases hunwanted
      obtain ⟨x, hx, hfetch, -⟩ := hcompletes.first_of_not_skips hwanted
      refine ⟨x, hx, ?_, ?_⟩
      · rw [hfetch]
        decide +kernel
      · rw [hfetch]
        rfl
  refine ⟨users_build, users_without_scripts, rfl, filled, t, p, u, found, log, filled, x, rfl,
    hquery, hfound, hfilled, hx, hproperty, fun hreadable => ?_⟩
  -- a fetch of several rows injects a list, and there is none in the only row
  have hlength : filled.length = 1 := by
    simpa [ordersAreLists] using congrArg List.length hlists
  obtain ⟨row, rfl⟩ := List.length_eq_one_iff.mp hlength
  obtain ⟨parent, parents, hread, -, -⟩ := List.forall₂_cons_right_iff.mp hreadable
  have hnone : (row.path? "orders").map Json.isArray = some false :=
    List.singleton_inj.mp hlists
  rw [hread, Fetch.injected, if_pos hmultiple] at hnone
  cases hnone

end Engine

end QueryCatalog
