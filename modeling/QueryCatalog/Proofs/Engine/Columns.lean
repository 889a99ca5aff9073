import QueryCatalog.Proofs.Engine.Execution
import QueryCatalog.Proofs.Json.Overwriting

/-!
What the fetches of a query leave of the rows that they fill. Each fetch writes a single column, the
first segment of its path, whatever it brings and however deep the path goes. The rows stay where
they are, and so do their columns.
-/
namespace QueryCatalog

namespace Row

/-- Outside of the written columns a row is as it was, and no column has moved. -/
structure Spares (written : String → Prop) (row after : Row) : Prop where
  places : row.names <+: after.names
  columns : ∀ (i : Nat) (k : String) (v : Json), row[i]? = some (k, v) → ¬written k →
    after[i]? = some (k, v)
  values : ∀ k, ¬written k → after.get? k = row.get? k

variable {written : String → Prop} {key : String} {row between after : Row}

theorem getElem?_put_of_ne {i : Nat} {k : String} {v : Json} (hk : k ≠ key)
    (h : row[i]? = some (k, v)) (value : Json) : (row.put key value)[i]? = some (k, v) := by
  induction row generalizing i with
  | nil => cases h
  | cons field rest ih =>
    obtain ⟨name, old⟩ := field
    by_cases hname : name = key
    · cases i with
      | zero =>
        cases h
        exact absurd hname hk
      | succ i => simpa [put, hname] using h
    · have hne : (name == key) = false := by simpa using hname
      cases i with
      | zero => simpa [put, hne] using h
      | succ i => simpa [put, hne] using ih h

namespace Spares

theorem refl (written : String → Prop) (row : Row) : Spares written row row :=
  ⟨List.prefix_rfl, fun _ _ _ h _ => h, fun _ _ => rfl⟩

theorem trans (h : Spares written row between) (h' : Spares written between after) :
    Spares written row after where
  places := h.places.trans h'.places
  columns i k v hcolumn hk := h'.columns i k v (h.columns i k v hcolumn hk) hk
  values k hk := (h'.values k hk).trans (h.values k hk)

theorem put (h : written key) (value : Json) (row : Row) :
    Spares written row (row.put key value) := by
  have hother : ∀ k, ¬written k → k ≠ key := by
    rintro k hk rfl
    exact hk h
  constructor
  · exact names_put key value row
  · exact fun i k v hcolumn hk => getElem?_put_of_ne (hother k hk) hcolumn value
  · exact fun k hk => get?_put_of_ne (hother k hk) value row

theorem setPath {property : String} (h : ∀ k, (Path.ofString property).head? = some k → written k)
    (value : Json) (row : Row) : Spares written row (row.setPath property value) := by
  obtain ⟨key, rest, hpath⟩ := List.exists_cons_of_ne_nil (Path.ofString_ne_nil property)
  obtain ⟨inner, hput⟩ := putAt_eq_put value key rest row
  have hkey : written key := h key (by rw [hpath]; rfl)
  rw [Row.setPath, hpath, hput]
  exact put hkey inner row

end Spares

end Row

namespace Fetch

/-- The column that the fetch writes, which is the first segment of its path. -/
def column? (f : Fetch) : Option String :=
  f.property.bind fun property => (Path.ofString property).head?

end Fetch

/-- Some fetch of the query injects into the column. -/
def Query.FillsColumn (q : Query) (column : String) : Prop :=
  ∃ f ∈ q.fetches, f.column? = some column

/-- Some execution has injected into the column. -/
def Execution.FilledColumn (log : List Execution) (column : String) : Prop :=
  ∃ x ∈ log, x.fetch.column? = some column

namespace Engine

variable {σ : Type} {e : Engine σ} {nested : Nested σ} {path : List String} {p : Prepared}
  {s t : Session σ} {start rows after : List Row} {written : String → Prop}

/-- An execution spares what was spared before it. -/
theorem Ran.spares {x : Execution} (h : e.Ran nested path p s x t after)
    (hscript : x.fetch.injection = none) (hwritten : ∀ k, x.fetch.column? = some k → written k)
    (hstart : List.Forall₂ (Row.Spares written) start x.parents) :
    List.Forall₂ (Row.Spares written) start after := by
  cases hproperty : x.fetch.property with
  | none =>
    have hinjected := h.injected
    rw [injectRows, hscript, hproperty] at hinjected
    obtain rfl := Except.ok.inj hinjected
    exact hstart
  | some property =>
    rw [h.after_eq hscript hproperty, Fetch.inject, List.forall₂_map_right_iff]
    refine hstart.imp fun row parent hrow => hrow.trans (Row.Spares.setPath (fun k hk => ?_) _ _)
    refine hwritten k ?_
    rw [Fetch.column?, hproperty]
    exact hk

/-- The rows at the start are the first parents; those of each execution are what the ones before it
have left of them. -/
theorem Completes.spares {fetches : List Fetch} {log : List Execution}
    (h : Completes e nested path p fetches s rows log t after)
    (hscripts : ∀ x ∈ log, x.fetch.injection = none)
    (hwritten : ∀ x ∈ log, ∀ k, x.fetch.column? = some k → written k)
    (hstart : List.Forall₂ (Row.Spares written) start rows) :
    List.Forall₂ (Row.Spares written) start after := by
  induction h with
  | nil => exact hstart
  | skipped _ _ ih => exact ih hscripts hwritten hstart
  | ran hran _ ih =>
    rw [List.forall_mem_cons] at hscripts hwritten
    exact ih hscripts.2 hwritten.2 (hran.spares hscripts.1 hwritten.1 hstart)

theorem Filled.spares {log : List Execution} (h : Filled e nested path p s rows log t after)
    (hscripts : ∀ x ∈ log, x.fetch.injection = none)
    (hwritten : ∀ x ∈ log, ∀ k, x.fetch.column? = some k → written k) :
    List.Forall₂ (Row.Spares written) rows after := by
  cases h with
  | nothing => exact .nil
  | rows _ hcompletes =>
    exact hcompletes.spares hscripts hwritten (List.forall₂_same.mpr fun row _ => .refl _ row)

/-- Fetches that inject at paths keep the rows, and all columns that no path begins with. What a
fetch would write stays as well if it is not executed. -/
theorem runFetches_spares (hscripts : ∀ f ∈ p.query.fetches, f.injection = none)
    (h : (e.runFetches nested path p rows).on s = (.ok after, t)) :
    List.Forall₂ (Row.Spares p.query.FillsColumn) rows after ∧
      ∃ log, e.Filled nested path p s rows log t after ∧
        List.Forall₂ (Row.Spares (Execution.FilledColumn log)) rows after := by
  obtain ⟨log, hfilled⟩ := filled_of_runFetches h
  have hlog : ∀ x ∈ log, x.fetch ∈ p.query.fetches := hfilled.mem_fetches
  have hplain : ∀ x ∈ log, x.fetch.injection = none := fun x hx => hscripts x.fetch (hlog x hx)
  refine ⟨?_, log, hfilled, ?_⟩
  · exact hfilled.spares hplain fun x hx k hk => ⟨x.fetch, hlog x hx, hk⟩
  · exact hfilled.spares hplain fun x hx k hk => ⟨x, hx, hk⟩

/-- Users whose orders go into an inner object, and whose notes are not fetched at once. -/
def billedUsers : Prepared where
  query := .ofDefinition
    { name := "users"
      script := { kind := some .literal, code := some "SELECT * FROM users" }
      fetches := [{ reference := "orders", property := some "billing.orders" },
        { reference := "notes", property := some "notes", eager := false }] }
  request := {}
  bound := ⟨"SELECT * FROM users", []⟩
  expanded := true

/-- A storage that is not asked for anything, and a nested selection that brings one order. -/
def silentStorage : Engine Unit where
  executor := { get := fun _ _ _ s => (.ok none, s), select := fun _ _ _ _ s => (.ok [], s) }

def silentStart : Session Unit := { store := { catalog := [] }, storage := () }

def oneOrder : Nested Unit := fun _ _ _ _ => pure [[("id", .int 7)]]

/-- A user whose billing is a number before the orders are injected. -/
def ann : Row := [("name", .str "ann"), ("billing", .int 1), ("city", .str "oslo")]

def billedAnn : Row :=
  [("name", .str "ann"), ("billing", .obj [("orders", .arr [.obj [("id", .int 7)]])]),
    ("city", .str "oslo")]

theorem runFetches_spares_ann : (∀ f ∈ billedUsers.query.fetches, f.injection = none) ∧
    (silentStorage.runFetches oneOrder ["users"] billedUsers [ann]).on silentStart =
      (.ok [billedAnn], silentStart) ∧
    List.Forall₂ (Row.Spares billedUsers.query.FillsColumn) [ann] [billedAnn] ∧
    ∃ log, silentStorage.Filled oneOrder ["users"] billedUsers silentStart [ann] log silentStart
        [billedAnn] ∧
      List.Forall₂ (Row.Spares (Execution.FilledColumn log)) [ann] [billedAnn] := by
  have hscripts : ∀ f ∈ billedUsers.query.fetches, f.injection = none := by decide +kernel
  have hrun : (silentStorage.runFetches oneOrder ["users"] billedUsers [ann]).on silentStart =
      (.ok [billedAnn], silentStart) := rfl
  exact ⟨hscripts, hrun, runFetches_spares hscripts hrun⟩

end Engine

end QueryCatalog
