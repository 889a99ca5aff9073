import QueryCatalog.Proofs.Engine.Journal
import QueryCatalog.Proofs.Engine.Selections
import QueryCatalog.Proofs.Mapping.Soundness

/-!
For which parents a fetch asks. A completion starts with the rows that were found, and there are
some; each fetch is run for what the fetches before it have left. Only an injection script can leave
no rows at all, and the fetches after it ask for these all the same.
-/
namespace QueryCatalog

variable {σ : Type}

namespace Execution

/-- The rows that an injection script has put in the place of the parents. -/
def replacement (e : Engine σ) (p : Prepared) (x : Execution) : Option (List Row) :=
  match x.fetch.injection.map fun script => e.evaluate p.name script
    { Engine.fetchBindings p x.parents with fetched := some x.fetched } with
  | some (.ok answer) => if answer.isNull then none else answer.rows?
  | _ => none

/-- All of them, the first ones first. -/
def replacements (e : Engine σ) (p : Prepared) (log : List Execution) : List (List Row) :=
  log.filterMap (replacement e p)

end Execution

/-- Rows that were found and that the fetches of their query are run for, and the session that the
first of these is run in. The depth tells how deep they may nest. -/
structure Filling (σ : Type) where
  depth : Nat
  path : List String
  prepared : Prepared
  found : List Row
  start : Session σ

/-- A selection that a fetch asks for in the course of a filling, with the parents and the criteria
that it asks for, and the session in which it does so. -/
structure Batch (σ : Type) extends Filling σ where
  fetch : Fetch
  parents : List Row
  criteria : Json
  session : Session σ

namespace Engine

/-! The operations with a journal of the batches. -/

/-- Enters what a fetch asks for just before it is selected. -/
def enteringBatches (nested : Nested (σ × List (Batch σ))) (c : Filling σ) (rows : List Row)
    (f : Fetch) : Nested (σ × List (Batch σ)) := fun path name request size => do
  let s ← MonadState.get
  enter { c with fetch := f, parents := rows, criteria := request.criteria, session := bare s }
  nested path name request size

variable (e : Engine σ)

def fetchBatches (nested : Nested (σ × List (Batch σ))) (c : Filling σ) (rows : List Row)
    (f : Fetch) : Run (σ × List (Batch σ)) (List Row) :=
  (e.beside (Batch σ)).runFetch (enteringBatches nested c rows f) c.path c.prepared rows f

def fetchesBatches (nested : Nested (σ × List (Batch σ))) (c : Filling σ) :
    Run (σ × List (Batch σ)) (List Row) :=
  if c.found.isEmpty then return c.found
  else c.prepared.query.fetches.foldlM (e.fetchBatches nested c) c.found

def completeBatches (nested : Nested (σ × List (Batch σ))) (depth : Nat) (path : List String)
    (p : Prepared) (found : List Row) : Run (σ × List (Batch σ)) (List Row) := do
  let s ← MonadState.get
  let rows ← e.fetchesBatches nested { depth, path, prepared := p, found, start := bare s }
  (e.beside (Batch σ)).handleHints p rows

def selectBatches : Nat → List String → String → Request → Option Nat →
    Run (σ × List (Batch σ)) (List Row)
  | 0, _, name, _, _ => throw (.notFound name)
  | depth + 1, path, name, request, maximum =>
    (e.beside (Batch σ)).selectBy
      (e.completeBatches (fun path name request size =>
        selectBatches depth path name request (some size)) depth path) name request maximum

def nestedBatches (depth : Nat) : Nested (σ × List (Batch σ)) := fun path name request size =>
  e.selectBatches depth path name request (some size)

/-- An operation that starts at a query. -/
def operationBatches {α : Type} (name : String)
    (operation : (Prepared → List Row → Run (σ × List (Batch σ)) (List Row)) →
      Run (σ × List (Batch σ)) α) : Run (σ × List (Batch σ)) α := do
  let depth ← depth
  operation (e.completeBatches (e.nestedBatches depth) depth [name])

end Engine

/-- How a batch comes to its parents: the fetches before it were run for the rows that were found,
and the parents are what they left. -/
structure Batch.Known (e : Engine σ) (b : Batch σ) : Prop where
  found : b.found ≠ []
  asked : e.Asks b.path b.prepared b.parents b.fetch b.criteria
  left : ∃ before later log, b.prepared.query.fetches = before ++ b.fetch :: later ∧
    e.Completes (e.nestedOf b.depth) b.path b.prepared before b.start b.found log b.session
      b.parents ∧
    (b.parents = [] ↔ (Execution.replacements e b.prepared log).getLast? = some [])

namespace Engine

variable {e : Engine σ} {nested : Nested σ} {path : List String} {p : Prepared}
  {s t u : Session σ} {rows between after : List Row}

/-! How many rows the fetches leave. -/

/-- A script whose answer is null leaves the rows as they are. -/
theorem injectByScript_cases {owner : String} {f : Fetch} {script : Script} {bindings : Bindings}
    (h : e.injectByScript owner f script bindings rows = .ok after) :
    ∃ answer, e.evaluate owner script bindings = .ok answer ∧
      ((answer.isNull = true ∧ after = rows) ∨
        (answer.isNull = false ∧ answer.rows? = some after)) := by
  unfold injectByScript at h
  cases hanswer : e.evaluate owner script bindings with
  | error error =>
    rw [hanswer] at h
    cases h
  | ok answer =>
    refine ⟨answer, rfl, ?_⟩
    simp only [hanswer, bind, Except.bind] at h
    cases hnull : answer.isNull with
    | true =>
      rw [hnull, if_pos rfl] at h
      exact .inl ⟨rfl, (Except.ok.inj h).symm⟩
    | false =>
      rw [hnull, if_neg Bool.false_ne_true] at h
      cases hrows : answer.rows? with
      | none =>
        rw [hrows] at h
        cases h
      | some given =>
        rw [hrows] at h
        exact .inr ⟨rfl, congrArg some (Except.ok.inj h)⟩

theorem Ran.length_after {x : Execution} (h : e.Ran nested path p s x t after) :
    after.length = ((x.replacement e p).getD x.parents).length := by
  have hinjected := h.injected
  unfold Execution.replacement
  cases hscript : x.fetch.injection with
  | none =>
    cases hproperty : x.fetch.property with
    | none =>
      rw [injectRows, hscript, hproperty] at hinjected
      rw [← Except.ok.inj hinjected]
      rfl
    | some property =>
      rw [h.after_eq hscript hproperty]
      exact List.length_map _
  | some script =>
    rw [injectRows, hscript] at hinjected
    obtain ⟨answer, hanswer, hcases⟩ := injectByScript_cases hinjected
    -- the parents are among the bindings of the fetch already
    have hgiven : e.evaluate p.name script
        { fetchBindings p x.parents with fetched := some x.fetched } = .ok answer := hanswer
    rw [Option.map_some, hgiven]
    rcases hcases with ⟨hnull, rfl⟩ | ⟨hnull, hrows⟩
    · simp [hnull]
    · simp [hnull, hrows]

theorem Completes.length_after {fetches : List Fetch} {log : List Execution}
    (h : Completes e nested path p fetches s rows log t after) :
    after.length = ((Execution.replacements e p log).getLast?.getD rows).length := by
  induction h with
  | nil => rfl
  | skipped _ _ ih => exact ih
  | @ran x _ _ _ _ _ _ log hran _ ih =>
    have hbetween := hran.length_after
    unfold Execution.replacements at ih ⊢
    cases hreplaced : x.replacement e p with
    | none =>
      rw [hreplaced, Option.getD_none] at hbetween
      rw [List.filterMap_cons_none hreplaced, ih]
      cases (log.filterMap (Execution.replacement e p)).getLast? with
      | none => exact hbetween
      | some last => rfl
    | some given =>
      rw [hreplaced, Option.getD_some] at hbetween
      rw [List.filterMap_cons_some hreplaced, ih, List.getLast?_cons, Option.getD_some]
      cases (log.filterMap (Execution.replacement e p)).getLast? with
      | none => exact hbetween
      | some last => rfl

/-- There are none left just where the last script with an answer gave none. -/
theorem Completes.nil_iff {fetches : List Fetch} {log : List Execution}
    (h : Completes e nested path p fetches s rows log t after) (hrows : rows ≠ []) :
    after = [] ↔ (Execution.replacements e p log).getLast? = some [] := by
  rw [← List.length_eq_zero_iff, h.length_after]
  cases (Execution.replacements e p log).getLast? with
  | none => simpa using hrows
  | some last => simp

theorem Completes.append {first second : List Fetch} {log log' : List Execution}
    (h : Completes e nested path p first s rows log t between)
    (h' : Completes e nested path p second t between log' u after) :
    Completes e nested path p (first ++ second) s rows (log ++ log') u after := by
  induction h with
  | nil => exact h'
  | skipped hskips _ ih => exact .skipped hskips (ih h')
  | ran hran _ ih => exact .ran hran (ih h')

theorem completes_of_runFetch {f : Fetch}
    (h : (e.runFetch nested path p rows f).on s = (.ok after, t)) :
    ∃ log, Completes e nested path p [f] s rows log t after := by
  rcases runFetch_cases h with ⟨hskips, rfl, rfl⟩ | ⟨criteria, fetched, hran⟩
  · exact ⟨[], .skipped hskips .nil⟩
  · exact ⟨[_], .ran hran .nil⟩

/-! The operations enter batches that are known. -/

variable {nested' : Nested (σ × List (Batch σ))} {c : Filling σ}

section Fetches

variable (hn : ∀ path name request size, Journaled (Batch.Known e)
  (e.nestedOf c.depth path name request size) (nested' path name request size))
  (hfound : c.found ≠ [])

include hn hfound

theorem journals_fetchBatches {before later : List Fetch} {f : Fetch} {log : List Execution}
    {s : Session (σ × List (Batch σ))} (hfetches : c.prepared.query.fetches = before ++ f :: later)
    (hcompletes : Completes e (e.nestedOf c.depth) c.path c.prepared before c.start c.found log
      (bare s) rows) (hs : ∀ b ∈ journal s, b.Known e) :
    Journals (Batch.Known e)
      ((e.runFetch (e.nestedOf c.depth) c.path c.prepared rows f).on (bare s))
      ((e.fetchBatches nested' c rows f).on s) := by
  by_cases hasks : ∃ criteria, e.Asks c.path c.prepared rows f criteria
  · obtain ⟨criteria, hasks⟩ := hasks
    have hasks' : (e.beside (Batch σ)).Asks c.path c.prepared rows f criteria :=
      ⟨hasks.eager, hasks.wanted, hasks.asked, hasks.acyclic⟩
    rw [fetchBatches, on_runFetch_of_asks hasks, on_runFetch_of_asks hasks']
    refine Journals.bind ?_ fun fetched t _ ht => journaled_lift _ t ht
    -- what is entered has the parents that the fetches before it have left
    exact journals_enter (hn _ _ _ _) hs
      ⟨hfound, hasks, before, later, log, hfetches, hcompletes, hcompletes.nil_iff hfound⟩
  · have hunasked : ∀ criteria, ¬e.Asks c.path c.prepared rows f criteria :=
      fun criteria h => hasks ⟨criteria, h⟩
    have hunasked' : ∀ criteria, ¬(e.beside (Batch σ)).Asks c.path c.prepared rows f criteria :=
      fun criteria h => hunasked criteria ⟨h.eager, h.wanted, h.asked, h.acyclic⟩
    rw [fetchBatches, on_runFetch_unasked hunasked, on_runFetch_unasked hunasked']
    exact ⟨rfl, rfl, hs⟩

/-- The fetches that are left go on with what those before them have left of the rows. -/
theorem journals_foldlM {later : List Fetch} : ∀ (before : List Fetch) (log : List Execution)
    (s : Session (σ × List (Batch σ))) (rows : List Row),
    c.prepared.query.fetches = before ++ later →
    Completes e (e.nestedOf c.depth) c.path c.prepared before c.start c.found log (bare s) rows →
    (∀ b ∈ journal s, b.Known e) →
    Journals (Batch.Known e)
      ((later.foldlM (e.runFetch (e.nestedOf c.depth) c.path c.prepared) rows).on (bare s))
      ((later.foldlM (e.fetchBatches nested' c) rows).on s) := by
  induction later with
  | nil => exact fun _ _ s rows _ _ hs => journaled_pure rows s hs
  | cons f later ih =>
    intro before log s rows hfetches hcompletes hs
    rw [List.foldlM_cons, List.foldlM_cons]
    refine (journals_fetchBatches hn hfound hfetches hcompletes hs).bind fun after t hfetch ht => ?_
    obtain ⟨log', hlog'⟩ := completes_of_runFetch hfetch
    exact ih (before ++ [f]) (log ++ log') t after (by rw [hfetches, List.append_cons])
      (hcompletes.append hlog') ht

end Fetches

theorem journaled_completeBatches {depth : Nat}
    (hn : ∀ path name request size, Journaled (Batch.Known e)
      (e.nestedOf depth path name request size) (nested' path name request size))
    (path : List String) (p : Prepared) (found : List Row) :
    Journaled (Batch.Known e) (e.complete (e.nestedOf depth) path p found)
      (e.completeBatches nested' depth path p found) := by
  intro s hs
  have hget : (MonadState.get : Run (σ × List (Batch σ)) _).on s = (.ok s, s) := rfl
  rw [completeBatches, Run.on_bind_ok hget]
  refine Journals.bind ?_ fun rows t _ ht => journaled_lift _ t ht
  unfold runFetches fetchesBatches
  by_cases hfound : found = []
  · subst hfound
    exact journaled_pure [] s hs
  · have hsome : ¬found.isEmpty = true := by simpa using hfound
    rw [if_neg hsome, if_neg hsome]
    exact journals_foldlM (c := { depth, path, prepared := p, found, start := bare s }) hn hfound
      [] [] s found rfl .nil hs

theorem journaled_selectBatches (depth : Nat) : ∀ path name request maximum,
    Journaled (Batch.Known e) (e.selectWithin depth path name request maximum)
      (e.selectBatches depth path name request maximum) := by
  induction depth with
  | zero => exact fun _ name _ _ => journaled_throw (.notFound name)
  | succ depth ih =>
    intro path name request maximum
    refine journaled_selectBy (fun p rows => ?_) name request maximum
    exact journaled_completeBatches
      (fun path name request size => ih path name request (some size)) path p rows

/-- Each batch that an operation of the caller asks for is known, in whatever depth. -/
structure BatchesKnown (e : Engine σ) (s : Session σ) (name : String) (request : Request) :
    Prop where
  get : Journals (Batch.Known e) ((e.get name request).on s)
    ((e.operationBatches name fun complete =>
      (e.beside (Batch σ)).getBy complete name request).on (blank s (Batch σ)))
  select : Journals (Batch.Known e) ((e.select name request).on s)
    ((depth >>= fun depth => e.selectBatches depth [name] name request none).on
      (blank s (Batch σ)))
  page : Journals (Batch.Known e) ((e.page name request).on s)
    ((e.operationBatches name fun complete =>
      (e.beside (Batch σ)).pageBy complete name request).on (blank s (Batch σ)))
  forward : Journals (Batch.Known e) ((e.forward name request).on s)
    ((e.operationBatches name fun complete =>
      (e.beside (Batch σ)).forwardBy complete name request).on (blank s (Batch σ)))

theorem batches_known (e : Engine σ) (s : Session σ) (name : String) (request : Request) :
    BatchesKnown e s name request := by
  have hblank : ∀ b ∈ journal (blank s (Batch σ)), b.Known e :=
    fun _ hb => absurd hb List.not_mem_nil
  have hnested : ∀ depth path name request size, Journaled (Batch.Known e)
      (e.nestedOf depth path name request size) (e.nestedBatches depth path name request size) :=
    fun depth path name request size => journaled_selectBatches depth path name request (some size)
  constructor
  · rw [get_eq]
    refine journaled_bind journaled_depth (fun depth => ?_) _ hblank
    exact journaled_getBy (journaled_completeBatches (hnested depth) [name]) name request
  · refine journaled_bind journaled_depth (fun depth => ?_) _ hblank
    exact journaled_selectBatches depth [name] name request none
  · rw [page_eq]
    refine journaled_bind journaled_depth (fun depth => ?_) _ hblank
    exact journaled_pageBy (journaled_completeBatches (hnested depth) [name]) name request
  · rw [forward_eq]
    refine journaled_bind journaled_depth (fun depth => ?_) _ hblank
    exact journaled_forwardBy (journaled_completeBatches (hnested depth) [name]) name request

/-- Users whose orders are fetched for a script that gives up all of them, and then their visits. -/
def clearedDraft : Draft :=
  let query (name : String) (fetches : List FetchDefinition) : QueryDefinition :=
    { name, fetches, script := { kind := some .literal, code := some ("SELECT * FROM " ++ name) } }
  let orders : FetchDefinition :=
    { reference := "orders", injection := some { kind := some .native, code := some "clear" } }
  let visits : FetchDefinition := { reference := "visits", property := some "visits" }
  { definitions :=
      [⟨"users", query "users" [orders, visits]⟩, ⟨"orders", query "orders" []⟩,
        ⟨"visits", query "visits" []⟩] }

/-- One row for whatever is asked. -/
def clearingEngine : Engine Unit where
  executor :=
    { get := fun _ _ _ s => (.ok (some [("id", .int 1)]), s)
      select := fun _ _ _ _ s => (.ok [[("id", .int 1)]], s) }
  workshop := { natives := [("clear", { evaluate := fun _ => .ok (.arr []) })] }

def clearedStart : Session Unit :=
  { store := { catalog := Catalog.ofDefinitions (clearedDraft.definitions.map (·.definition))
               running := true }
    storage := () }

/-- What is asked for when the users are selected. -/
def clearedBatches : List (Batch Unit) :=
  journal ((depth >>= fun depth =>
    clearingEngine.selectBatches depth ["users"] "users" {} none).on (blank clearedStart _)).2

/-- The visits are selected for no users. -/
theorem visits_of_nobody : clearedDraft.build = .ok clearedStart.store.catalog ∧
    ¬(∀ b ∈ clearedBatches, b.parents ≠ []) ∧
    (calls ((clearingEngine.recorded.select "users" {}).on (recording clearedStart)).2).map
        (·.statement) =
      ["SELECT * FROM users", "SELECT * FROM orders", "SELECT * FROM visits"] := by
  have hbatches : clearedBatches.map (·.parents.length) = [1, 0] := by decide +kernel
  have hnobody : 0 ∈ clearedBatches.map (·.parents.length) := by simp [hbatches]
  obtain ⟨b, hb, hlength⟩ := List.mem_map.mp hnobody
  refine ⟨Draft.build_of_no_problems (by decide +kernel), fun hparents => ?_, by decide +kernel⟩
  exact hparents b hb (List.length_eq_zero_iff.mp hlength)

end Engine

end QueryCatalog
