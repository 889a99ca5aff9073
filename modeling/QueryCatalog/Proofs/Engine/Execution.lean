import QueryCatalog.Proofs.Engine.Visits

/-!
Which fetches a completed result was filled by. Each fetch either is skipped or is executed for the
rows that the fetches before it have left, and a completion that succeeds is a sequence of these.
-/
namespace QueryCatalog

/-- A fetch that was executed for some rows: the criteria that it gave and the rows it brought. -/
structure Execution where
  fetch : Fetch
  parents : List Row
  criteria : Json
  fetched : List Row

namespace Engine

variable {σ : Type} {e : Engine σ} {nested : Nested σ} {path : List String} {p : Prepared}

/-- What the scripts of a fetch are given besides the criteria and the context. -/
def fetchBindings (p : Prepared) (rows : List Row) : Bindings :=
  { p.request.bindings with rows := some rows }

/-- A fetch that is not executed: it is lazy, or its predicate does not want it. -/
def Skips (e : Engine σ) (p : Prepared) (rows : List Row) (f : Fetch) : Prop :=
  f.eager = false ∨ e.wanted p.name f (fetchBindings p rows) = .ok false

/-- An execution that succeeds from one session to another and leaves the given rows. -/
structure Ran (e : Engine σ) (nested : Nested σ) (path : List String) (p : Prepared)
    (s : Session σ) (x : Execution) (t : Session σ) (after : List Row) : Prop where
  eager : x.fetch.eager = true
  wanted : e.wanted p.name x.fetch (fetchBindings p x.parents) = .ok true
  asked : x.fetch.criteria p.name
    (fun script => e.evaluate p.name script (fetchBindings p x.parents)) p.request.criteria
      x.parents = .ok x.criteria
  acyclic : path.contains x.fetch.target = false
  brought : (nested (path ++ [x.fetch.target]) x.fetch.target
    { criteria := x.criteria, context := p.request.context } x.fetch.maxSize).on s =
      (.ok x.fetched, t)
  injected : e.injectRows p.name x.fetch (fetchBindings p x.parents) x.fetched x.parents = .ok after

/-- Without a script an execution injects at the property of its fetch. -/
theorem Ran.after_eq {x : Execution} {s t : Session σ} {after : List Row}
    (h : e.Ran nested path p s x t after)
    (hscript : x.fetch.injection = none) {property : String}
    (hproperty : x.fetch.property = some property) :
    after = x.fetch.inject property x.fetched x.parents := by
  have hinjected := h.injected
  rw [injectRows, hscript, hproperty] at hinjected
  exact (Except.ok.inj hinjected).symm

theorem runFetch_cases {rows after : List Row} {f : Fetch} {s t : Session σ}
    (h : (e.runFetch nested path p rows f).on s = (.ok after, t)) :
    (e.Skips p rows f ∧ after = rows ∧ t = s) ∨
      ∃ criteria fetched, e.Ran nested path p s ⟨f, rows, criteria, fetched⟩ t after := by
  unfold runFetch at h
  by_cases heager : f.eager = true
  · simp only [heager, Bool.not_true, Bool.false_eq_true, if_false] at h
    obtain ⟨wanted, u, hlift, hrest⟩ := Run.on_bind_eq_ok h
    obtain ⟨hwanted, rfl⟩ := Run.on_lift_eq_ok hlift
    cases wanted with
    | false =>
      simp only [Bool.not_false, if_true, Run.on_pure] at hrest
      cases hrest
      exact .inl ⟨.inr hwanted, rfl, rfl⟩
    | true =>
      simp only [Bool.not_true, Bool.false_eq_true, if_false] at hrest
      obtain ⟨criteria, v, hlift, hopen⟩ := Run.on_bind_eq_ok hrest
      obtain ⟨hcriteria, rfl⟩ := Run.on_lift_eq_ok hlift
      by_cases hpath : path.contains f.target = true
      · simp only [hpath, if_true] at hopen
        obtain ⟨_, _, hthrown, _⟩ := Run.on_bind_eq_ok hopen
        cases hthrown
      · simp only [hpath] at hopen
        obtain ⟨fetched, w, hfetched, hlift⟩ := Run.on_bind_eq_ok hopen
        obtain ⟨hinject, rfl⟩ := Run.on_lift_eq_ok hlift
        exact .inr ⟨criteria, fetched, heager, hwanted, hcriteria, by simpa using hpath, hfetched,
          hinject⟩
  · simp only [heager, Bool.not_false, if_true, Run.on_pure] at h
    cases h
    exact .inl ⟨.inl (by simpa using heager), rfl, rfl⟩

/-- Fetches one after the other, with those of them that were executed. -/
inductive Completes (e : Engine σ) (nested : Nested σ) (path : List String) (p : Prepared) :
    List Fetch → Session σ → List Row → List Execution → Session σ → List Row → Prop
  | nil {s : Session σ} {rows : List Row} : Completes e nested path p [] s rows [] s rows
  | skipped {f : Fetch} {rest : List Fetch} {s t : Session σ} {rows after : List Row}
      {log : List Execution} : e.Skips p rows f →
      Completes e nested path p rest s rows log t after →
      Completes e nested path p (f :: rest) s rows log t after
  | ran {x : Execution} {rest : List Fetch} {s t u : Session σ} {between after : List Row}
      {log : List Execution} : e.Ran nested path p s x t between →
      Completes e nested path p rest t between log u after →
      Completes e nested path p (x.fetch :: rest) s x.parents (x :: log) u after

theorem completes_of_foldlM {fetches : List Fetch} {rows after : List Row} {s t : Session σ}
    (h : (fetches.foldlM (e.runFetch nested path p) rows).on s = (.ok after, t)) :
    ∃ log, Completes e nested path p fetches s rows log t after := by
  induction fetches generalizing rows s with
  | nil =>
    rw [List.foldlM_nil, Run.on_pure] at h
    cases h
    exact ⟨[], .nil⟩
  | cons f rest ih =>
    rw [List.foldlM_cons] at h
    obtain ⟨between, u, hfirst, hrest⟩ := Run.on_bind_eq_ok h
    obtain ⟨log, hlog⟩ := ih hrest
    rcases runFetch_cases hfirst with ⟨hskips, rfl, rfl⟩ | ⟨criteria, fetched, hran⟩
    · exact ⟨log, .skipped hskips hlog⟩
    · exact ⟨_ :: log, .ran hran hlog⟩

/-- Nothing is executed but the fetches of the list. -/
theorem Completes.mem_fetches {fetches : List Fetch} {s t : Session σ} {rows after : List Row}
    {log : List Execution} (h : Completes e nested path p fetches s rows log t after) :
    ∀ x ∈ log, x.fetch ∈ fetches := by
  induction h with
  | nil => simp
  | skipped _ _ ih => exact fun x hx => List.mem_cons_of_mem _ (ih x hx)
  | ran _ _ ih =>
    intro y hy
    rcases List.mem_cons.mp hy with rfl | hrest
    · exact List.mem_cons_self
    · exact List.mem_cons_of_mem _ (ih y hrest)

/-- A fetch that is not skipped is the first to be executed. -/
theorem Completes.first_of_not_skips {f : Fetch} {rest : List Fetch} {s t : Session σ}
    {rows after : List Row} {log : List Execution} (hf : ¬e.Skips p rows f)
    (h : Completes e nested path p (f :: rest) s rows log t after) :
    ∃ x ∈ log, x.fetch = f ∧ x.parents = rows := by
  cases h with
  | skipped hskips _ => exact absurd hskips hf
  | ran _ _ => exact ⟨_, List.mem_cons_self, rfl, rfl⟩

/-- Rows that were found and then filled by the fetches of their query. -/
inductive Filled (e : Engine σ) (nested : Nested σ) (path : List String) (p : Prepared) :
    Session σ → List Row → List Execution → Session σ → List Row → Prop
  | nothing {s : Session σ} : Filled e nested path p s [] [] s []
  | rows {s t : Session σ} {found filled : List Row} {log : List Execution} : found ≠ [] →
      Completes e nested path p p.query.fetches s found log t filled →
      Filled e nested path p s found log t filled

theorem Filled.mem_fetches {s t : Session σ} {found filled : List Row} {log : List Execution}
    (h : Filled e nested path p s found log t filled) : ∀ x ∈ log, x.fetch ∈ p.query.fetches := by
  cases h with
  | nothing => simp
  | rows _ hcompletes => exact hcompletes.mem_fetches

theorem filled_of_runFetches {found filled : List Row} {s t : Session σ}
    (h : (e.runFetches nested path p found).on s = (.ok filled, t)) :
    ∃ log, Filled e nested path p s found log t filled := by
  unfold runFetches at h
  cases found with
  | nil =>
    rw [List.isEmpty_nil, if_pos rfl, Run.on_pure] at h
    cases h
    exact ⟨[], .nothing⟩
  | cons row rest =>
    rw [List.isEmpty_cons, if_neg Bool.false_ne_true] at h
    obtain ⟨log, hlog⟩ := completes_of_foldlM h
    exact ⟨log, .rows (List.cons_ne_nil _ _) hlog⟩

theorem complete_cases {found rows : List Row} {s t : Session σ}
    (h : (e.complete nested path p found).on s = (.ok rows, t)) :
    ∃ log filled, Filled e nested path p s found log t filled ∧
      e.handleHints p filled = .ok rows := by
  obtain ⟨filled, u, hfetches, hlift⟩ := Run.on_bind_eq_ok h
  obtain ⟨hhints, rfl⟩ := Run.on_lift_eq_ok hlift
  obtain ⟨log, hfilled⟩ := filled_of_runFetches hfetches
  exact ⟨log, filled, hfilled, hhints⟩

/-- The rows that are found for a selection, before they are completed. -/
def FindsRows (e : Engine σ) (name : String) (request : Request) (maximum : Option Nat)
    (s : Session σ) (p : Prepared) (t : Session σ) (found : List Row) : Prop :=
  ∃ u final rows, (e.prepare name request).on s = (.ok p, u) ∧ p.final = .ok final ∧
    (e.selectRows p name final.statement
      (expectedFor (maximum.getD (e.settings.maxSelectSizeOf p.query))) final.args).on u =
        (.ok rows, t) ∧
    e.capped name (maximum.getD (e.settings.maxSelectSizeOf p.query)) rows = .ok found

/-- The row that is found for a request, or that there is none. -/
def FindsRow (e : Engine σ) (name : String) (request : Request) (s : Session σ) (p : Prepared)
    (t : Session σ) (found : Option Row) : Prop :=
  ∃ u final, (e.prepare name request).on s = (.ok p, u) ∧ p.final = .ok final ∧
    (e.getRow p name final.statement final.args).on u = (.ok found, t)

variable {complete : Prepared → List Row → Run σ (List Row)} {name : String} {request : Request}
  {s t : Session σ}

theorem selectBy_cases {maximum : Option Nat} {rows : List Row}
    (h : (e.selectBy complete name request maximum).on s = (.ok rows, t)) :
    ∃ p u found, e.FindsRows name request maximum s p u found ∧
      (complete p found).on u = (.ok rows, t) := by
  obtain ⟨p, u, hp, hprepared⟩ := Run.on_bind_eq_ok h
  obtain ⟨final, u', hlift, hbound⟩ := Run.on_bind_eq_ok hprepared
  obtain ⟨hfinal, rfl⟩ := Run.on_lift_eq_ok hlift
  obtain ⟨read, v, hread, hrest⟩ := Run.on_bind_eq_ok hbound
  obtain ⟨found, v', hcut, hcomplete⟩ := Run.on_bind_eq_ok hrest
  obtain ⟨hcapped, rfl⟩ := Run.on_lift_eq_ok hcut
  exact ⟨p, v', found, ⟨u', final, read, hp, hfinal, hread, hcapped⟩, hcomplete⟩

theorem getBy_cases {answer : Option Row}
    (h : (e.getBy complete name request).on s = (.ok answer, t)) :
    ∃ p, (e.FindsRow name request s p t none ∧ answer = none) ∨
      ∃ row u rows, e.FindsRow name request s p u (some row) ∧
        (complete p [row]).on u = (.ok rows, t) ∧ answer = rows.head? := by
  obtain ⟨p, u, hp, hprepared⟩ := Run.on_bind_eq_ok h
  obtain ⟨final, u', hlift, hbound⟩ := Run.on_bind_eq_ok hprepared
  obtain ⟨hfinal, rfl⟩ := Run.on_lift_eq_ok hlift
  obtain ⟨found, v, hfound, hrest⟩ := Run.on_bind_eq_ok hbound
  refine ⟨p, ?_⟩
  cases found with
  | none =>
    rw [Run.on_pure] at hrest
    cases hrest
    exact .inl ⟨⟨u', final, hp, hfinal, hfound⟩, rfl⟩
  | some row =>
    obtain ⟨rows, w, hrows, hanswer⟩ := Run.on_bind_eq_ok hrest
    rw [Run.on_pure] at hanswer
    cases hanswer
    exact .inr ⟨row, v, rows, ⟨u', final, hp, hfinal, hfound⟩, hrows, rfl⟩

theorem FindsRows.prepared {maximum : Option Nat} {found : List Row}
    (h : e.FindsRows name request maximum s p t found) :
    ∃ u, (e.prepare name request).on s = (.ok p, u) := by
  obtain ⟨u, _, _, hp, _⟩ := h
  exact ⟨u, hp⟩

theorem FindsRow.prepared {found : Option Row} (h : e.FindsRow name request s p t found) :
    ∃ u, (e.prepare name request).on s = (.ok p, u) := by
  obtain ⟨u, _, hp, _⟩ := h
  exact ⟨u, hp⟩

end Engine

end QueryCatalog
