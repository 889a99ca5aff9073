import QueryCatalog.Proofs.Engine.Execution
import QueryCatalog.Proofs.Engine.Lookahead

/-!
The selections of a run. A selection leads to those that its fetches ask for, whether they succeed
or fail; a failure of one of them is the failure of all that lead to it, and storage is called for
rows by none but these.
-/
namespace QueryCatalog

variable {σ : Type}

/-- A call of the storage for rows, with the answer to it. -/
structure Note where
  call : BoundStatement
  answer : Except String (List Row)

/-- Notes each call for rows behind those before it. -/
def Executor.noted (x : Executor σ) : Executor (σ × List Note) where
  get statement timeout args s :=
    let (answer, storage) := x.get statement timeout args s.1
    (answer, storage, s.2)
  select statement expected timeout args s :=
    let (answer, storage) := x.select statement expected timeout args s.1
    (answer, storage, s.2 ++ [⟨⟨statement, args⟩, answer⟩])

/-- A selection, and the session it starts in. Its maximum is that of the fetch that asks for it, its
depth tells how deep its own fetches may nest. -/
structure Selection (σ : Type) where
  depth : Nat
  path : List String
  name : String
  request : Request
  maximum : Option Nat
  start : Session σ

namespace Engine

def noted (e : Engine σ) : Engine (σ × List Note) := e.withExecutor e.executor.noted

def notes (s : Session (σ × List Note)) : List Note := s.storage.2

/-- A session before the first note. -/
def noting (s : Session σ) : Session (σ × List Note) := ⟨s.store, s.storage, []⟩

/-- Notes do not change the answer. -/
theorem noted_answer (e : Engine σ) (name : String) (request : Request) (s : Session σ) :
    ((e.noted.select name request).on (noting s)).1 = ((e.select name request).on s).1 := by
  have halike : ∀ c, e.executor.noted.Alike e.executor (fun a b => a.1 = b) c := by
    intro c
    constructor
    · rintro timeout a b rfl
      exact ⟨rfl, rfl⟩
    · rintro expected timeout a b rfl
      exact ⟨rfl, rfl⟩
  have hsame := (select_opens e.noted name request).sameRun (x := e.executor.noted)
    (y := e.executor) (s := noting s) (t := s) (fun p rows => SameUpTo.refl _ rows)
    ⟨rfl, rfl, fun p final _ _ => ⟨SameAnswer.refl (fun rows => SameUpTo.refl _ rows) _, rfl⟩,
      fun c _ => halike c⟩
  exact hsame.answer

end Engine

namespace Selection

/-- A selection that no fetch asks for. -/
def root (s : Session σ) (name : String) (request : Request) : Selection σ :=
  { depth := s.store.catalog.length, path := [name], name, request, maximum := none, start := s }

/-- The selection that a fetch asks for. -/
def nested (c : Selection σ) (depth : Nat) (p : Prepared) (f : Fetch) (criteria : Json)
    (start : Session σ) : Selection σ :=
  { depth, path := c.path ++ [f.target], name := f.target,
    request := { criteria, context := p.request.context }, maximum := some f.maxSize, start }

variable (e : Engine σ) (c : Selection σ)

def operation : Run σ (List Row) :=
  e.selectBy (e.complete (e.nestedOf c.depth) c.path) c.name c.request c.maximum

def run : Except QueryError (List Row) × Session σ := (c.operation e).on c.start

/-- How many rows it may have. -/
def cap (p : Prepared) : Nat := c.maximum.getD (e.settings.maxSelectSizeOf p.query)

/-- It comes to a call of the storage. -/
def Reads (p : Prepared) (note : Note) (t : Session σ) : Prop :=
  ∃ u, (e.prepare c.name c.request).on c.start = (.ok p, u) ∧ p.final = .ok note.call ∧
    e.executor.select note.call.statement (Engine.expectedFor (c.cap e p))
      (e.settings.timeoutOf p.query) note.call.args u.storage = (note.answer, t.storage) ∧
    t = { u with storage := t.storage }

end Selection

namespace Engine

/-- A fetch asks for rows. -/
structure Asks (e : Engine σ) (path : List String) (p : Prepared) (rows : List Row) (f : Fetch)
    (criteria : Json) : Prop where
  eager : f.eager = true
  wanted : e.wanted p.name f (fetchBindings p rows) = .ok true
  asked : f.criteria p.name (fun script => e.evaluate p.name script (fetchBindings p rows))
    p.request.criteria rows = .ok criteria
  acyclic : path.contains f.target = false

/-- What a fetch comes to that does not ask for rows. -/
def unasked (e : Engine σ) (path : List String) (p : Prepared) (rows : List Row) (f : Fetch) :
    Except QueryError (List Row) := do
  if !f.eager then return rows
  let bindings := fetchBindings p rows
  if !(← e.wanted p.name f bindings) then return rows
  let _ ← f.criteria p.name (fun script => e.evaluate p.name script bindings) p.request.criteria rows
  throw (.fetchCycle (path ++ [f.target]))

/-- The fetches that a selection has left, and the rows as those before them have filled them. -/
inductive Progress (e : Engine σ) (c : Selection σ) (p : Prepared) :
    List Fetch → Session σ → List Row → Prop
  | start {call : BoundStatement} {rows found : List Row} {t : Session σ} :
      c.Reads e p ⟨call, .ok rows⟩ t → e.capped c.name (c.cap e p) rows = .ok found → found ≠ [] →
      Progress e c p p.query.fetches t found
  | next {f : Fetch} {later : List Fetch} {t u : Session σ} {rows after : List Row} :
      Progress e c p (f :: later) t rows →
      (e.runFetch (e.nestedOf c.depth) c.path p rows f).on t = (.ok after, u) →
      Progress e c p later u after

/-- From a selection to one that a fetch of it asks for. -/
inductive Leads (e : Engine σ) : Selection σ → Selection σ → Prop
  | fetch {c : Selection σ} {depth : Nat} {p : Prepared} {f : Fetch} {later : List Fetch}
      {t : Session σ} {rows : List Row} {criteria : Json} : c.depth = depth + 1 →
      Progress e c p (f :: later) t rows → e.Asks c.path p rows f criteria →
      Leads e c (c.nested depth p f criteria t)

/-- Over any number of fetches. -/
def Reaches (e : Engine σ) : Selection σ → Selection σ → Prop := Relation.ReflTransGen e.Leads

variable {e : Engine σ} {nested : Nested σ} {path : List String} {p : Prepared} {s t : Session σ}
  {rows after : List Row} {f : Fetch} {c c' : Selection σ}

/-! What a fetch does. -/

theorem Ran.asks {x : Execution} (h : e.Ran nested path p s x t after) :
    e.Asks path p x.parents x.fetch x.criteria := ⟨h.eager, h.wanted, h.asked, h.acyclic⟩

theorem Asks.not_skips {criteria : Json} (h : e.Asks path p rows f criteria) :
    ¬e.Skips p rows f := by
  rintro (hlazy | hunwanted)
  · rw [h.eager] at hlazy
    cases hlazy
  · rw [h.wanted] at hunwanted
    cases hunwanted

theorem on_runFetch_of_asks {criteria : Json} (h : e.Asks path p rows f criteria) (s : Session σ) :
    (e.runFetch nested path p rows f).on s =
      (nested (path ++ [f.target]) f.target { criteria, context := p.request.context } f.maxSize >>=
        fun fetched => liftM (e.injectRows p.name f (fetchBindings p rows) fetched rows)).on s := by
  have hwanted := h.wanted
  have hasked := h.asked
  rw [fetchBindings] at hwanted hasked
  unfold runFetch
  simp only [h.eager, Bool.not_true, Bool.false_eq_true, if_false]
  rw [hwanted, Run.on_bind_lift_ok]
  simp only [Bool.not_true, Bool.false_eq_true, if_false]
  rw [hasked, Run.on_bind_lift_ok]
  simp only [h.acyclic, Bool.false_eq_true, if_false]
  rfl

theorem Ran.on_runFetch {x : Execution} (h : e.Ran nested path p s x t after) :
    (e.runFetch nested path p x.parents x.fetch).on s = (.ok after, t) := by
  rw [on_runFetch_of_asks h.asks, Run.on_bind_ok h.brought, h.injected, Run.on_lift]

theorem on_runFetch_unasked (h : ∀ criteria, ¬e.Asks path p rows f criteria) (s : Session σ) :
    (e.runFetch nested path p rows f).on s = (e.unasked path p rows f, s) := by
  unfold runFetch unasked
  by_cases heager : f.eager = true
  · simp only [heager, Bool.not_true, Bool.false_eq_true, if_false, fetchBindings]
    cases hwanted : e.wanted p.name f { p.request.bindings with rows := some rows } with
    | error error => exact Run.on_bind_lift_error _ _ _
    | ok wanted =>
      rw [Run.on_bind_lift_ok]
      cases wanted with
      | false => rfl
      | true =>
        simp only [Bool.not_true, Bool.false_eq_true, if_false]
        cases hasked : f.criteria p.name (fun script => e.evaluate p.name script
            { p.request.bindings with rows := some rows }) p.request.criteria rows with
        | error error => exact Run.on_bind_lift_error _ _ _
        | ok criteria =>
          rw [Run.on_bind_lift_ok]
          by_cases hpath : path.contains f.target = true
          · simp only [hpath, if_true]
            rfl
          · exact absurd ⟨heager, hwanted, hasked, by simpa using hpath⟩ (h criteria)
  · simp only [heager]
    rfl

theorem on_runFetch_of_skips (h : e.Skips p rows f) (s : Session σ) :
    (e.runFetch nested path p rows f).on s = (.ok rows, s) := by
  unfold runFetch
  rcases h with hlazy | hunwanted
  · simp only [hlazy]
    rfl
  · rw [fetchBindings] at hunwanted
    by_cases heager : f.eager = true
    · simp only [heager, Bool.not_true, Bool.false_eq_true, if_false]
      rw [hunwanted, Run.on_bind_lift_ok]
      rfl
    · simp only [heager]
      rfl

theorem Filled.completes {log : List Execution} (h : Filled e nested path p s rows log t after)
    (hrows : rows ≠ []) : Completes e nested path p p.query.fetches s rows log t after := by
  cases h with
  | nothing => exact absurd rfl hrows
  | rows _ hcompletes => exact hcompletes

/-! What a selection does with its rows. -/

theorem run_of_reads {note : Note} (h : c.Reads e p note t) : c.run e =
    (liftM (note.answer.mapError (QueryError.execution c.name)) >>= fun rows =>
      liftM (e.capped c.name (c.cap e p) rows) >>= fun found =>
        e.complete (e.nestedOf c.depth) c.path p found).on t := by
  obtain ⟨u, hp, hfinal, hselect, ht⟩ := h
  have hread := on_selectRows hselect c.name
  rw [← ht] at hread
  rw [Selection.run, Selection.operation, selectBy, Run.on_bind_ok hp, hfinal, Run.on_bind_lift_ok]
  cases hanswer : note.answer with
  | error text =>
    rw [hanswer] at hread
    exact Run.on_bind_error hread
  | ok rows =>
    rw [hanswer] at hread
    exact Run.on_bind_ok hread

theorem run_of_reads_ok {call : BoundStatement} (h : c.Reads e p ⟨call, .ok rows⟩ t) : c.run e =
    (liftM (e.capped c.name (c.cap e p) rows) >>= fun found =>
      e.complete (e.nestedOf c.depth) c.path p found).on t := run_of_reads h

/-- A selection that does not come to the storage fails. -/
theorem run_of_not_reads (h : ∀ p note t, ¬c.Reads e p note t) :
    (c.run e).2.storage = c.start.storage ∧ ∃ error, (c.run e).1 = .error error := by
  rw [Selection.run, Selection.operation, selectBy]
  rcases hp : (e.prepare c.name c.request).on c.start with ⟨error | p, u⟩
  · have hu : u.storage = c.start.storage := (congrArg (fun r => r.2.storage) hp).symm
    rw [Run.on_bind_error hp]
    exact ⟨hu, error, rfl⟩
  · have hu : u.storage = c.start.storage := (congrArg (fun r => r.2.storage) hp).symm
    rw [Run.on_bind_ok hp]
    cases hfinal : p.final with
    | error error =>
      rw [Run.on_bind_lift_error]
      exact ⟨hu, error, rfl⟩
    | ok final =>
      rcases hselect : e.executor.select final.statement (expectedFor (c.cap e p))
        (e.settings.timeoutOf p.query) final.args u.storage with ⟨answer, storage⟩
      exact absurd ⟨u, hp, hfinal, hselect, rfl⟩ (h p ⟨final, answer⟩ ⟨u.store, storage⟩)

/-- Rows that were found are completed by the fetches of the query, one after the other. -/
theorem on_complete {found : List Row} (h : found ≠ []) (s : Session σ) :
    (e.complete nested path p found).on s =
      (p.query.fetches.foldlM (e.runFetch nested path p) found >>= fun rows =>
        liftM (e.handleHints p rows)).on s := by
  cases found with
  | nil => exact absurd rfl h
  | cons row rest => rfl

/-- What is left to do of a selection decides what it does. -/
theorem Progress.run_eq {later : List Fetch} (h : e.Progress c p later t rows) : c.run e =
    (later.foldlM (e.runFetch (e.nestedOf c.depth) c.path p) rows >>= fun rows =>
      liftM (e.handleHints p rows)).on t := by
  induction h with
  | start hreads hcapped hfound =>
    rw [run_of_reads_ok hreads, hcapped, Run.on_bind_lift_ok]
    exact on_complete hfound _
  | next _ hfetch ih =>
    rw [ih, List.foldlM_cons, bind_assoc]
    exact Run.on_bind_ok hfetch

theorem nestedOf_eq_operation {depth : Nat} (hdepth : c.depth = depth + 1) (p : Prepared)
    (f : Fetch) (criteria : Json) (start : Session σ) :
    e.nestedOf c.depth (c.path ++ [f.target]) f.target { criteria, context := p.request.context }
      f.maxSize = (c.nested depth p f criteria start).operation e := by
  rw [hdepth, nestedOf, selectWithin_succ]
  rfl

theorem Leads.depth (h : e.Leads c c') : c.depth = c'.depth + 1 := by
  obtain ⟨hdepth, -, -⟩ := h
  exact hdepth

/-- A selection goes on with the rows of those that it leads to. -/
theorem Leads.goes_on (h : e.Leads c c') :
    ∃ rest, c.run e = (c'.operation e >>= rest).on c'.start := by
  obtain ⟨hdepth, hprogress, hasks⟩ := h
  rw [hprogress.run_eq, List.foldlM_cons, bind_assoc,
    Run.on_bind_congr (on_runFetch_of_asks hasks _), nestedOf_eq_operation hdepth, bind_assoc]
  exact ⟨_, rfl⟩

theorem Leads.error (h : e.Leads c c') {error : QueryError} (herror : (c'.run e).1 = .error error) :
    (c.run e).1 = .error error := by
  obtain ⟨rest, hrest⟩ := h.goes_on
  rcases hrun : (c'.operation e).on c'.start with ⟨answer, t⟩
  obtain rfl : answer = .error error := (congrArg Prod.fst hrun).symm.trans herror
  rw [hrest, Run.on_bind_error hrun]

theorem Reaches.error (h : e.Reaches c c') {error : QueryError}
    (herror : (c'.run e).1 = .error error) : (c.run e).1 = .error error := by
  induction h with
  | refl => exact herror
  | tail _ hleads ih => exact ih (hleads.error herror)

/-- Whatever is reached from a selection that succeeds has succeeded. -/
theorem Reaches.succeeds (h : e.Reaches c c') {rows : List Row} (hrows : (c.run e).1 = .ok rows) :
    ∃ rows', (c'.run e).1 = .ok rows' := by
  rcases hrun : (c'.run e).1 with error | rows'
  · rw [h.error hrun] at hrows
    cases hrows
  · exact ⟨rows', rfl⟩

theorem run_root (e : Engine σ) (s : Session σ) (name : String) (request : Request) :
    (Selection.root s name request).run e = (e.select name request).on s :=
  (on_select e name request s).symm

/-- A selection calls the storage in one way only. -/
theorem reads_unique {p' : Prepared} {note note' : Note} {t' : Session σ}
    (h : c.Reads e p note t) (h' : c.Reads e p' note' t') : p = p' ∧ note = note' ∧ t = t' := by
  obtain ⟨u, hp, hfinal, hselect, ht⟩ := h
  obtain ⟨u', hp', hfinal', hselect', ht'⟩ := h'
  obtain ⟨hprepared, rfl⟩ := Prod.mk.inj (hp.symm.trans hp')
  obtain rfl := Except.ok.inj hprepared
  have hcall : note.call = note'.call := Except.ok.inj (hfinal.symm.trans hfinal')
  rw [← hcall] at hselect'
  obtain ⟨hanswer, hstorage⟩ := Prod.mk.inj (hselect.symm.trans hselect')
  refine ⟨rfl, ?_, ?_⟩
  · cases note
    cases note'
    cases hcall
    cases hanswer
    rfl
  · rw [ht, ht', hstorage]

/-! Who calls the storage. -/

/-- What is noted from one session to another are calls of selections that are reached. -/
def NotedBy (e : Engine σ) (c : Selection (σ × List Note)) (s t : Session (σ × List Note)) : Prop :=
  ∃ new, notes t = notes s ++ new ∧
    ∀ note ∈ new, ∃ c' p u, e.noted.Reaches c c' ∧ c'.Reads e.noted p note u

namespace NotedBy

variable {σ : Type} {e : Engine σ} {c c' : Selection (σ × List Note)} {p : Prepared}
  {s t u : Session (σ × List Note)}

theorem of_eq (h : t.storage = s.storage) : NotedBy e c s t := by
  refine ⟨[], ?_, by simp⟩
  rw [List.append_nil, notes, notes, h]

theorem refl (s : Session (σ × List Note)) : NotedBy e c s s := of_eq rfl

theorem trans (h : NotedBy e c s t) (h' : NotedBy e c t u) : NotedBy e c s u := by
  obtain ⟨first, hfirst, hby⟩ := h
  obtain ⟨last, hlast, hby'⟩ := h'
  refine ⟨first ++ last, ?_, List.forall_mem_append.mpr ⟨hby, hby'⟩⟩
  rw [hlast, hfirst, List.append_assoc]

theorem of_leads (hleads : e.noted.Leads c c') (h : NotedBy e c' s t) : NotedBy e c s t := by
  obtain ⟨new, hnew, hby⟩ := h
  refine ⟨new, hnew, fun note hnote => ?_⟩
  obtain ⟨c'', p, u, hreaches, hreads⟩ := hby note hnote
  exact ⟨c'', p, u, hreaches.head hleads, hreads⟩

theorem of_reads {note : Note} (h : c.Reads e.noted p note t) : NotedBy e c c.start t := by
  obtain ⟨call, answer⟩ := note
  obtain ⟨u, hp, hfinal, hselect, ht⟩ := h
  refine ⟨[⟨call, answer⟩], ?_, ?_⟩
  · have hu : notes u = notes c.start := (congrArg (fun r => notes r.2) hp).symm
    have hanswer : (e.executor.select call.statement (expectedFor (c.cap e.noted p))
      (e.settings.timeoutOf p.query) call.args u.storage.1).1 = answer := congrArg Prod.fst hselect
    have hnotes : notes t = notes u ++ [⟨call, (e.executor.select call.statement
      (expectedFor (c.cap e.noted p)) (e.settings.timeoutOf p.query) call.args u.storage.1).1⟩] :=
        (congrArg (fun r => r.2.2) hselect).symm
    rw [hnotes, hanswer, hu]
  · intro other hother
    rw [List.mem_singleton.mp hother]
    exact ⟨c, p, t, .refl, u, hp, hfinal, hselect, ht⟩

end NotedBy

section Notes

variable {σ : Type} {e : Engine σ} {c c' : Selection (σ × List Note)} {p : Prepared}
  {rows : List Row} {call : BoundStatement} {t : Session (σ × List Note)}

/-- Storage is called by what a fetch asks for, if it is called at all. -/
theorem notedBy_runFetch {f : Fetch} {later : List Fetch} {s : Session (σ × List Note)}
    (hprogress : e.noted.Progress c p (f :: later) s rows)
    (hn : ∀ c', e.noted.Leads c c' → NotedBy e c' c'.start (c'.run e.noted).2) :
    NotedBy e c s ((e.noted.runFetch (e.noted.nestedOf c.depth) c.path p rows f).on s).2 := by
  by_cases hasks : ∃ criteria, e.noted.Asks c.path p rows f criteria
  · obtain ⟨criteria, hasks⟩ := hasks
    rw [on_runFetch_of_asks hasks]
    cases hdepth : c.depth with
    | zero => exact NotedBy.refl s
    | succ depth =>
      have hleads : e.noted.Leads c (c.nested depth p f criteria s) := .fetch hdepth hprogress hasks
      have hnested := nestedOf_eq_operation (e := e.noted) hdepth p f criteria s
      rw [hdepth] at hnested
      rw [hnested]
      -- the rows that come back are injected without a call
      refine Run.holds_bind (I := NotedBy e c s) ?_ fun fetched => Run.keeps_lift _
      exact (hn _ hleads).of_leads hleads
  · rw [on_runFetch_unasked (fun criteria h => hasks ⟨criteria, h⟩)]
    exact NotedBy.refl s

theorem notedBy_foldlM (hn : ∀ c', e.noted.Leads c c' → NotedBy e c' c'.start (c'.run e.noted).2)
    (later : List Fetch) : ∀ s rows, e.noted.Progress c p later s rows → NotedBy e c s
      ((later.foldlM (e.noted.runFetch (e.noted.nestedOf c.depth) c.path p) rows).on s).2 := by
  induction later with
  | nil => exact fun s rows _ => NotedBy.refl s
  | cons f later ih =>
    intro s rows hprogress
    have hfirst := notedBy_runFetch hprogress hn
    rw [List.foldlM_cons]
    rcases hfetch : (e.noted.runFetch (e.noted.nestedOf c.depth) c.path p rows f).on s with
      ⟨error | after, u⟩
    · rw [hfetch] at hfirst
      rw [Run.on_bind_error hfetch]
      exact hfirst
    · rw [hfetch] at hfirst
      rw [Run.on_bind_ok hfetch]
      exact hfirst.trans (ih u after (hprogress.next hfetch))

theorem notedBy_read (hn : ∀ c', e.noted.Leads c c' → NotedBy e c' c'.start (c'.run e.noted).2)
    (hreads : c.Reads e.noted p ⟨call, .ok rows⟩ t) :
    NotedBy e c t (c.run e.noted).2 := by
  rw [run_of_reads_ok hreads]
  cases hcapped : e.noted.capped c.name (c.cap e.noted p) rows with
  | error error =>
    rw [Run.on_bind_lift_error]
    exact NotedBy.refl t
  | ok found =>
    rw [Run.on_bind_lift_ok]
    by_cases hfound : found = []
    · subst hfound
      exact Run.holds_bind (I := NotedBy e c t) (NotedBy.refl t) fun rows => Run.keeps_lift _
    · rw [on_complete hfound]
      refine Run.holds_bind (I := NotedBy e c t) ?_ fun rows => Run.keeps_lift _
      exact notedBy_foldlM hn _ t found (.start hreads hcapped hfound)

/-- A selection calls the storage once, and then what it leads to does. -/
theorem notedBy_step
    (hn : ∀ c', e.noted.Leads c c' → NotedBy e c' c'.start (c'.run e.noted).2) :
    NotedBy e c c.start (c.run e.noted).2 := by
  by_cases hreads : ∃ p note t, c.Reads e.noted p note t
  · obtain ⟨p, ⟨call, answer⟩, t, hreads⟩ := hreads
    refine (NotedBy.of_reads hreads).trans ?_
    cases answer with
    | error text =>
      rw [run_of_reads hreads]
      exact NotedBy.refl t
    | ok rows => exact notedBy_read hn hreads
  · refine NotedBy.of_eq (run_of_not_reads fun p note t h => hreads ⟨p, note, t, h⟩).1

/-- All calls for rows that a selection causes are those of the selections that it reaches. -/
theorem notedBy_run (depth : Nat) : ∀ c : Selection (σ × List Note), c.depth = depth →
    NotedBy e c c.start (c.run e.noted).2 := by
  induction depth with
  | zero =>
    intro c hdepth
    refine notedBy_step fun c' hleads => ?_
    rw [hleads.depth] at hdepth
    cases hdepth
  | succ depth ih =>
    intro c hdepth
    refine notedBy_step fun c' hleads => ih c' ?_
    rw [hleads.depth] at hdepth
    exact Nat.succ.inj hdepth

end Notes

end Engine

end QueryCatalog
