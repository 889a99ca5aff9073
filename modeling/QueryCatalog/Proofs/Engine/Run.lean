import QueryCatalog.Engine.Page

/-!
Operations of the engine as runs over sessions. What each elementary step keeps of a session, every
operation keeps: preparation, the calls of the storage, and fetches of any depth.
-/
namespace QueryCatalog

namespace Run

variable {σ α β : Type}

/-- The answer of an operation and the session it leaves behind. -/
def on (m : Run σ α) (s : Session σ) : Except QueryError α × Session σ := m.run.run s

theorem on_pure (a : α) (s : Session σ) : (pure a : Run σ α).on s = (.ok a, s) := rfl

theorem on_lift (x : Except QueryError α) (s : Session σ) :
    (liftM x : Run σ α).on s = (x, s) := by
  cases x <;> rfl

theorem on_bind_ok {m : Run σ α} {f : α → Run σ β} {s t : Session σ} {a : α}
    (h : m.on s = (.ok a, t)) : (m >>= f).on s = (f a).on t := by
  have hm : m s = (.ok a, t) := h
  simp only [on, bind, ExceptT.bind, ExceptT.mk, ExceptT.run, StateT.bind, StateT.run, hm,
    ExceptT.bindCont]

theorem on_bind_error {m : Run σ α} {f : α → Run σ β} {s t : Session σ} {e : QueryError}
    (h : m.on s = (.error e, t)) : (m >>= f).on s = (.error e, t) := by
  have hm : m s = (.error e, t) := h
  simp only [on, bind, ExceptT.bind, ExceptT.mk, ExceptT.run, StateT.bind, StateT.run, hm,
    ExceptT.bindCont]
  rfl

theorem on_bind_congr {m m' : Run σ α} {s : Session σ} (h : m.on s = m'.on s) (f : α → Run σ β) :
    (m >>= f).on s = (m' >>= f).on s := by
  rcases hm : m.on s with ⟨error | a, t⟩
  · rw [on_bind_error hm, on_bind_error (h.symm.trans hm)]
  · rw [on_bind_ok hm, on_bind_ok (h.symm.trans hm)]

/-- An operation of two parts gives an answer only where both of them do. -/
theorem on_bind_eq_ok {m : Run σ α} {f : α → Run σ β} {s t : Session σ} {b : β}
    (h : (m >>= f).on s = (.ok b, t)) :
    ∃ a u, m.on s = (.ok a, u) ∧ (f a).on u = (.ok b, t) := by
  rcases hm : m.on s with ⟨e | a, u⟩
  · rw [on_bind_error hm] at h
    cases h
  · rw [on_bind_ok hm] at h
    exact ⟨a, u, rfl, h⟩

theorem on_lift_eq_ok {x : Except QueryError α} {s t : Session σ} {a : α}
    (h : (liftM x : Run σ α).on s = (.ok a, t)) : x = .ok a ∧ t = s := by
  rw [on_lift] at h
  exact ⟨congrArg Prod.fst h, (congrArg Prod.snd h).symm⟩

theorem on_bind_lift_ok (a : α) (f : α → Run σ β) (s : Session σ) :
    ((liftM (Except.ok a : Except QueryError α) : Run σ α) >>= f).on s = (f a).on s :=
  on_bind_ok (on_lift _ s)

theorem on_bind_lift_error (e : QueryError) (f : α → Run σ β) (s : Session σ) :
    ((liftM (Except.error e : Except QueryError α) : Run σ α) >>= f).on s = (.error e, s) :=
  on_bind_error (on_lift _ s)

/-- The operation leads from sessions with the property to sessions with it. -/
def Keeps (I : Session σ → Prop) (m : Run σ α) : Prop := ∀ s, I s → I (m.on s).2

variable {I : Session σ → Prop}

theorem keeps_pure (a : α) : Keeps I (pure a : Run σ α) := fun _ hs => hs

theorem keeps_throw (e : QueryError) : Keeps I (throw e : Run σ α) := fun _ hs => hs

theorem keeps_lift (x : Except QueryError α) : Keeps I (liftM x : Run σ α) := by
  intro s hs
  rw [on_lift]
  exact hs

theorem holds_bind {m : Run σ α} {f : α → Run σ β} {s : Session σ} (hm : I (m.on s).2)
    (hf : ∀ a, Keeps I (f a)) : I ((m >>= f).on s).2 := by
  rcases h : m.on s with ⟨e | a, t⟩
  · rw [h] at hm
    rw [on_bind_error h]
    exact hm
  · rw [h] at hm
    rw [on_bind_ok h]
    exact hf a t hm

theorem keeps_bind {m : Run σ α} {f : α → Run σ β} (hm : Keeps I m)
    (hf : ∀ a, Keeps I (f a)) : Keeps I (m >>= f) := fun s hs => holds_bind (hm s hs) hf

end Run

namespace Engine

open Run (Keeps keeps_pure keeps_throw keeps_lift keeps_bind)

variable {σ : Type}

theorem on_depth (s : Session σ) :
    (depth : Run σ Nat).on s = (.ok (s.store.catalog.length + 1), s) := rfl

/-! What a call of the storage hands over to the engine. -/

theorem on_selectRows {e : Engine σ} {p : Prepared} {statement : String} {expected : Nat}
    {args : List Json} {s : Session σ} {answer : Except String (List Row)} {storage : σ}
    (h : e.executor.select statement expected (e.settings.timeoutOf p.query) args s.storage =
      (answer, storage)) (name : String) :
    (e.selectRows p name statement expected args).on s =
      (answer.mapError (.execution name), { s with storage }) :=
  congrArg (fun r => (r.1.mapError (QueryError.execution name), { s with storage := r.2 })) h

theorem on_getRow {e : Engine σ} {p : Prepared} {statement : String} {args : List Json}
    {s : Session σ} {answer : Except String (Option Row)} {storage : σ}
    (h : e.executor.get statement (e.settings.timeoutOf p.query) args s.storage =
      (answer, storage)) (name : String) :
    (e.getRow p name statement args).on s =
      (answer.mapError (.execution name), { s with storage }) :=
  congrArg (fun r => (r.1.mapError (QueryError.execution name), { s with storage := r.2 })) h

/-- Rows that are read are those that the storage gave. -/
theorem selectRows_eq_ok {e : Engine σ} {p : Prepared} {name statement : String} {expected : Nat}
    {args : List Json} {s t : Session σ} {rows : List Row}
    (h : (e.selectRows p name statement expected args).on s = (.ok rows, t)) :
    (e.executor.select statement expected (e.settings.timeoutOf p.query) args s.storage).1 =
      .ok rows := by
  have hanswer : ((e.executor.select statement expected (e.settings.timeoutOf p.query) args
      s.storage).1.mapError (QueryError.execution name)) = .ok rows := congrArg Prod.fst h
  cases hx : (e.executor.select statement expected (e.settings.timeoutOf p.query) args
      s.storage).1 with
  | error text => rw [hx] at hanswer; cases hanswer
  | ok found =>
    rw [hx] at hanswer
    rw [Except.ok.inj hanswer]

/-- A property of operations that the parts have of which the engine is made, and that two of them
have one after the other if each of them has it. -/
structure Carried (e : Engine σ) (P : ∀ α : Type, Run σ α → Prop) : Prop where
  pure : ∀ {α : Type} (a : α), P α (pure a)
  bind : ∀ {α β : Type} {m : Run σ α} {f : α → Run σ β}, P α m → (∀ a, P β (f a)) → P β (m >>= f)
  depth : P Nat depth
  prepare : ∀ name request, P Prepared (e.prepare name request)
  final : ∀ p : Prepared, P BoundStatement (liftM p.final)
  getRow : ∀ p name statement args, P (Option Row) (e.getRow p name statement args)
  selectRows : ∀ p name statement expected args,
    P (List Row) (e.selectRows p name statement expected args)
  missing : ∀ name, P (List Row) (throw (.notFound name))
  capped : ∀ name maximum rows, P (List Row) (liftM (e.capped name maximum rows))
  wanted : ∀ owner f bindings, P Bool (liftM (e.wanted owner f bindings))
  criteria : ∀ (f : Fetch) owner bindings criteria rows, P Json
    (liftM (f.criteria owner (fun script => e.evaluate owner script bindings) criteria rows))
  cycle : ∀ path, P PUnit (throw (.fetchCycle path))
  inject : ∀ owner f bindings fetched rows,
    P (List Row) (liftM (e.injectRows owner f bindings fetched rows))
  hints : ∀ p rows, P (List Row) (liftM (e.handleHints p rows))

namespace Carried

variable {e : Engine σ} {P : ∀ α : Type, Run σ α → Prop}

theorem foldlM (h : e.Carried P) {α β : Type} {f : β → α → Run σ β} (hf : ∀ b a, P β (f b a))
    (items : List α) : ∀ b, P β (items.foldlM f b) := by
  induction items with
  | nil => exact fun b => h.pure b
  | cons a rest ih =>
    intro b
    rw [List.foldlM_cons]
    exact h.bind (hf b a) ih

theorem runFetch (h : e.Carried P) {nested : Nested σ}
    (hn : ∀ path name request size, P (List Row) (nested path name request size))
    (path : List String) (p : Prepared) (rows : List Row) (f : Fetch) :
    P (List Row) (e.runFetch nested path p rows f) := by
  unfold Engine.runFetch
  by_cases heager : f.eager = true
  · simp only [heager, Bool.not_true, Bool.false_eq_true, if_false]
    refine h.bind (h.wanted _ _ _) fun wanted => ?_
    by_cases hwanted : wanted = true
    · simp only [hwanted, Bool.not_true, Bool.false_eq_true, if_false]
      refine h.bind (h.criteria _ _ _ _ _) fun criteria => ?_
      by_cases hpath : path.contains f.target = true
      · simp only [hpath, if_true]
        refine h.bind (h.cycle _) fun _ => ?_
        exact h.bind (hn _ _ _ _) fun fetched => h.inject _ _ _ _ _
      · simp only [hpath]
        exact h.bind (hn _ _ _ _) fun fetched => h.inject _ _ _ _ _
    · simp only [hwanted]
      exact h.pure rows
  · simp only [heager]
    exact h.pure rows

theorem complete (h : e.Carried P) {nested : Nested σ}
    (hn : ∀ path name request size, P (List Row) (nested path name request size))
    (path : List String) (p : Prepared) (rows : List Row) :
    P (List Row) (e.complete nested path p rows) := by
  unfold Engine.complete Engine.runFetches
  refine h.bind ?_ fun rows => h.hints p rows
  by_cases hrows : rows.isEmpty = true
  · simp only [hrows, if_true]
    exact h.pure rows
  · simp only [hrows]
    exact h.foldlM (fun rows f => h.runFetch hn path p rows f) _ rows

theorem selectWithin (h : e.Carried P) (depth : Nat) : ∀ path name request maximum,
    P (List Row) (e.selectWithin depth path name request maximum) := by
  induction depth with
  | zero => exact fun _ name _ _ => h.missing name
  | succ depth ih =>
    intro path name request maximum
    refine h.bind (h.prepare _ _) fun p => h.bind (h.final p) fun final => ?_
    refine h.bind (h.selectRows _ _ _ _ _) fun rows => h.bind (h.capped _ _ _) fun rows => ?_
    exact h.complete (fun path name request size => ih path name request (some size)) path p rows

theorem nestedOf (h : e.Carried P) (depth : Nat) (path : List String) (name : String)
    (request : Request) (size : Nat) : P (List Row) (e.nestedOf depth path name request size) :=
  h.selectWithin depth path name request (some size)

theorem select (h : e.Carried P) (name : String) (request : Request) :
    P (List Row) (e.select name request) :=
  h.bind h.depth fun _ => h.selectWithin _ _ _ _ _

theorem get (h : e.Carried P) (name : String) (request : Request) :
    P (Option Row) (e.get name request) := by
  refine h.bind h.depth fun d => h.bind (h.prepare _ _) fun p => ?_
  refine h.bind (h.final p) fun final => h.bind (h.getRow _ _ _ _) fun row => ?_
  cases row with
  | none => exact h.pure none
  | some row => exact h.bind (h.complete (h.nestedOf d) _ p _) fun rows => h.pure rows.head?

theorem total (h : e.Carried P) (p : Prepared) (name : String) (final : BoundStatement)
    (offset limit size : Nat) : P Nat (e.total p name final offset limit size) := by
  unfold Engine.total
  by_cases hsize : size < limit
  · simp only [hsize, if_true]
    exact h.pure _
  · simp only [hsize, if_false]
    exact h.bind (h.getRow _ _ _ _) fun row => h.pure _

theorem page (h : e.Carried P) (name : String) (request : Request) :
    P Page (e.page name request) := by
  refine h.bind h.depth fun d => h.bind (h.prepare _ _) fun p => ?_
  refine h.bind (h.final p) fun final => h.bind (h.selectRows _ _ _ _ _) fun rows => ?_
  refine h.bind (h.total _ _ _ _ _ _) fun total => ?_
  exact h.bind (h.complete (h.nestedOf d) _ p _) fun rows => h.pure _

theorem forward (h : e.Carried P) (name : String) (request : Request) :
    P Window (e.forward name request) := by
  refine h.bind h.depth fun d => h.bind (h.prepare _ _) fun p => ?_
  refine h.bind (h.final p) fun final => h.bind (h.selectRows _ _ _ _ _) fun rows => ?_
  exact h.bind (h.complete (h.nestedOf d) _ p _) fun rows => h.pure _

end Carried

/-- A property of sessions that preparation and the calls of the storage keep. -/
structure Kept (e : Engine σ) (I : Session σ → Prop) : Prop where
  prepare : ∀ name request, Keeps I (e.prepare name request)
  getRow : ∀ p name statement args, Keeps I (e.getRow p name statement args)
  selectRows : ∀ p name statement expected args,
    Keeps I (e.selectRows p name statement expected args)

namespace Kept

variable {e : Engine σ} {I : Session σ → Prop}

/-- The other parts leave the session alone. -/
theorem carried (h : e.Kept I) : e.Carried fun _ m => Keeps I m where
  pure := keeps_pure
  bind := keeps_bind
  depth := fun _ hs => hs
  prepare := h.prepare
  final := fun p => keeps_lift p.final
  getRow := h.getRow
  selectRows := h.selectRows
  missing := fun _ => keeps_throw _
  capped := fun _ _ _ => keeps_lift _
  wanted := fun _ _ _ => keeps_lift _
  criteria := fun _ _ _ _ _ => keeps_lift _
  cycle := fun _ => keeps_throw _
  inject := fun _ _ _ _ _ => keeps_lift _
  hints := fun _ _ => keeps_lift _

theorem select (h : e.Kept I) (name : String) (request : Request) :
    Keeps I (e.select name request) := h.carried.select name request

theorem get (h : e.Kept I) (name : String) (request : Request) : Keeps I (e.get name request) :=
  h.carried.get name request

theorem page (h : e.Kept I) (name : String) (request : Request) : Keeps I (e.page name request) :=
  h.carried.page name request

theorem forward (h : e.Kept I) (name : String) (request : Request) :
    Keeps I (e.forward name request) := h.carried.forward name request

end Kept

end Engine

end QueryCatalog
