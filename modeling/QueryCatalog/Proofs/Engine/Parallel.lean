import QueryCatalog.Proofs.Engine.Recording
import QueryCatalog.Proofs.Engine.Visits

/-!
Two runs side by side, over executors whose states correspond. As long as the calls of one run are
answered alike by both executors, the other run makes the same calls, and both come to the same
answer.
-/
namespace QueryCatalog

variable {σ τ α β : Type}

/-- The executors answer a call alike in states that correspond, and their states go on to
correspond. -/
structure Executor.Alike (x : Executor σ) (z : Executor τ) (R : σ → τ → Prop) (c : BoundStatement) :
    Prop where
  get : ∀ timeout a b, R a b →
    (x.get c.statement timeout c.args a).1 = (z.get c.statement timeout c.args b).1 ∧
      R (x.get c.statement timeout c.args a).2 (z.get c.statement timeout c.args b).2
  select : ∀ expected timeout a b, R a b →
    (x.select c.statement expected timeout c.args a).1 =
        (z.select c.statement expected timeout c.args b).1 ∧
      R (x.select c.statement expected timeout c.args a).2
        (z.select c.statement expected timeout c.args b).2

namespace Engine

/-- The same engine over another storage. -/
def withExecutor (e : Engine σ) (z : Executor τ) : Engine τ :=
  { executor := z
    dialect := e.dialect
    workshop := e.workshop
    handlers := e.handlers
    settings := e.settings }

/-- The same answer, with the same plans and corresponding storage left behind. -/
structure SameOutcome (R : σ → τ → Prop) (a : Except QueryError α × Session σ)
    (b : Except QueryError α × Session τ) : Prop where
  answer : a.1 = b.1
  store : a.2.store = b.2.store
  storage : R a.2.storage b.2.storage

/-- The first run, whose calls are recorded, and the second one come to the same outcome if the
calls that are recorded meanwhile are answered alike. -/
structure InStep (x : Executor σ) (z : Executor τ) (R : σ × List BoundStatement → τ → Prop)
    (m : Run (σ × List BoundStatement) α) (m' : Run τ α) : Prop where
  grows : ∀ s, calls s <+: calls (m.on s).2
  agree : ∀ s t new, s.store = t.store → R s.storage t.storage →
    calls (m.on s).2 = calls s ++ new → (∀ c ∈ new, x.recorded.Alike z R c) →
      SameOutcome R (m.on s) (m'.on t)

variable {x : Executor σ} {z : Executor τ} {R : σ × List BoundStatement → τ → Prop}

theorem inStep_lift (a : Except QueryError α) :
    InStep x z R (liftM a : Run (σ × List BoundStatement) α) (liftM a) := by
  constructor
  · intro s
    cases a with
    | error error => exact List.prefix_rfl
    | ok a => exact List.prefix_rfl
  · intro s t new hstore hstorage _ _
    rw [Run.on_lift, Run.on_lift]
    exact ⟨rfl, hstore, hstorage⟩

theorem inStep_pure (a : α) : InStep x z R (pure a : Run (σ × List BoundStatement) α) (pure a) :=
  inStep_lift (.ok a)

theorem inStep_throw (error : QueryError) :
    InStep x z R (throw error : Run (σ × List BoundStatement) α) (throw error) :=
  inStep_lift (.error error)

theorem inStep_bind {m : Run (σ × List BoundStatement) α} {m' : Run τ α}
    {f : α → Run (σ × List BoundStatement) β} {f' : α → Run τ β} (hm : InStep x z R m m')
    (hf : ∀ a, InStep x z R (f a) (f' a)) : InStep x z R (m >>= f) (m' >>= f') := by
  constructor
  · intro s
    exact Run.holds_bind (I := fun u => calls s <+: calls u) (hm.grows s)
      fun a u hu => hu.trans ((hf a).grows u)
  · intro s t new hstore hstorage hcalls halike
    rcases hfirst : m.on s with ⟨error | a, u⟩
    · rw [Run.on_bind_error hfirst] at hcalls ⊢
      have hsame := hm.agree s t new hstore hstorage (by rw [hfirst]; exact hcalls) halike
      rcases hsecond : m'.on t with ⟨answer, v⟩
      rw [hfirst, hsecond] at hsame
      obtain rfl : .error error = answer := hsame.answer
      rw [Run.on_bind_error hsecond]
      exact ⟨rfl, hsame.store, hsame.storage⟩
    · rw [Run.on_bind_ok hfirst] at hcalls ⊢
      -- the calls are those of the first part and then those of the second part
      have hgrows := hm.grows s
      rw [hfirst] at hgrows
      obtain ⟨first, hnew⟩ := hgrows
      obtain ⟨later, hlater⟩ := (hf a).grows u
      have hsplit : new = first ++ later := by
        rw [← hlater, ← hnew, List.append_assoc] at hcalls
        exact (List.append_cancel_left hcalls).symm
      rw [hsplit, List.forall_mem_append] at halike
      have hsame := hm.agree s t first hstore hstorage (by rw [hfirst]; exact hnew.symm) halike.1
      rcases hsecond : m'.on t with ⟨answer, v⟩
      rw [hfirst, hsecond] at hsame
      obtain rfl : .ok a = answer := hsame.answer
      rw [Run.on_bind_ok hsecond]
      exact (hf a).agree u v later hsame.store hsame.storage hlater.symm halike.2

theorem inStep_foldlM {f : β → α → Run (σ × List BoundStatement) β} {f' : β → α → Run τ β}
    (hf : ∀ b a, InStep x z R (f b a) (f' b a)) (items : List α) :
    ∀ b, InStep x z R (items.foldlM f b) (items.foldlM f' b) := by
  induction items with
  | nil => exact inStep_pure
  | cons a rest ih =>
    intro b
    rw [List.foldlM_cons, List.foldlM_cons]
    exact inStep_bind (hf b a) ih

variable {ω : Type} {e : Engine ω}

theorem on_prepare (e : Engine σ) (name : String) (request : Request) (s : Session σ) :
    (e.prepare name request).on s = ((s.store.prepare e.workshop name request).1,
      { s with store := (s.store.prepare e.workshop name request).2 }) := rfl

theorem inStep_prepare (name : String) (request : Request) :
    InStep x z R ((e.withExecutor x.recorded).prepare name request)
      ((e.withExecutor z).prepare name request) := by
  constructor
  · intro s
    exact List.prefix_rfl
  · intro s t new hstore hstorage _ _
    rw [on_prepare, on_prepare, hstore]
    exact ⟨rfl, rfl, hstorage⟩

theorem inStep_getRow (p : Prepared) (name statement : String) (args : List Json) :
    InStep x z R ((e.withExecutor x.recorded).getRow p name statement args)
      ((e.withExecutor z).getRow p name statement args) := by
  constructor
  · intro s
    exact List.prefix_append _ _
  · intro s t new hstore hstorage hcalls halike
    obtain rfl : [⟨statement, args⟩] = new := List.append_cancel_left hcalls
    have hsame := (halike _ (List.mem_singleton_self _)).get (e.settings.timeoutOf p.query)
      s.storage t.storage hstorage
    exact ⟨congrArg (Except.mapError (QueryError.execution name)) hsame.1, hstore, hsame.2⟩

theorem inStep_selectRows (p : Prepared) (name statement : String) (expected : Nat)
    (args : List Json) : InStep x z R
      ((e.withExecutor x.recorded).selectRows p name statement expected args)
      ((e.withExecutor z).selectRows p name statement expected args) := by
  constructor
  · intro s
    exact List.prefix_append _ _
  · intro s t new hstore hstorage hcalls halike
    obtain rfl : [⟨statement, args⟩] = new := List.append_cancel_left hcalls
    have hsame := (halike _ (List.mem_singleton_self _)).select expected
      (e.settings.timeoutOf p.query) s.storage t.storage hstorage
    exact ⟨congrArg (Except.mapError (QueryError.execution name)) hsame.1, hstore, hsame.2⟩

theorem inStep_runFetch {nested : Nested (σ × List BoundStatement)} {nested' : Nested τ}
    (hn : ∀ path name request size, InStep x z R (nested path name request size)
      (nested' path name request size)) (path : List String) (p : Prepared) (rows : List Row)
    (f : Fetch) : InStep x z R ((e.withExecutor x.recorded).runFetch nested path p rows f)
      ((e.withExecutor z).runFetch nested' path p rows f) := by
  unfold runFetch
  by_cases heager : f.eager = true
  · simp only [heager, Bool.not_true, Bool.false_eq_true, if_false]
    refine inStep_bind (inStep_lift _) fun wanted => ?_
    by_cases hwanted : wanted = true
    · simp only [hwanted, Bool.not_true, Bool.false_eq_true, if_false]
      refine inStep_bind (inStep_lift _) fun criteria => ?_
      by_cases hpath : path.contains f.target = true
      · simp only [hpath, if_true]
        exact inStep_bind (inStep_throw _) fun _ => inStep_bind (hn _ _ _ _) fun _ => inStep_lift _
      · simp only [hpath]
        exact inStep_bind (hn _ _ _ _) fun _ => inStep_lift _
    · simp only [hwanted]
      exact inStep_pure rows
  · simp only [heager]
    exact inStep_pure rows

theorem inStep_complete {nested : Nested (σ × List BoundStatement)} {nested' : Nested τ}
    (hn : ∀ path name request size, InStep x z R (nested path name request size)
      (nested' path name request size)) (path : List String) (p : Prepared) (rows : List Row) :
    InStep x z R ((e.withExecutor x.recorded).complete nested path p rows)
      ((e.withExecutor z).complete nested' path p rows) := by
  unfold complete runFetches
  refine inStep_bind ?_ fun rows => inStep_lift _
  by_cases hrows : rows.isEmpty = true
  · simp only [hrows, if_true]
    exact inStep_pure rows
  · simp only [hrows]
    exact inStep_foldlM (fun rows f => inStep_runFetch hn path p rows f) _ rows

theorem inStep_selectWithin (depth : Nat) : ∀ path name request maximum, InStep x z R
    ((e.withExecutor x.recorded).selectWithin depth path name request maximum)
    ((e.withExecutor z).selectWithin depth path name request maximum) := by
  induction depth with
  | zero => exact fun _ name _ _ => inStep_throw (.notFound name)
  | succ depth ih =>
    intro path name request maximum
    refine inStep_bind (inStep_prepare _ _) fun p => inStep_bind (inStep_lift _) fun final => ?_
    refine inStep_bind (inStep_selectRows _ _ _ _ _) fun rows => ?_
    refine inStep_bind (inStep_lift _) fun rows => ?_
    exact inStep_complete (fun path name request size => ih path name request (some size)) path p
      rows

theorem inStep_nestedOf (depth : Nat) (path : List String) (name : String) (request : Request)
    (size : Nat) : InStep x z R ((e.withExecutor x.recorded).nestedOf depth path name request size)
      ((e.withExecutor z).nestedOf depth path name request size) :=
  inStep_selectWithin depth path name request (some size)

theorem inStep_total (p : Prepared) (name : String) (final : BoundStatement)
    (offset limit size : Nat) : InStep x z R
      ((e.withExecutor x.recorded).total p name final offset limit size)
      ((e.withExecutor z).total p name final offset limit size) := by
  unfold total
  by_cases hsize : size < limit
  · simp only [hsize, if_true]
    exact inStep_pure _
  · simp only [hsize, if_false]
    exact inStep_bind (inStep_getRow _ _ _ _) fun row => inStep_pure _

end Engine

end QueryCatalog
