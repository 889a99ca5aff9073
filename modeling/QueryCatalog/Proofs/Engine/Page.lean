import QueryCatalog.Proofs.Engine.Reachable

/-!
What a window of a query's rows is made of: the rows that the storage gives for it, less the one
that only shows whether more follow, completed by fetches and hints.
-/
namespace QueryCatalog.Engine

variable {σ : Type} {e : Engine σ}

/-- The statement for the window of a request, which asks for one row more than the window holds. -/
def windowStatement (e : Engine σ) (p : Prepared) (final : BoundStatement) : String :=
  e.dialect.limit final.statement (p.request.offset.getD 0)
    (e.settings.limitOf p.query p.request.limit + 1) p.query.hints

/-- A window of a prepared query, given the rows that were found for it. -/
structure Windowed (e : Engine σ) (name : String) (depth : Nat) (p : Prepared)
    (found : List Row) (w : Window) : Prop where
  offset : w.offset = p.request.offset.getD 0
  limit : w.limit = e.settings.limitOf p.query p.request.limit
  hasNext : w.hasNext = decide (w.limit < found.length)
  rows : ∃ s t, (e.complete (e.nestedOf depth) [name] p (found.take w.limit)).on s = (.ok w.rows, t)

theorem forward_cases {name : String} {request : Request} {s t : Session σ} {w : Window}
    (h : (e.forward name request).on s = (.ok w, t)) :
    ∃ p u final found v, (e.prepare name request).on s = (.ok p, u) ∧ p.final = .ok final ∧
      (e.selectRows p name (e.windowStatement p final)
        (e.settings.limitOf p.query p.request.limit + 1) final.args).on u = (.ok found, v) ∧
      e.Windowed name (s.store.catalog.length + 1) p found w := by
  unfold forward at h
  rw [Run.on_bind_ok (on_depth s)] at h
  obtain ⟨p, u, hp, hprepared⟩ := Run.on_bind_eq_ok h
  obtain ⟨final, u', hlift, hbound⟩ := Run.on_bind_eq_ok hprepared
  obtain ⟨hfinal, rfl⟩ := Run.on_lift_eq_ok hlift
  obtain ⟨found, v, hfound, hread⟩ := Run.on_bind_eq_ok hbound
  obtain ⟨rows, v', hrows, hwindow⟩ := Run.on_bind_eq_ok hread
  rw [Run.on_pure] at hwindow
  cases hwindow
  exact ⟨p, u', final, found, v, hp, hfinal, hfound, rfl, rfl, rfl, v, t, hrows⟩

theorem limitOf_pos (settings : Settings) (q : Query) (requested : Option Nat) :
    0 < settings.limitOf q requested := by
  unfold Settings.limitOf
  simp only [Nat.lt_min]
  omega

end QueryCatalog.Engine
