import QueryCatalog.Proofs.Engine.Run
import QueryCatalog.Proofs.Plan.Store

/-!
The sessions that an engine can be in. In each of them the plans that are kept are those that would
be made, so what a request is prepared to depends on the catalog only.
-/
namespace QueryCatalog.Engine

open Run (Keeps)

variable {σ : Type} {e : Engine σ} {s : Session σ}

/-- A store without plans comes first. Then the host starts, stops and reloads it, the operations
of the engine run in any order, and the storage may change by itself. -/
inductive Reachable (e : Engine σ) : Session σ → Prop
  | fresh (catalog : Catalog) (running : Bool) (storage : σ) :
    Reachable e ⟨{ catalog, running }, storage⟩
  | started {s : Session σ} : Reachable e s → Reachable e { s with store := s.store.start }
  | stopped {s : Session σ} : Reachable e s → Reachable e { s with store := s.store.stop }
  | reloaded {s : Session σ} (catalog : Catalog) :
    Reachable e s → Reachable e { s with store := s.store.reload catalog }
  | stored {s : Session σ} (storage : σ) : Reachable e s → Reachable e { s with storage }
  | get {s : Session σ} (name : String) (request : Request) :
    Reachable e s → Reachable e ((e.get name request).on s).2
  | select {s : Session σ} (name : String) (request : Request) :
    Reachable e s → Reachable e ((e.select name request).on s).2
  | page {s : Session σ} (name : String) (request : Request) :
    Reachable e s → Reachable e ((e.page name request).on s).2
  | forward {s : Session σ} (name : String) (request : Request) :
    Reachable e s → Reachable e ((e.forward name request).on s).2

/-- A session that serves a catalog. -/
structure Serves (e : Engine σ) (catalog : Catalog) (running : Bool) (s : Session σ) : Prop where
  catalog : s.store.catalog = catalog
  running : s.store.running = running
  faithful : s.store.Faithful e.workshop

/-- No operation changes which catalog is served, or whether it is. -/
theorem kept_serves (e : Engine σ) (catalog : Catalog) (running : Bool) :
    e.Kept (e.Serves catalog running) := by
  constructor
  · intro name request s hs
    have hkeeps := PlanStore.prepare_keeps e.workshop s.store name request
    exact ⟨hkeeps.1.trans hs.catalog, hkeeps.2.trans hs.running,
      PlanStore.faithful_prepare hs.faithful name request⟩
  · exact fun _ _ _ _ s hs => ⟨hs.catalog, hs.running, hs.faithful⟩
  · exact fun _ _ _ _ _ s hs => ⟨hs.catalog, hs.running, hs.faithful⟩

theorem Reachable.faithful (h : e.Reachable s) : s.store.Faithful e.workshop := by
  induction h with
  | fresh catalog running storage => exact PlanStore.faithful_of_no_plans rfl
  | started _ _ => exact PlanStore.faithful_start _
  | stopped _ _ => exact PlanStore.faithful_stop _
  | reloaded catalog _ _ => exact PlanStore.faithful_reload _ _
  | stored storage _ ih => exact ih
  | get name request _ ih => exact ((kept_serves e _ _).get name request _ ⟨rfl, rfl, ih⟩).faithful
  | select name request _ ih =>
    exact ((kept_serves e _ _).select name request _ ⟨rfl, rfl, ih⟩).faithful
  | page name request _ ih =>
    exact ((kept_serves e _ _).page name request _ ⟨rfl, rfl, ih⟩).faithful
  | forward name request _ ih =>
    exact ((kept_serves e _ _).forward name request _ ⟨rfl, rfl, ih⟩).faithful

theorem Reachable.serves (h : e.Reachable s) : e.Serves s.store.catalog s.store.running s :=
  ⟨rfl, rfl, h.faithful⟩

/-- A store that does not run answers nothing. -/
theorem running_of_prepare {name : String} {request : Request} {p : Prepared} {t : Session σ}
    (h : (e.prepare name request).on s = (.ok p, t)) : s.store.running = true := by
  by_contra hr
  have hstopped : s.store.running = false := by simpa using hr
  have hanswer : (s.store.prepare e.workshop name request).1 = .ok p := congrArg Prod.fst h
  simp only [PlanStore.prepare, PlanStore.plan, hstopped] at hanswer
  cases hanswer

/-- What is prepared in a session that serves a catalog depends on the catalog only. -/
theorem prepare_of_serves {catalog : Catalog} (hs : e.Serves catalog true s) (name : String)
    (request : Request) : ((e.prepare name request).on s).1 =
      ({ catalog : PlanStore } : PlanStore).prepareAnew e.workshop name request := by
  have hanew := PlanStore.prepare_eq_prepareAnew hs.faithful hs.running name request
  have hcatalog := PlanStore.planAnew_congr (w := e.workshop)
    (t := ({ catalog } : PlanStore)) hs.catalog name
  calc ((e.prepare name request).on s).1
      = (s.store.prepare e.workshop name request).1 := rfl
    _ = s.store.prepareAnew e.workshop name request := hanew
    _ = _ := by rw [PlanStore.prepareAnew, PlanStore.prepareAnew, hcatalog]

/-- What is prepared is the query of that name in the catalog. -/
theorem find?_of_prepare {catalog : Catalog} {running : Bool} {t : Session σ}
    (hs : e.Serves catalog running s) {name : String} {request : Request} {p : Prepared}
    (h : (e.prepare name request).on s = (.ok p, t)) : catalog.find? name = some p.query := by
  have hrunning := running_of_prepare h
  rw [hs.running] at hrunning
  rw [hrunning] at hs
  have hanew := prepare_of_serves hs name request
  rw [h] at hanew
  exact PlanStore.find?_of_prepareAnew hanew.symm

end QueryCatalog.Engine
