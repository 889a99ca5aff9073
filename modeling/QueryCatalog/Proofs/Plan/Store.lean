import QueryCatalog.Plan.Store
import QueryCatalog.Proofs.Dictionary
import QueryCatalog.Proofs.Outcome

/-!
The store of plans answers as one that keeps none: a plan that is kept is the plan that would be
made. The window of a request passes through its preparation untouched.
-/
namespace QueryCatalog

/-- A request for another window of rows. -/
def Request.withWindow (r : Request) (offset limit : Option Nat) : Request :=
  { r with offset, limit }

def Prepared.withWindow (p : Prepared) (offset limit : Option Nat) : Prepared :=
  { p with request := p.request.withWindow offset limit }

/-- Scripts that the host provides matter to queries that name one only. -/
theorem Body.compile_eq {s : Script} (h : s.kind ≠ .native) {w v : Workshop}
    (hlua : w.lua = v.lua) : compile w s = compile v s := by
  unfold compile
  cases hk : s.kind with
  | native => exact absurd hk h
  | template => rfl
  | lua => rw [hlua]
  | literal => rfl

theorem Body.isLiteral_of_compile {w : Workshop} {s : Script} {b : Body}
    (h : compile w s = .ok b) : b.isLiteral = true ↔ s.kind = .literal := by
  unfold compile at h
  cases hk : s.kind with
  | template =>
    rw [hk] at h
    obtain ⟨nodes, -, rfl⟩ := ok_of_map_mapError h
    simp [isLiteral]
  | lua =>
    rw [hk] at h
    obtain ⟨chunk, -, rfl⟩ := ok_of_map_mapError h
    simp [isLiteral]
  | native =>
    rw [hk] at h
    cases hn : w.natives.named? s.code with
    | none => simp [hn] at h
    | some script =>
      simp only [hn, Except.ok.injEq] at h
      simp [← h, isLiteral]
  | literal =>
    rw [hk] at h
    obtain ⟨ps, -, rfl⟩ := ok_of_map_mapError h
    simp [isLiteral]

namespace Plan

theorem create_cases {w : Workshop} {q : Query} {p : Plan} (h : create w q = .ok p) :
    p.query = q ∧ Body.compile w q.script = .ok p.body := by
  unfold create at h
  split_ifs at h
  obtain ⟨body, hbody, rfl⟩ := ok_of_map_mapError h
  exact ⟨rfl, hbody⟩

/-- Two hosts that make a plan of a query without a script of theirs make the same one. -/
theorem create_unique {w v : Workshop} (hlua : w.lua = v.lua) {q : Query} {p p' : Plan}
    (hkind : q.script.kind ≠ .native) (h : create w q = .ok p) (h' : create v q = .ok p') :
    p = p' := by
  obtain ⟨hquery, hbody⟩ := create_cases h
  obtain ⟨hquery', hbody'⟩ := create_cases h'
  rw [Body.compile_eq hkind hlua, hbody'] at hbody
  cases p
  cases p'
  cases hbody
  cases hquery
  cases hquery'
  rfl

theorem convert_withWindow (q : Query) (r : Request) (offset limit : Option Nat) :
    convert q (r.withWindow offset limit) =
      (convert q r).map (·.withWindow offset limit) := by
  have hcriteria : (r.withWindow offset limit).criteria = r.criteria := rfl
  unfold convert
  rw [hcriteria]
  split
  · rfl
  · rfl

theorem prepare_withWindow (p : Plan) (r : Request) (offset limit : Option Nat) :
    p.prepare (r.withWindow offset limit) =
      (p.prepare r).map (·.withWindow offset limit) := by
  unfold prepare
  rw [convert_withWindow]
  cases convert p.query r with
  | error e => rfl
  | ok converted =>
    have hbody : p.body.statement p.query.id (converted.withWindow offset limit) =
        p.body.statement p.query.id converted := by
      cases p.body <;> rfl
    simp only [Except.map, bind, Except.bind, hbody]
    cases p.body.statement p.query.id converted with
    | error e => rfl
    | ok bound =>
      dsimp only
      split_ifs <;> rfl

/-- What a plan that prepares a request has done for it. -/
theorem prepare_cases {p : Plan} {r : Request} {q : Prepared} (h : p.prepare r = .ok q) :
    q.query = p.query ∧ q.expanded = p.body.isLiteral ∧
      p.body.statement p.query.id q.request = .ok q.bound ∧ convert p.query r = .ok q.request := by
  unfold prepare at h
  cases hc : convert p.query r with
  | error e => rw [hc] at h; cases h
  | ok converted =>
    simp only [hc, bind, Except.bind] at h
    cases hb : p.body.statement p.query.id converted with
    | error e => rw [hb] at h; cases h
    | ok bound =>
      simp only [hb] at h
      split_ifs at h
      cases h
      exact ⟨rfl, rfl, hb, rfl⟩

end Plan

namespace PlanStore

variable {w : Workshop} {s : PlanStore}

/-- The plan of a query, made anew. -/
def planAnew (w : Workshop) (s : PlanStore) (name : String) : Except QueryError Plan :=
  (s.query name).bind (Plan.create w)

/-- A request prepared by a plan that is made anew. -/
def prepareAnew (w : Workshop) (s : PlanStore) (name : String) (request : Request) :
    Except QueryError Prepared :=
  (s.planAnew w name).bind (·.prepare request)

/-- Each plan that is kept is the one that would be made. -/
def Faithful (w : Workshop) (s : PlanStore) : Prop :=
  ∀ name p, s.plans.find? name = some p → s.planAnew w name = .ok p

theorem faithful_of_no_plans (h : s.plans = []) : s.Faithful w := by
  intro name p hp
  rw [h] at hp
  cases hp

theorem faithful_start (s : PlanStore) : s.start.Faithful w := faithful_of_no_plans rfl

theorem faithful_stop (s : PlanStore) : s.stop.Faithful w := faithful_of_no_plans rfl

theorem faithful_reload (s : PlanStore) (catalog : Catalog) :
    (s.reload catalog).Faithful w := faithful_of_no_plans rfl

theorem planAnew_congr {s t : PlanStore} (h : s.catalog = t.catalog) (name : String) :
    s.planAnew w name = t.planAnew w name := by
  simp only [planAnew, query, h]

/-- Asking for a plan changes the kept plans only. -/
theorem plan_keeps (w : Workshop) (s : PlanStore) (name : String) :
    (s.plan w name).2.catalog = s.catalog ∧ (s.plan w name).2.running = s.running := by
  unfold plan
  split_ifs
  · exact ⟨rfl, rfl⟩
  · cases s.plans.find? name with
    | some p => exact ⟨rfl, rfl⟩
    | none => cases (s.query name).bind (Plan.create w) <;> exact ⟨rfl, rfl⟩

theorem plan_eq_planAnew (hs : s.Faithful w) (hr : s.running = true) (name : String) :
    (s.plan w name).1 = s.planAnew w name := by
  unfold plan
  rw [hr]
  cases hk : s.plans.find? name with
  | some p => exact (hs name p hk).symm
  | none =>
    unfold planAnew
    cases (s.query name).bind (Plan.create w) <;> rfl

theorem faithful_plan (hs : s.Faithful w) (name : String) : (s.plan w name).2.Faithful w := by
  unfold plan
  split_ifs
  · exact hs
  · cases hk : s.plans.find? name with
    | some p => exact hs
    | none =>
      cases hm : (s.query name).bind (Plan.create w) with
      | error e => exact hs
      | ok made =>
        intro other p hp
        have hfind : (s.plans.insert name made).find? other = some p := hp
        rw [Dictionary.find?_insert] at hfind
        split_ifs at hfind with ho
        · have heq : other = name := by simpa using ho
          cases hfind
          rw [heq]
          exact hm
        · exact hs other p hfind

theorem prepare_keeps (w : Workshop) (s : PlanStore) (name : String) (request : Request) :
    (s.prepare w name request).2.catalog = s.catalog ∧
      (s.prepare w name request).2.running = s.running := plan_keeps w s name

theorem faithful_prepare (hs : s.Faithful w) (name : String) (request : Request) :
    (s.prepare w name request).2.Faithful w := faithful_plan hs name

theorem prepare_eq_prepareAnew (hs : s.Faithful w) (hr : s.running = true) (name : String)
    (request : Request) : (s.prepare w name request).1 = s.prepareAnew w name request := by
  have h := plan_eq_planAnew hs hr name
  simp only [prepare, prepareAnew, h]

theorem prepareAnew_cases {name : String} {r : Request} {p : Prepared}
    (h : s.prepareAnew w name r = .ok p) :
    ∃ q made, s.catalog.find? name = some q ∧ Plan.create w q = .ok made ∧
      made.prepare r = .ok p := by
  simp only [prepareAnew, planAnew, query] at h
  cases hq : s.catalog.find? name with
  | none => simp [hq, Except.bind] at h
  | some q =>
    cases hm : Plan.create w q with
    | error e => simp [hq, hm, Except.bind] at h
    | ok made =>
      simp only [hq, hm, Except.bind] at h
      exact ⟨q, made, rfl, hm, h⟩

/-- What is prepared is the query of that name in the catalog. -/
theorem find?_of_prepareAnew {name : String} {r : Request} {p : Prepared}
    (h : s.prepareAnew w name r = .ok p) : s.catalog.find? name = some p.query := by
  obtain ⟨q, made, hq, hmade, hprepare⟩ := prepareAnew_cases h
  rw [(Plan.prepare_cases hprepare).1, (Plan.create_cases hmade).1]
  exact hq

theorem prepareAnew_withWindow (w : Workshop) (s : PlanStore) (name : String) (r : Request)
    (offset limit : Option Nat) :
    s.prepareAnew w name (r.withWindow offset limit) =
      (s.prepareAnew w name r).map (·.withWindow offset limit) := by
  unfold prepareAnew
  cases s.planAnew w name with
  | error e => rfl
  | ok p => exact p.prepare_withWindow r offset limit

end PlanStore

end QueryCatalog
