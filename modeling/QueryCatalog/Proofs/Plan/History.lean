import Mathlib.Data.List.Induction
import QueryCatalog.Proofs.Plan.Store

/-!
A store of plans over its whole life. Each answer follows from the catalog that was installed last,
from whether the store was started or stopped last, and from the call; which plans are kept from
earlier calls does not show.
-/
namespace QueryCatalog

/-- What is asked of a store. -/
inductive StoreCall where
  | start
  | stop
  | reload (catalog : Catalog)
  | plan (name : String)
  | prepare (name : String) (request : Request)

inductive StoreAnswer where
  | done
  | plan (answer : Except QueryError Plan)
  | prepared (answer : Except QueryError Prepared)

namespace StoreCall

/-- The catalog that a call installs. -/
def catalog? : StoreCall → Option Catalog
  | .reload catalog => some catalog
  | _ => none

/-- Whether a call starts or stops the store. -/
def switch? : StoreCall → Option Bool
  | .start => some true
  | .stop => some false
  | _ => none

/-- The catalog that was installed last, the first one if none was installed since. -/
def installed (first : Catalog) (history : List StoreCall) : Catalog :=
  (history.filterMap catalog?).getLast?.getD first

/-- Whether the last start or stop was a start. -/
def serving (history : List StoreCall) : Bool := (history.filterMap switch?).getLast?.getD false

theorem installed_concat (first : Catalog) (history : List StoreCall) (c : StoreCall) :
    installed first (history ++ [c]) = c.catalog?.getD (installed first history) := by
  cases h : c.catalog? <;> simp [installed, List.filterMap_append, h]

theorem serving_concat (history : List StoreCall) (c : StoreCall) :
    serving (history ++ [c]) = c.switch?.getD (serving history) := by
  cases h : c.switch? <;> simp [serving, List.filterMap_append, h]

end StoreCall

/-- The plan of a query where none is kept: the name is looked up, and a plan is made. -/
def Plan.anew (w : Workshop) (catalog : Catalog) (running : Bool) (name : String) :
    Except QueryError Plan :=
  if running then
    match catalog.find? name with
    | some q => Plan.create w q
    | none => .error (.notFound name)
  else .error .shutdown

/-- What a store answers that keeps no plans. -/
def StoreAnswer.anew (w : Workshop) (catalog : Catalog) (running : Bool) : StoreCall → StoreAnswer
  | .plan name => .plan (Plan.anew w catalog running name)
  | .prepare name request =>
    .prepared ((Plan.anew w catalog running name).bind (·.prepare request))
  | _ => .done

namespace PlanStore

open StoreCall (installed serving installed_concat serving_concat)

def answer (w : Workshop) (s : PlanStore) : StoreCall → StoreAnswer × PlanStore
  | .start => (.done, s.start)
  | .stop => (.done, s.stop)
  | .reload catalog => (.done, s.reload catalog)
  | .plan name => (.plan (s.plan w name).1, (s.plan w name).2)
  | .prepare name request =>
    (.prepared (s.prepare w name request).1, (s.prepare w name request).2)

/-- A new store after calls, one after the other. -/
def after (w : Workshop) (first : Catalog) (history : List StoreCall) : PlanStore :=
  history.foldl (fun s c => (s.answer w c).2) { catalog := first }

theorem after_concat (w : Workshop) (first : Catalog) (history : List StoreCall) (c : StoreCall) :
    after w first (history ++ [c]) = ((after w first history).answer w c).2 := by
  simp [after]

/-- What a store knows of its past: the catalog, whether it runs, and plans that would be made
again. -/
structure Remembers (w : Workshop) (catalog : Catalog) (running : Bool) (s : PlanStore) : Prop where
  installed : s.catalog = catalog
  switched : s.running = running
  faithful : s.Faithful w
  idle : running = false → s.plans = []

variable {w : Workshop} {catalog : Catalog} {running : Bool} {s : PlanStore}

/-- A plan that is asked for is kept if it was made, and nothing is kept while the store is
stopped. -/
theorem Remembers.plan (h : s.Remembers w catalog running) (name : String) :
    (s.plan w name).2.Remembers w catalog running := by
  have hkeeps := plan_keeps w s name
  refine ⟨hkeeps.1.trans h.installed, hkeeps.2.trans h.switched, faithful_plan h.faithful name,
    fun hstopped => ?_⟩
  have hplan : s.plan w name = (.error .shutdown, s) := by
    rw [PlanStore.plan, h.switched, hstopped]
    rfl
  rw [hplan]
  exact h.idle hstopped

theorem Remembers.answer (h : s.Remembers w catalog running) (c : StoreCall) :
    (s.answer w c).2.Remembers w (c.catalog?.getD catalog) (c.switch?.getD running) := by
  cases c with
  | start => exact ⟨h.installed, rfl, faithful_start s, fun _ => rfl⟩
  | stop => exact ⟨h.installed, rfl, faithful_stop s, fun _ => rfl⟩
  | reload new => exact ⟨rfl, h.switched, faithful_reload s new, fun _ => rfl⟩
  | plan name => exact h.plan name
  | prepare name request => exact h.plan name

theorem remembers_after (w : Workshop) (first : Catalog) (history : List StoreCall) :
    (after w first history).Remembers w (installed first history) (serving history) := by
  induction history using List.reverseRecOn with
  | nil => exact ⟨rfl, rfl, faithful_of_no_plans rfl, fun _ => rfl⟩
  | append_singleton history c ih =>
    rw [after_concat, installed_concat, serving_concat]
    exact ih.answer c

theorem Remembers.planAnew (h : s.Remembers w catalog true) (name : String) :
    s.planAnew w name = Plan.anew w catalog true name := by
  rw [PlanStore.planAnew, query, h.installed, Plan.anew]
  cases catalog.find? name <;> rfl

theorem Remembers.plan_eq (h : s.Remembers w catalog running) (name : String) :
    (s.plan w name).1 = Plan.anew w catalog running name := by
  cases running with
  | false =>
    rw [PlanStore.plan, h.switched]
    rfl
  | true => rw [plan_eq_planAnew h.faithful h.switched name, h.planAnew name]

/-- A plan that cannot be made leaves the store as it is. -/
theorem plan_of_error {name : String} {e : QueryError} (h : (s.plan w name).1 = .error e) :
    (s.plan w name).2 = s := by
  unfold PlanStore.plan at h ⊢
  split_ifs at h ⊢
  · rfl
  · cases hkept : s.plans.find? name with
    | some p => rfl
    | none =>
      cases hmade : (s.query name).bind (Plan.create w) with
      | error e => rfl
      | ok p =>
        rw [hkept, hmade] at h
        cases h

/-- A store that answers like one without plans. -/
structure AnswersAnew (w : Workshop) (catalog : Catalog) (running : Bool) (s : PlanStore) :
    Prop where
  answer : ∀ c, (s.answer w c).1 = .anew w catalog running c
  /-- Each plan that is kept comes from the catalog that is installed. -/
  kept : ∀ name p, s.plans.find? name = some p →
    running = true ∧ ∃ q, catalog.find? name = some q ∧ Plan.create w q = .ok p
  /-- Where no plan can be made, none is kept, and asking for it changes nothing. -/
  failed : ∀ name e, Plan.anew w catalog running name = .error e → s.plans.find? name = none ∧
    (s.answer w (.plan name)).2 = s ∧ ∀ request, (s.answer w (.prepare name request)).2 = s

theorem Remembers.answersAnew (h : s.Remembers w catalog running) :
    s.AnswersAnew w catalog running := by
  have hkept : ∀ name p, s.plans.find? name = some p →
      running = true ∧ Plan.anew w catalog running name = .ok p := by
    intro name p hp
    cases running with
    | false =>
      rw [h.idle rfl] at hp
      cases hp
    | true => exact ⟨rfl, (h.planAnew name).symm.trans (h.faithful name p hp)⟩
  refine ⟨fun c => ?_, fun name p hp => ?_, fun name e he => ?_⟩
  · cases c with
    | start => rfl
    | stop => rfl
    | reload new => rfl
    | plan name => exact congrArg StoreAnswer.plan (h.plan_eq name)
    | prepare name request =>
      exact congrArg (fun plan : Except QueryError Plan =>
        StoreAnswer.prepared (plan.bind (·.prepare request))) (h.plan_eq name)
  · obtain ⟨rfl, hmade⟩ := hkept name p hp
    refine ⟨rfl, ?_⟩
    rw [Plan.anew, if_pos rfl] at hmade
    cases hq : catalog.find? name with
    | none => rw [hq] at hmade; cases hmade
    | some q =>
      rw [hq] at hmade
      exact ⟨q, rfl, hmade⟩
  · have hunchanged := plan_of_error ((h.plan_eq name).trans he)
    refine ⟨?_, hunchanged, fun request => hunchanged⟩
    rw [Option.eq_none_iff_forall_ne_some]
    intro p hp
    rw [(hkept name p hp).2] at he
    cases he

/-- After any calls a store answers as one that keeps no plans: from the catalog installed last if
it was started last, and not at all otherwise. -/
theorem answers_anew (w : Workshop) (first : Catalog) (history : List StoreCall) :
    (after w first history).AnswersAnew w (installed first history) (serving history) :=
  (remembers_after w first history).answersAnew

end PlanStore

end QueryCatalog
