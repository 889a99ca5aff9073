import QueryCatalog.Command.Outcome
import QueryCatalog.Proofs.Engine.Recording
import QueryCatalog.Proofs.Statement.Binding

/-!
The statement that the command line prints beside the one that a service executes. Both prepare the
same request, but the command line expands arrays also in a literal statement, whose arrays are
expanded when it is bound.
-/
namespace QueryCatalog.Command

variable {σ : Type} {e : Engine σ} {catalog : Catalog} {lua : Lua.Compiler}

theorem renderLines_cases {files : Files} {paths : List String} {name param context : String}
    {lines : List String} (h : renderLines files paths name param context lua = .ok lines) :
    ∃ catalog criteria surroundings p shown, Command.catalog files paths = .ok catalog ∧
      Json.parse? param = some criteria ∧ Json.parse? context = some surroundings ∧
      rendered catalog name { criteria, context := surroundings } lua = .ok (p, shown) ∧
      lines = [renderedLine p shown] := by
  unfold renderLines at h
  cases hcatalog : Command.catalog files paths with
  | error failure => rw [hcatalog] at h; cases h
  | ok catalog =>
    simp only [hcatalog, document, bind, Except.bind] at h
    cases hparam : Json.parse? param with
    | none => simp [hparam] at h
    | some criteria =>
      cases hcontext : Json.parse? context with
      | none => simp [hparam, hcontext] at h
      | some surroundings =>
        simp only [hparam, hcontext] at h
        cases hr : rendered catalog name { criteria, context := surroundings } lua with
        | error failure => simp [hr, Except.mapError] at h
        | ok answer =>
          simp only [hr, Except.mapError, pure, Except.pure, Except.ok.injEq] at h
          exact ⟨catalog, criteria, surroundings, answer.1, answer.2, rfl, rfl, rfl, hr, h.symm⟩

theorem renderLines_of_rendered {files : Files} {paths : List String}
    {name param context : String} {criteria surroundings : Json} {p : Prepared}
    {shown : BoundStatement} (hcatalog : Command.catalog files paths = .ok catalog)
    (hparam : Json.parse? param = some criteria)
    (hcontext : Json.parse? context = some surroundings)
    (h : rendered catalog name { criteria, context := surroundings } lua = .ok (p, shown)) :
    renderLines files paths name param context lua = .ok [renderedLine p shown] := by
  unfold renderLines
  simp only [hcatalog, document, hparam, hcontext, bind, Except.bind]
  rw [h]
  rfl

theorem rendered_cases {name : String} {r : Request} {p : Prepared} {shown : BoundStatement}
    (h : rendered catalog name r lua = .ok (p, shown)) :
    ({ catalog } : PlanStore).prepareAnew { lua } name r = .ok p ∧
      Statement.bindPositional p.bound.statement p.bound.args = .ok shown := by
  have hanew := PlanStore.prepare_eq_prepareAnew (w := { lua })
    (PlanStore.faithful_start { catalog }) rfl name r
  have hcatalog := PlanStore.planAnew_congr (w := { lua }) (s := ({ catalog } : PlanStore).start)
    (t := { catalog }) rfl name
  rw [PlanStore.prepareAnew, hcatalog] at hanew
  unfold rendered at h
  rw [hanew] at h
  change (PlanStore.prepareAnew _ _ _ _).bind _ = _ at h
  cases hp : ({ catalog } : PlanStore).prepareAnew { lua } name r with
  | error failure => rw [hp] at h; cases h
  | ok prepared =>
    simp only [hp, bind, Except.bind] at h
    cases hb : Statement.bindPositional prepared.bound.statement prepared.bound.args with
    | error failure => simp [hb, Except.mapError] at h
    | ok final =>
      simp only [hb, Except.mapError, pure, Except.pure, Except.ok.injEq, Prod.mk.injEq] at h
      obtain ⟨rfl, rfl⟩ := h
      exact ⟨rfl, hb⟩

/-- Two hosts over one catalog prepare a request to the same statement, whatever its window. -/
theorem prepared_unique {w v : Workshop} (hlua : w.lua = v.lua) {name : String} {r : Request} {offset limit : Option Nat}
    {p p' : Prepared} {q : Query} (hq : catalog.find? name = some q)
    (hkind : q.script.kind ≠ .native)
    (h : ({ catalog } : PlanStore).prepareAnew w name r = .ok p)
    (h' : ({ catalog } : PlanStore).prepareAnew v name (r.withWindow offset limit) = .ok p') :
    p' = p.withWindow offset limit ∧ p.query = q ∧
      (p.expanded = true ↔ q.script.kind = .literal) := by
  obtain ⟨found, made, hfound, hmade, hp⟩ := PlanStore.prepareAnew_cases h
  obtain ⟨found', made', hfound', hmade', hp'⟩ := PlanStore.prepareAnew_cases h'
  have hsame : found = q := Option.some.inj (hfound.symm.trans hq)
  have hsame' : found' = q := Option.some.inj (hfound'.symm.trans hq)
  rw [hsame] at hmade
  rw [hsame'] at hmade'
  have hplan : made = made' := Plan.create_unique hlua hkind hmade hmade'
  rw [← hplan, Plan.prepare_withWindow, hp] at hp'
  obtain ⟨hquery, hexpanded, -⟩ := Plan.prepare_cases hp
  obtain ⟨hof, hbody⟩ := Plan.create_cases hmade
  refine ⟨(Except.ok.inj hp').symm, hquery.trans hof, ?_⟩
  rw [hexpanded]
  exact Body.isLiteral_of_compile hbody

/-- The command line prints what a service hands over to the storage, except that it expands a
literal statement once more. So the two agree unless an array is left among the values of a literal
statement, and has no fixed index there. -/
theorem rendered_eq_selected_iff {files : Files} {paths lines : List String}
    {name param context : String} {criteria surroundings : Json} {q : Query}
    {s : Session (σ × List BoundStatement)} {offset limit : Option Nat} {call : BoundStatement}
    {rest : List BoundStatement}
    (hcatalog : Command.catalog files paths = .ok catalog)
    (hparam : Json.parse? param = some criteria)
    (hcontext : Json.parse? context = some surroundings)
    (hq : catalog.find? name = some q) (hkind : q.script.kind ≠ .native)
    (hlines : renderLines files paths name param context e.workshop.lua = .ok lines)
    (hs : e.recorded.Reachable s) (hserved : s.store.catalog = catalog)
    (hcall : Engine.calls ((e.recorded.select name
      { criteria, context := surroundings, offset, limit }).on s).2 =
        Engine.calls s ++ call :: rest) :
    ∃ p shown, lines = [renderedLine p shown] ∧ p.query = q ∧
      (q.script.kind ≠ .literal → shown = call) ∧
      (q.script.kind = .literal →
        Statement.bindPositional call.statement call.args = .ok shown) ∧
      (shown = call ↔ (q.script.kind = .literal → Statement.Settled call)) := by
  obtain ⟨c, values, outside, p, shown, hc, hvalues, houtside, hrendered, hprinted⟩ :=
    renderLines_cases hlines
  have hsame : c = catalog := Except.ok.inj (hc.symm.trans hcatalog)
  have hsameValues : values = criteria := Option.some.inj (hvalues.symm.trans hparam)
  have hsameOutside : outside = surroundings := Option.some.inj (houtside.symm.trans hcontext)
  rw [hsame, hsameValues, hsameOutside] at hrendered
  obtain ⟨hanew, hshown⟩ := rendered_cases hrendered
  obtain ⟨p', t, hprepare, hfinal⟩ := Engine.first_call_of_select hcall
  have hserves := hs.serves
  rw [hserved, Engine.running_of_prepare hprepare] at hserves
  have hanew' := Engine.prepare_of_serves hserves name
    (Request.withWindow { criteria, context := surroundings } offset limit)
  have hanswer : .ok p' = ({ catalog } : PlanStore).prepareAnew e.recorded.workshop name
      (Request.withWindow { criteria, context := surroundings } offset limit) := by
    rw [← hanew']
    exact (congrArg Prod.fst hprepare).symm
  have hlua : ({ lua := e.workshop.lua } : Workshop).lua = e.recorded.workshop.lua := rfl
  obtain ⟨rfl, hquery, hexpanded⟩ := prepared_unique hlua hq hkind hanew hanswer.symm
  have hbound : (p.withWindow offset limit).bound = p.bound := rfl
  refine ⟨p, shown, hprinted, hquery, ?_⟩
  unfold Prepared.final at hfinal
  by_cases hliteral : q.script.kind = .literal
  · have hdone : (p.withWindow offset limit).expanded = true := hexpanded.mpr hliteral
    rw [hdone, if_pos rfl, hbound] at hfinal
    rw [Except.ok.inj hfinal] at hshown
    refine ⟨fun h => absurd hliteral h, fun _ => hshown, ?_⟩
    rw [Statement.eq_bindPositional_iff hshown]
    exact ⟨fun h _ => h, fun h => h hliteral⟩
  · have hopen : ¬(p.withWindow offset limit).expanded = true := fun h => hliteral (hexpanded.mp h)
    rw [if_neg hopen, hbound, hshown] at hfinal
    have heq : shown = call := Except.ok.inj hfinal
    exact ⟨fun _ => heq, fun h => absurd h hliteral, fun _ h => absurd h hliteral, fun _ => heq⟩

/-- A literal query with one name for a list. -/
def ordersFiles : Files := fun path =>
  if path == "orders.json" then
    .ok ("\x7b\"query\":[\x7b\"name\":\"orders\",\"script\":" ++
      "\x7b\"type\":\"sql\",\"code\":\"SELECT 1 IN (:ids)\"\x7d\x7d]\x7d")
  else .error .notFound

def ordersCatalog : Catalog := (Command.catalog ordersFiles ["orders.json"]).toOption.getD []

/-- Lists within a list. -/
def nestedIds : String := "\x7b\"ids\":[[1,2],[3]]\x7d"

def nestedValues : Json := (Json.parse? nestedIds).getD .null

def nestedRequest : Request := { criteria := nestedValues }

/-- A storage without any rows. -/
def emptyStorage : Engine Unit where
  executor :=
    { get := fun _ _ _ s => (.ok none, s)
      select := fun _ _ _ _ s => (.ok [], s) }

def serving (catalog : Catalog) : Session (Unit × List BoundStatement) :=
  { store := { catalog, running := true }, storage := ((), []) }

theorem serving_reachable (catalog : Catalog) :
    emptyStorage.recorded.Reachable (serving catalog) := .fresh _ _ _

theorem serving_catalog (catalog : Catalog) : (serving catalog).store.catalog = catalog := rfl

theorem ordersCatalog_built :
    Command.catalog ordersFiles ["orders.json"] = .ok ordersCatalog := by
  have h : (Command.catalog ordersFiles ["orders.json"]).toOption.isSome = true := by
    decide +kernel
  unfold ordersCatalog
  cases hc : Command.catalog ordersFiles ["orders.json"] with
  | error failure => rw [hc] at h; cases h
  | ok catalog => rfl

theorem nestedIds_read : Json.parse? nestedIds = some nestedValues := by
  have h : (Json.parse? nestedIds).isSome = true := by decide +kernel
  unfold nestedValues
  cases hv : Json.parse? nestedIds with
  | none => rw [hv] at h; cases h
  | some v => rfl

theorem orders_literal :
    ∃ q, ordersCatalog.find? "orders" = some q ∧ q.script.kind = .literal := by
  have h : (ordersCatalog.find? "orders").map (·.script.kind) = some .literal := by decide +kernel
  exact Option.map_eq_some_iff.mp h

theorem orders_selected :
    ∃ call, Engine.calls ((emptyStorage.recorded.select "orders" nestedRequest).on
        (serving ordersCatalog)).2 = [call] ∧ call.statement = "SELECT 1 IN (?,?)" := by
  have h : (Engine.calls ((emptyStorage.recorded.select "orders" nestedRequest).on
      (serving ordersCatalog)).2).map (·.statement) = ["SELECT 1 IN (?,?)"] := by decide +kernel
  exact List.map_eq_singleton_iff.mp h

theorem orders_rendered :
    ∃ p shown, rendered ordersCatalog "orders" nestedRequest = .ok (p, shown) ∧
      shown.statement = "SELECT 1 IN (?,?,?)" := by
  have h : (rendered ordersCatalog "orders" nestedRequest).toOption.map (·.2.statement) =
      some "SELECT 1 IN (?,?,?)" := by decide +kernel
  cases hr : rendered ordersCatalog "orders" nestedRequest with
  | error failure => rw [hr] at h; cases h
  | ok answer =>
    rw [hr] at h
    exact ⟨answer.1, answer.2, rfl, Option.some.inj h⟩

theorem orders_lines {p : Prepared} {shown : BoundStatement}
    (h : rendered ordersCatalog "orders" nestedRequest = .ok (p, shown)) :
    renderLines ordersFiles ["orders.json"] "orders" nestedIds "null" =
      .ok [renderedLine p shown] :=
  renderLines_of_rendered ordersCatalog_built nestedIds_read rfl h

/-- The inner lists are arguments of the statement that is executed, and the one that is printed
has a mark for each of their elements. -/
theorem render_expands_inner_lists :
    ∃ p shown call, Command.catalog ordersFiles ["orders.json"] = .ok ordersCatalog ∧
      renderLines ordersFiles ["orders.json"] "orders" nestedIds "null" =
        .ok [renderedLine p shown] ∧
      emptyStorage.recorded.Reachable (serving ordersCatalog) ∧
      (serving ordersCatalog).store.catalog = ordersCatalog ∧
      Json.parse? nestedIds = some nestedValues ∧
      Engine.calls ((emptyStorage.recorded.select "orders" nestedRequest).on
        (serving ordersCatalog)).2 = [call] ∧
      shown.statement = "SELECT 1 IN (?,?,?)" ∧ call.statement = "SELECT 1 IN (?,?)" ∧
      shown ≠ call := by
  obtain ⟨p, shown, hrendered, hshown⟩ := orders_rendered
  obtain ⟨call, hcall, hstatement⟩ := orders_selected
  refine ⟨p, shown, call, ordersCatalog_built, ?_, serving_reachable _, serving_catalog _,
    nestedIds_read, hcall, hshown, hstatement, ?_⟩
  · exact orders_lines hrendered
  · intro heq
    rw [heq, hstatement] at hshown
    exact absurd hshown (by decide)

theorem rendered_eq_selected_iff_orders :
    ∃ q p shown call, ordersCatalog.find? "orders" = some q ∧ q.script.kind = .literal ∧
      renderLines ordersFiles ["orders.json"] "orders" nestedIds "null" =
        .ok [renderedLine p shown] ∧
      Engine.calls ((emptyStorage.recorded.select "orders" nestedRequest).on
        (serving ordersCatalog)).2 = Engine.calls (serving ordersCatalog) ++ [call] ∧
      Statement.bindPositional call.statement call.args = .ok shown ∧
      (shown = call ↔ Statement.Settled call) := by
  obtain ⟨q, hq, hliteral⟩ := orders_literal
  obtain ⟨p, shown, hrendered, -⟩ := orders_rendered
  obtain ⟨call, hcall, -⟩ := orders_selected
  have hlines := orders_lines hrendered
  have hkind : q.script.kind ≠ .native := by
    rw [hliteral]
    decide
  obtain ⟨p', shown', hprinted, -, -, hagain, hiff⟩ :=
    rendered_eq_selected_iff (e := emptyStorage) ordersCatalog_built nestedIds_read rfl
      hq hkind hlines (serving_reachable _) (serving_catalog _) hcall
  refine ⟨q, p', shown', call, hq, hliteral, ?_, hcall, hagain hliteral, ?_⟩
  · rw [hlines, hprinted]
  · exact ⟨fun h => hiff.mp h hliteral, fun h => hiff.mpr fun _ => h⟩

end QueryCatalog.Command
