import QueryCatalog.Proofs.Dictionary
import QueryCatalog.Proofs.Engine.Pairing
import QueryCatalog.Proofs.Engine.Visits
import QueryCatalog.Proofs.Lua.Untouched

/-!
The context of a call. Scripts and handlers that do the same in one context, and may differ in all
others, are told apart by no call with this context: whatever is executed, evaluated and handled in
its course is given the context of the caller.
-/
namespace QueryCatalog

variable {σ α : Type} {c : Json}

/-! What does the same in a context. -/

/-- The same failure, or results that correspond. -/
inductive Alike {ε α : Type} (R : α → α → Prop) : Except ε α → Except ε α → Prop
  | error (e : ε) : Alike R (.error e) (.error e)
  | ok {a a' : α} : R a a' → Alike R (.ok a) (.ok a')

namespace Alike

variable {ε δ α β : Type} {R : α → α → Prop} {x x' : Except ε α}

theorem mapError (h : Alike R x x') (f : ε → δ) : Alike R (x.mapError f) (x'.mapError f) := by
  cases h with
  | error e => exact .error (f e)
  | ok hr => exact .ok hr

theorem map {R' : β → β → Prop} (h : Alike R x x') {f f' : α → β}
    (hf : ∀ a a', R a a' → R' (f a) (f' a')) : Alike R' (x.map f) (x'.map f') := by
  cases h with
  | error e => exact .error e
  | ok hr => exact .ok (hf _ _ hr)

theorem bind_eq (h : Alike R x x') {f f' : α → Except ε β} (hf : ∀ a a', R a a' → f' a' = f a) :
    x'.bind f' = x.bind f := by
  cases h with
  | error e => rfl
  | ok hr => exact hf _ _ hr

end Alike

namespace Lua

/-- The state of a script that is given this context. -/
def State.Sees (c : Json) (s : State) : Prop := s.data? (s.global "ctx") = some (.ofJson c)

/-- Chunks that take the same course wherever they see the context. -/
def Script.Agrees (c : Json) (x x' : Script) : Prop := ∀ s : State, s.Sees c → x'.start s = x.start s

end Lua

structure NativeScript.Agrees (c : Json) (n n' : NativeScript) : Prop where
  statement : ∀ criteria, n'.statement criteria c = n.statement criteria c
  evaluate : ∀ b : Bindings, b.context = c → n'.evaluate b = n.evaluate b

structure Workshop.Agrees (c : Json) (w w' : Workshop) : Prop where
  kinds : w'.kinds = w.kinds
  natives : ∀ name, Option.Rel (NativeScript.Agrees c) (w.natives.named? name)
    (w'.natives.named? name)
  lua : ∀ code, Alike (Lua.Script.Agrees c) (w.lua code) (w'.lua code)

/-- Handlers that do the same for queries that were asked for in the context. -/
def HintHandler.Agrees (c : Json) (h h' : HintHandler) : Prop :=
  ∀ (p : Prepared) hint rows, p.request.context = c → h' p hint rows = h p hint rows

/-- Engines over the same storage whose scripts and handlers do the same in a context. -/
structure Engine.Agrees (c : Json) (e e' : Engine σ) : Prop where
  executor : e'.executor = e.executor
  dialect : e'.dialect = e.dialect
  settings : e'.settings = e.settings
  workshop : e.workshop.Agrees c e'.workshop
  handlers : ∀ key, Option.Rel (HintHandler.Agrees c) (Dictionary.find? e.handlers key)
    (Dictionary.find? e'.handlers key)

inductive Body.Agrees (c : Json) : Body → Body → Prop
  | template (nodes : List Template.Node) : Agrees c (.template nodes) (.template nodes)
  | lua {x x' : Lua.Script} : x.Agrees c x' → Agrees c (.lua x) (.lua x')
  | native {n n' : NativeScript} : n.Agrees c n' → Agrees c (.native n) (.native n')
  | literal (statement : String) : Agrees c (.literal statement) (.literal statement)

structure Plan.Agrees (c : Json) (p p' : Plan) : Prop where
  query : p'.query = p.query
  body : p.body.Agrees c p'.body

/-- Stores that keep plans of the same queries, and plans that do the same in a context. -/
structure PlanStore.Agrees (c : Json) (s s' : PlanStore) : Prop where
  catalog : s'.catalog = s.catalog
  running : s'.running = s.running
  plans : ∀ name, Option.Rel (Plan.Agrees c) (s.plans.find? name) (s'.plans.find? name)

structure Session.Agrees (c : Json) (s s' : Session σ) : Prop where
  store : s.store.Agrees c s'.store
  storage : s'.storage = s.storage

/-! Scripts are given the context that they are evaluated with. -/

namespace Lua

theorem State.ofBindings_sees {b : Bindings} (h : b.context.Everywhere Json.Regular) :
    (State.ofBindings b).Sees b.context := by
  have hpos := beforeRows_pos b
  have hrows : (beforeRows b).Spares "ctx" ((beforeRows b).setRows "rows" b.rows) :=
    setRows_spares hpos (by decide) b.rows
  have hlater : State.Spares "ctx" _ (State.ofBindings b) :=
    afterRows_spares (hpos.trans_le hrows.keeps.size_le) (by decide) (by decide) (by decide)
      b.fetched
  exact shown_of_spares (beforeContext_pos b)
    (beforeContext_lacks (by decide) (by decide +kernel) b) (Data.plain_ofJson h)
    (hrows.trans hlater)

namespace Script

variable {x x' : Script} (h : x.Agrees c x') (hc : c.Everywhere Json.Regular)

include h hc

theorem Agrees.run_eq {b : Bindings} (hb : b.context = c) : x'.run b = x.run b := by
  subst hb
  rw [run, run, h _ (State.ofBindings_sees hc)]

theorem Agrees.evaluate_eq {b : Bindings} (hb : b.context = c) : x'.evaluate b = x.evaluate b := by
  rw [evaluate, evaluate, h.run_eq hc hb]

theorem Agrees.statement_eq (criteria : Json) :
    x'.statement criteria c = x.statement criteria c := by
  rw [statement, statement, h.run_eq hc rfl]

end Script

end Lua

section Scripts

variable {w w' : Workshop} (hw : w.Agrees c w') (hc : c.Everywhere Json.Regular)

include hw hc

theorem Workshop.Agrees.evaluate_eq (script : Script) {b : Bindings} (hb : b.context = c) :
    script.evaluate w' b = script.evaluate w b := by
  unfold Script.evaluate
  cases script.kind with
  | lua =>
    refine ((hw.lua script.code).mapError ScriptFailure.lua).bind_eq fun x x' hagrees => ?_
    rw [Script.evaluateLua, Script.evaluateLua, hagrees.evaluate_eq hc hb]
  | native =>
    have hnative := hw.natives script.code
    simp only [Script.evaluateNative]
    generalize w.natives.named? script.code = n at hnative ⊢
    generalize w'.natives.named? script.code = n' at hnative ⊢
    cases hnative with
    | some hagrees => simp only [hagrees.evaluate b hb]
    | none => rfl
  | template => rfl
  | literal => rfl

end Scripts

theorem Body.Agrees.statement_eq {body body' : Body} (h : body.Agrees c body')
    (hc : c.Everywhere Json.Regular) (query : String) {request : Request}
    (hrequest : request.context = c) :
    body'.statement query request = body.statement query request := by
  cases h with
  | template nodes => rfl
  | lua hagrees => rw [statement, statement, hrequest, hagrees.statement_eq hc]
  | native hagrees => rw [statement, statement, hrequest, hagrees.statement]
  | literal text => rfl

theorem Body.Agrees.isLiteral_eq {body body' : Body} (h : body.Agrees c body') :
    body'.isLiteral = body.isLiteral := by
  cases h <;> rfl

theorem Body.compile_alike {w w' : Workshop} (hw : w.Agrees c w') (script : Script) :
    Alike (Body.Agrees c) (compile w script) (compile w' script) := by
  have hsame : ∀ x : Except BuildFailure Body, (∀ body, x = .ok body → body.Agrees c body) →
      Alike (Body.Agrees c) x x := by
    intro x hx
    cases x with
    | error e => exact .error e
    | ok body => exact .ok (hx body rfl)
  unfold compile
  cases script.kind with
  | template =>
    refine hsame _ fun body hbody => ?_
    obtain ⟨nodes, -, rfl⟩ := ok_of_map_mapError hbody
    exact .template nodes
  | lua => exact ((hw.lua script.code).map fun _ _ => .lua).mapError BuildFailure.lua
  | native =>
    have hnative := hw.natives script.code
    simp only
    generalize w.natives.named? script.code = n at hnative ⊢
    generalize w'.natives.named? script.code = n' at hnative ⊢
    cases hnative with
    | some hagrees => exact .ok (.native hagrees)
    | none => exact .error _
  | literal =>
    refine hsame _ fun body hbody => ?_
    obtain ⟨_, -, rfl⟩ := ok_of_map_mapError hbody
    exact .literal script.code

theorem Plan.create_alike {w w' : Workshop} (hw : w.Agrees c w') (q : Query) :
    Alike (Plan.Agrees c) (create w q) (create w' q) := by
  have hkinds : w'.supports q.script.kind = w.supports q.script.kind := by
    rw [Workshop.supports, Workshop.supports, hw.kinds]
  unfold create
  rw [hkinds]
  by_cases hsupports : w.supports q.script.kind = true
  · rw [if_pos hsupports, if_pos hsupports]
    exact ((Body.compile_alike hw q.script).map fun _ _ hbody => ⟨rfl, hbody⟩).mapError _
  · rw [if_neg hsupports, if_neg hsupports]
    exact .error _

theorem Plan.context_of_convert {q : Query} {r r' : Request} (h : convert q r = .ok r') :
    r'.context = r.context := by
  unfold convert at h
  split at h
  · cases h
    rfl
  · cases h

theorem Plan.Agrees.prepare_eq {p p' : Plan} (h : p.Agrees c p') (hc : c.Everywhere Json.Regular)
    {request : Request} (hrequest : request.context = c) :
    p'.prepare request = p.prepare request := by
  unfold prepare
  rw [h.query]
  cases hconverted : convert p.query request with
  | error e => rfl
  | ok converted =>
    have hcontext := (context_of_convert hconverted).trans hrequest
    simp only [bind, Except.bind, h.body.statement_eq hc _ hcontext, h.body.isLiteral_eq]

theorem Plan.context_of_prepare {p : Plan} {r : Request} {q : Prepared} (h : p.prepare r = .ok q) :
    q.request.context = r.context :=
  context_of_convert (prepare_cases h).2.2.2

namespace PlanStore.Agrees

variable {w w' : Workshop} {s s' : PlanStore}

theorem insert (hs : s.Agrees c s') (name : String) {p p' : Plan} (hp : p.Agrees c p') :
    Agrees c { s with plans := s.plans.insert name p }
      { s' with plans := s'.plans.insert name p' } := by
  refine ⟨hs.catalog, hs.running, fun other => ?_⟩
  dsimp only
  rw [Dictionary.find?_insert, Dictionary.find?_insert]
  split_ifs
  · exact .some hp
  · exact hs.plans other

/-- Plans that are kept and plans that are made agree, and so do the stores that are left. -/
theorem plan (hw : w.Agrees c w') (hs : s.Agrees c s') (name : String) :
    Alike (Plan.Agrees c) (s.plan w name).1 (s'.plan w' name).1 ∧
      (s.plan w name).2.Agrees c (s'.plan w' name).2 := by
  have hrunning : (!s'.running) = !s.running := by rw [hs.running]
  unfold PlanStore.plan
  by_cases hstopped : (!s.running) = true
  · rw [if_pos hstopped, if_pos (hrunning.trans hstopped)]
    exact ⟨.error _, hs⟩
  · rw [if_neg hstopped, if_neg (hrunning ▸ hstopped)]
    have hplans := hs.plans name
    generalize hkept : s.plans.find? name = kept at hplans ⊢
    generalize hkept' : s'.plans.find? name = kept' at hplans ⊢
    cases hplans with
    | some hp => exact ⟨.ok hp, hs⟩
    | none =>
      have hmade : Alike (Plan.Agrees c) ((s.query name).bind (Plan.create w))
          ((s'.query name).bind (Plan.create w')) := by
        unfold query
        rw [hs.catalog]
        cases s.catalog.find? name with
        | none => exact .error _
        | some q => exact Plan.create_alike hw q
      dsimp only
      generalize (s.query name).bind (Plan.create w) = made at hmade ⊢
      generalize (s'.query name).bind (Plan.create w') = made' at hmade ⊢
      cases hmade with
      | error e => exact ⟨.error e, hs⟩
      | ok hp => exact ⟨.ok hp, hs.insert name hp⟩

end PlanStore.Agrees

namespace Engine

variable {e e' : Engine σ}

section

variable (h : e.Agrees c e') (hc : c.Everywhere Json.Regular)

include h hc

/-! What is evaluated outside of a run. -/

theorem Agrees.evaluate_eq (owner : String) (script : Script) {b : Bindings} (hb : b.context = c) :
    e'.evaluate owner script b = e.evaluate owner script b := by
  rw [evaluate, evaluate, h.workshop.evaluate_eq hc script hb]

theorem Agrees.wanted_eq (owner : String) (f : Fetch) {b : Bindings} (hb : b.context = c) :
    e'.wanted owner f b = e.wanted owner f b := by
  unfold wanted
  cases f.predicate with
  | none => rfl
  | some script => simp only [h.evaluate_eq hc owner script hb]

theorem Agrees.injectRows_eq (owner : String) (f : Fetch) {b : Bindings} (hb : b.context = c)
    (fetched rows : List Row) : e'.injectRows owner f b fetched rows =
      e.injectRows owner f b fetched rows := by
  unfold injectRows
  cases f.injection with
  | none => cases f.property <;> rfl
  | some script =>
    have hgiven : ({ b with rows := some rows, fetched := some fetched } : Bindings).context = c :=
      hb
    simp only [injectByScript, h.evaluate_eq hc owner script hgiven]

variable {p : Prepared} (hp : p.request.context = c)

include hp

theorem Agrees.applyHint_eq (hint : Hint) (rows : List Row) :
    e'.handlers.applyHint e'.workshop p hint rows =
      e.handlers.applyHint e.workshop p hint rows := by
  unfold HintHandlers.applyHint
  cases hint.script with
  | some script =>
    have hgiven : ({ p.request.bindings with rows := some rows } : Bindings).context = c := hp
    simp only [HintHandlers.runScript, h.workshop.evaluate_eq hc script hgiven]
  | none =>
    have hhandlers := h.handlers hint.key
    dsimp only
    generalize Dictionary.find? e.handlers hint.key = handle at hhandlers ⊢
    generalize Dictionary.find? e'.handlers hint.key = handle' at hhandlers ⊢
    cases hhandlers with
    | some hagrees => exact hagrees p hint rows hp
    | none => rfl

theorem Agrees.handleHints_eq (rows : List Row) : e'.handleHints p rows = e.handleHints p rows := by
  unfold handleHints HintHandlers.apply
  simp only [h.applyHint_eq hc hp]

end

/-! Runs in the context. -/

/-- Both runs come to the same answer and to sessions that agree. -/
abbrev RunsAgree (c : Json) : Run σ α → Run σ α → Prop := Paired (Session.Agrees c) fun _ => True

section

variable (h : e.Agrees c e')

include h

theorem Agrees.callsPaired : CallsPaired (Session.Agrees c) e e' where
  settings := h.settings
  dialect := h.dialect
  depth s t hst := ⟨by rw [on_depth, on_depth, hst.store.catalog], hst, fun _ _ => trivial⟩
  getRow p name statement args s t hst := by
    have hcall : (e'.getRow p name statement args).on t =
        (e.getRow p name statement args).on ⟨t.store, s.storage⟩ := by
      unfold getRow
      rw [h.executor, h.settings, ← hst.storage]
    rw [hcall]
    exact ⟨rfl, ⟨hst.store, rfl⟩, fun _ _ => trivial⟩
  selectRows p name statement expected args s t hst := by
    have hcall : (e'.selectRows p name statement expected args).on t =
        (e.selectRows p name statement expected args).on ⟨t.store, s.storage⟩ := by
      unfold selectRows
      rw [h.executor, h.settings, ← hst.storage]
    rw [hcall]
    exact ⟨rfl, ⟨hst.store, rfl⟩, fun _ _ => trivial⟩

theorem Agrees.prepare_paired (hc : c.Everywhere Json.Regular) (name : String) {request : Request}
    (hrequest : request.context = c) :
    Paired (Session.Agrees c) (fun p => p.request.context = c) (e.prepare name request)
      (e'.prepare name request) := by
  intro s t hst
  obtain ⟨hplan, hstore⟩ := hst.store.plan h.workshop name
  have hanswer : (t.store.prepare e'.workshop name request).1 =
      (s.store.prepare e.workshop name request).1 :=
    hplan.bind_eq fun _ _ hp => hp.prepare_eq hc hrequest
  refine ⟨hanswer, ⟨hstore, hst.storage⟩, fun p hp => ?_⟩
  have hprepared : (s.store.plan e.workshop name).1.bind (·.prepare request) = .ok p := hp
  cases hmade : (s.store.plan e.workshop name).1 with
  | error error =>
    rw [hmade] at hprepared
    cases hprepared
  | ok plan =>
    rw [hmade] at hprepared
    exact (Plan.context_of_prepare hprepared).trans hrequest

variable (hc : c.Everywhere Json.Regular)

include hc

theorem Agrees.runFetch_paired {nested nested' : Nested σ}
    (hn : ∀ path name request size, request.context = c →
      RunsAgree c (nested path name request size) (nested' path name request size))
    {p : Prepared} (hp : p.request.context = c) (path : List String) (rows : List Row) (f : Fetch) :
    RunsAgree c (e.runFetch nested path p rows f) (e'.runFetch nested' path p rows f) := by
  have hbindings : ({ p.request.bindings with rows := some rows } : Bindings).context = c := hp
  have hwanted := h.wanted_eq hc p.name f hbindings
  have hevaluate : (fun script => e'.evaluate p.name script
      { p.request.bindings with rows := some rows }) = fun script => e.evaluate p.name script
        { p.request.bindings with rows := some rows } :=
    funext fun script => h.evaluate_eq hc p.name script hbindings
  have hinject := h.injectRows_eq hc p.name f hbindings
  unfold runFetch
  by_cases heager : f.eager = true
  · simp only [heager, Bool.not_true, Bool.false_eq_true, if_false, hwanted, hevaluate, hinject]
    refine paired_bind (paired_lift fun _ _ => trivial) fun wanted _ => ?_
    by_cases hwanted : wanted = true
    · simp only [hwanted, Bool.not_true, Bool.false_eq_true, if_false]
      refine paired_bind (paired_lift fun _ _ => trivial) fun criteria _ => ?_
      have hrest := paired_bind (hn (path ++ [f.target]) f.target
        { criteria, context := p.request.context } f.maxSize hp) fun fetched _ =>
          paired_lift (S := Session.Agrees c) (Q := fun _ => True)
            (x := e.injectRows p.name f { p.request.bindings with rows := some rows } fetched rows)
            fun _ _ => trivial
      by_cases hpath : path.contains f.target = true
      · simp only [hpath, if_true]
        exact paired_bind (Q := fun _ => True) (paired_throw _) fun _ _ => hrest
      · simp only [hpath]
        exact hrest
    · simp only [hwanted]
      exact paired_pure trivial
  · simp only [heager]
    exact paired_pure trivial

theorem Agrees.complete_paired {nested nested' : Nested σ}
    (hn : ∀ path name request size, request.context = c →
      RunsAgree c (nested path name request size) (nested' path name request size))
    (path : List String) (p : Prepared) (rows : List Row) (hp : p.request.context = c) :
    RunsAgree c (e.complete nested path p rows) (e'.complete nested' path p rows) := by
  unfold complete runFetches
  refine paired_bind (Q := fun _ => True) ?_ fun rows _ => ?_
  · by_cases hrows : rows.isEmpty = true
    · simp only [hrows, if_true]
      exact paired_pure trivial
    · simp only [hrows]
      exact paired_foldlM (fun rows f => h.runFetch_paired hc hn hp path rows f) _ rows
  · rw [h.handleHints_eq hc hp]
    exact paired_lift fun _ _ => trivial

/-- The context goes down to any depth. -/
theorem Agrees.selectWithin_paired (depth : Nat) : ∀ path name request maximum,
    request.context = c → RunsAgree c (e.selectWithin depth path name request maximum)
      (e'.selectWithin depth path name request maximum) := by
  induction depth with
  | zero => exact fun _ name _ _ _ => paired_throw (.notFound name)
  | succ depth ih =>
    intro path name request maximum hrequest
    refine h.callsPaired.selectBy (h.prepare_paired hc name hrequest) ?_ maximum
    exact h.complete_paired hc
      (fun path name request size hcontext => ih path name request (some size) hcontext) path

end

/-- What an operation of the caller comes to, with one engine and with the other. -/
structure OperationsAgree (c : Json) (e e' : Engine σ) (name : String) (request : Request) :
    Prop where
  get : RunsAgree c (e.get name request) (e'.get name request)
  select : RunsAgree c (e.select name request) (e'.select name request)
  page : RunsAgree c (e.page name request) (e'.page name request)
  forward : RunsAgree c (e.forward name request) (e'.forward name request)

/-- Native scripts, chunks and handlers may do in other contexts whatever they do: if they do the
same in the context of the caller, then all operations do. So in the course of a call each of them
is given this context and no other, at any depth of the fetches and also where the call fails. -/
theorem calls_keep_context {e e' : Engine σ} {name : String} {request : Request}
    (h : e.Agrees request.context e') (hcontext : request.context.Everywhere Json.Regular) :
    OperationsAgree request.context e e' name request := by
  have hcalls := h.callsPaired
  have hprepare := h.prepare_paired hcontext name (rfl : request.context = request.context)
  have hcomplete := fun depth => h.complete_paired hcontext
    (fun path name r size hr => h.selectWithin_paired hcontext depth path name r (some size) hr)
    [name]
  constructor
  · exact paired_bind hcalls.depth fun depth _ => hcalls.getBy hprepare (hcomplete depth)
  · refine paired_bind hcalls.depth fun depth _ => ?_
    exact h.selectWithin_paired hcontext depth [name] name request none rfl
  · exact paired_bind hcalls.depth fun depth _ => hcalls.pageBy hprepare (hcomplete depth)
  · exact paired_bind hcalls.depth fun depth _ => hcalls.forwardBy hprepare (hcomplete depth)

end Engine

/-! Scripts and handlers that fail wherever they are given another context. -/

noncomputable section

open Classical in
def Lua.Script.guarded (c : Json) (x : Lua.Script) : Lua.Script :=
  ⟨fun s => if s.Sees c then x.start s else .fault (.raised "another context")⟩

open Classical in
def NativeScript.guarded (c : Json) (n : NativeScript) : NativeScript where
  statement criteria context :=
    if context = c then n.statement criteria context else .error "another context"
  evaluate b := if b.context = c then n.evaluate b else .error "another context"

open Classical in
def HintHandler.guarded (c : Json) (handle : HintHandler) : HintHandler := fun p hint rows =>
  if p.request.context = c then handle p hint rows else .error (.notFound "another context")

def Workshop.guarded (c : Json) (w : Workshop) : Workshop :=
  { w with
    natives := w.natives.map fun entry => (entry.1, entry.2.guarded c)
    lua := fun code => (w.lua code).map (·.guarded c) }

def Engine.guarded (c : Json) (e : Engine σ) : Engine σ :=
  { e with
    workshop := e.workshop.guarded c
    handlers := e.handlers.map fun entry => (entry.1, entry.2.guarded c) }

end

theorem Workshop.guarded_agrees (c : Json) (w : Workshop) : w.Agrees c (w.guarded c) where
  kinds := rfl
  natives name := by
    refine Dictionary.rel_find?_map (f := NativeScript.guarded c) (fun n => ?_) w.natives _
    exact ⟨fun _ => if_pos rfl, fun _ hb => if_pos hb⟩
  lua code := by
    change Alike _ (w.lua code) ((w.lua code).map (·.guarded c))
    cases w.lua code with
    | error failure => exact .error failure
    | ok x => exact .ok fun _ hsees => if_pos hsees

theorem Engine.guarded_agrees (c : Json) (e : Engine σ) : e.Agrees c (e.guarded c) where
  executor := rfl
  dialect := rfl
  settings := rfl
  workshop := e.workshop.guarded_agrees c
  handlers key := by
    refine Dictionary.rel_find?_map (f := HintHandler.guarded c) (fun handle => ?_) e.handlers key
    exact fun _ _ _ hp => if_pos hp

namespace Engine

/-- Users of a tenant, whose visits are fetched where there is a tenant. -/
def tenantCatalog : Catalog :=
  let native (code : String) : ScriptDefinition := { kind := some .native, code := some code }
  let visits : FetchDefinition :=
    { reference := "visits"
      predicate := some (native "tenant")
      injection := some (native "keep")
      parameters := [{ name := "tenant", source := .script, script := some (native "tenant") }] }
  Catalog.ofDefinitions
    [{ name := "users"
       script := { kind := some .literal, code := some "SELECT * FROM users" }
       fetches := [visits]
       hints := [{ key := "trim", script := some (native "keep") }] },
      { name := "visits"
        script := { kind := some .literal, code := some "SELECT * FROM visits WHERE tenant = :tenant" }
        hints := [{ key := "mask", script := some (native "keep") }] }]

def tenantEngine : Engine Unit where
  executor :=
    { get := fun _ _ _ s => (.ok (some [("id", .int 1)]), s)
      select := fun _ _ _ _ s => (.ok [[("id", .int 1)]], s) }
  workshop :=
    { natives :=
        [("keep", { evaluate := fun _ => .ok .null }),
          ("tenant", { evaluate := fun b => .ok (b.context.field "tenant") })] }

def tenantRequest : Request := { context := .obj [("tenant", .str "north")] }

def tenantSession : Session Unit := ⟨{ catalog := tenantCatalog, running := true }, ()⟩

theorem tenantSession_agrees (c : Json) : tenantSession.Agrees c tenantSession :=
  ⟨⟨rfl, rfl, fun _ => .none⟩, rfl⟩

theorem tenantContext_regular : tenantRequest.context.Everywhere Json.Regular := by
  simp [tenantRequest, Json.Everywhere, Json.EveryField, Json.Regular]

/-- No script of the tenant notices that it would fail in another context. -/
theorem guarded_tenant_answers :
    tenantEngine.Agrees tenantRequest.context (tenantEngine.guarded tenantRequest.context) ∧
    tenantRequest.context.Everywhere Json.Regular ∧
    (((tenantEngine.guarded tenantRequest.context).get "users" tenantRequest).on
      tenantSession).1.toOption == some (some [("id", .int 1)]) := by
  have hagrees := tenantEngine.guarded_agrees tenantRequest.context
  refine ⟨hagrees, tenantContext_regular, ?_⟩
  have hcalls : OperationsAgree _ _ _ "users" tenantRequest :=
    calls_keep_context hagrees tenantContext_regular
  have hget := hcalls.get tenantSession tenantSession (tenantSession_agrees _)
  rw [hget.answer]
  decide +kernel

end Engine

end QueryCatalog
