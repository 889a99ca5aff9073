import QueryCatalog.Proofs.Engine.Run
import QueryCatalog.Proofs.Mapping.References

/-!
Which parts of an operation can report that a limit is passed: a cycle of fetches, or a result that
exceeds its size. Preparation, the calls of the storage, scripts, conversions and the hints that
the engine knows by itself fail in other ways only.
-/
namespace QueryCatalog

variable {α β ε : Type}

/-- Failures that the engine decides on by itself. -/
def ErrorKind.isLimit : ErrorKind → Bool
  | .sizeExceeded => true
  | .fetchCycle => true
  | _ => false

theorem ErrorKind.ne_of_isLimit {k j : ErrorKind} (hk : k.isLimit = true)
    (hj : j.isLimit = false) : j ≠ k := by
  rintro rfl
  rw [hj] at hk
  cases hk

/-- It does not fail in this way. -/
def Avoids (k : ErrorKind) (x : Except QueryError α) : Prop :=
  ∀ error, x = .error error → error.kind ≠ k

/-- It does not report a cycle. -/
def Quiet (x : Except QueryError α) : Prop := ∀ path, x ≠ .error (.fetchCycle path)

theorem SettingsError.kind_not_limit (error : SettingsError) : error.kind.isLimit = false := by
  cases error <;> rfl

theorem quiet_iff {x : Except QueryError α} : Quiet x ↔ Avoids .fetchCycle x := by
  constructor
  · intro h error hx hkind
    cases error with
    | fetchCycle path => exact h path hx
    | settings error => exact ErrorKind.ne_of_isLimit rfl error.kind_not_limit hkind
    | _ => cases hkind
  · exact fun h path hx => h _ hx rfl

theorem quiet_ok (a : α) : Quiet (.ok a : Except QueryError α) := by
  intro path h
  cases h

variable {k : ErrorKind}

theorem avoids_ok (a : α) : Avoids k (.ok a : Except QueryError α) := by
  intro error h
  cases h

theorem avoids_error {error : QueryError} (h : error.kind ≠ k) :
    Avoids k (.error error : Except QueryError α) := by
  intro found heq
  rwa [← Except.error.inj heq]

theorem avoids_mapError {x : Except ε α} {g : ε → QueryError} (h : ∀ e, (g e).kind ≠ k) :
    Avoids k (x.mapError g) := by
  cases x with
  | ok a => exact avoids_ok a
  | error e => exact avoids_error (h e)

theorem avoids_bind {x : Except QueryError α} {f : α → Except QueryError β} (hx : Avoids k x)
    (hf : ∀ a, Avoids k (f a)) : Avoids k (x >>= f) := by
  cases x with
  | ok a => exact hf a
  | error e => exact avoids_error (hx e rfl)

theorem avoids_map {x : Except QueryError α} (f : α → β) (hx : Avoids k x) :
    Avoids k (x.map f) := by
  cases x with
  | ok a => exact avoids_ok (f a)
  | error e => exact avoids_error (hx e rfl)

theorem avoids_foldlM {f : β → α → Except QueryError β} (hf : ∀ b a, Avoids k (f b a))
    (items : List α) : ∀ b, Avoids k (items.foldlM f b) := by
  induction items with
  | nil => exact fun b => avoids_ok b
  | cons a rest ih =>
    intro b
    rw [List.foldlM_cons]
    exact avoids_bind (hf b a) ih

theorem avoids_mapM {f : α → Except QueryError β} (hf : ∀ a, Avoids k (f a)) (items : List α) :
    Avoids k (items.mapM f) := by
  induction items with
  | nil => exact avoids_ok []
  | cons a rest ih =>
    rw [List.mapM_cons]
    exact avoids_bind (hf a) fun b => avoids_bind ih fun bs => avoids_ok (b :: bs)

section Limit

variable (hk : k.isLimit = true)

include hk

/-- A failure of another kind than the limits. -/
theorem avoids_other {error : QueryError} (h : error.kind.isLimit = false) :
    Avoids k (.error error : Except QueryError α) := avoids_error (ErrorKind.ne_of_isLimit hk h)

theorem avoids_mapError_other {x : Except ε α} {g : ε → QueryError}
    (h : ∀ e, (g e).kind.isLimit = false) : Avoids k (x.mapError g) :=
  avoids_mapError fun e => ErrorKind.ne_of_isLimit hk (h e)

theorem Plan.avoids_create (w : Workshop) (q : Query) : Avoids k (create w q) := by
  unfold create
  split_ifs
  · exact avoids_mapError_other hk fun _ => rfl
  · exact avoids_other hk rfl

theorem Plan.avoids_convert (q : Query) (request : Request) : Avoids k (convert q request) := by
  unfold convert
  cases Convert.criteria q.parameterTypes request.criteria with
  | ok criteria => exact avoids_ok _
  | error e => exact avoids_other hk rfl

theorem Body.avoids_statement (b : Body) (query : String) (request : Request) :
    Avoids k (b.statement query request) := by
  cases b with
  | template nodes => exact avoids_mapError_other hk fun _ => rfl
  | lua chunk => exact avoids_mapError_other hk fun _ => rfl
  | native script => exact avoids_mapError_other hk fun _ => rfl
  | literal text => exact avoids_mapError_other hk fun _ => rfl

theorem Plan.avoids_prepare (p : Plan) (request : Request) : Avoids k (p.prepare request) := by
  refine avoids_bind (avoids_convert hk _ _) fun converted =>
    avoids_bind (p.body.avoids_statement hk _ _) fun bound => ?_
  dsimp only
  split_ifs
  · exact avoids_other hk rfl
  · exact avoids_ok _

namespace PlanStore

theorem avoids_plan (w : Workshop) (s : PlanStore) (name : String) :
    Avoids k (s.plan w name).1 := by
  unfold plan
  split_ifs
  · exact avoids_other hk rfl
  · cases s.plans.find? name with
    | some p => exact avoids_ok p
    | none =>
      have hquery : Avoids k (s.query name) := by
        unfold query
        cases s.catalog.find? name with
        | some q => exact avoids_ok q
        | none => exact avoids_other hk rfl
      have hmade : Avoids k ((s.query name).bind (Plan.create w)) :=
        avoids_bind hquery (Plan.avoids_create hk w)
      cases hcreate : (s.query name).bind (Plan.create w) with
      | ok p => exact avoids_ok p
      | error e =>
        rw [hcreate] at hmade
        exact hmade

theorem avoids_prepare (w : Workshop) (s : PlanStore) (name : String) (request : Request) :
    Avoids k (s.prepare w name request).1 :=
  avoids_bind (avoids_plan hk w s name) fun p => p.avoids_prepare hk request

end PlanStore

theorem Prepared.avoids_final (p : Prepared) : Avoids k p.final := by
  unfold final
  split_ifs
  · exact avoids_ok _
  · exact avoids_mapError_other hk fun _ => rfl

theorem ParameterType.avoids_parse (name : String) : Avoids k (parse name) := by
  unfold parse
  cases ofName? name with
  | some type => exact avoids_ok type
  | none => exact avoids_other hk rfl

namespace HintHandler

theorem avoids_fieldConvert (p : Prepared) (hint : Hint) (rows : List Row) :
    Avoids k (fieldConvert p hint rows) := by
  have hfield : ∀ field type row, Avoids k (convertField p.name field type row) := by
    intro field type row
    unfold convertField
    cases row.get? field with
    | none => exact avoids_ok row
    | some v =>
      dsimp only
      cases Convert.value type v with
      | ok w => exact avoids_ok _
      | error e => exact avoids_other hk rfl
  unfold fieldConvert
  cases hint.parameter "target-type" with
  | nil => exact avoids_ok rows
  | cons target others =>
    refine avoids_bind (ParameterType.avoids_parse hk target) fun type => ?_
    exact avoids_foldlM (fun rows field => avoids_mapM (hfield field type) rows) _ rows

omit hk in
theorem avoids_aggregation (p : Prepared) (hint : Hint) (rows : List Row) :
    Avoids k (aggregation p hint rows) := by
  unfold aggregation
  split
  · exact avoids_ok _
  · exact avoids_ok _

end HintHandler

namespace HintHandlers

/-- None of the handlers fails in this way. -/
def AllAvoid (handlers : HintHandlers) (k : ErrorKind) : Prop :=
  ∀ key handle, Dictionary.find? handlers key = some handle →
    ∀ p hint rows, Avoids k (handle p hint rows)

theorem standard_avoids : standard.AllAvoid k := by
  intro key handle h p hint rows
  have hmem := Dictionary.mem_of_find?_ofList h
  simp only [List.mem_cons, Prod.mk.injEq, List.not_mem_nil, or_false] at hmem
  rcases hmem with ⟨-, rfl⟩ | ⟨-, rfl⟩
  · exact HintHandler.avoids_fieldConvert hk p hint rows
  · exact HintHandler.avoids_aggregation p hint rows

theorem avoids_runScript (w : Workshop) (p : Prepared) (hint : Hint) (script : Script)
    (rows : List Row) : Avoids k (runScript w p hint script rows) := by
  refine avoids_bind (avoids_mapError_other hk fun _ => rfl) fun answer => ?_
  split_ifs
  · exact avoids_ok rows
  · cases answer.rows? with
    | some given => exact avoids_ok given
    | none => exact avoids_other hk rfl

theorem AllAvoid.apply {handlers : HintHandlers} (h : handlers.AllAvoid k) (w : Workshop)
    (p : Prepared) (rows : List Row) : Avoids k (handlers.apply w p rows) := by
  refine avoids_foldlM (fun rows hint => ?_) _ rows
  unfold applyHint
  cases hint.script with
  | some script => exact avoids_runScript hk w p hint script rows
  | none =>
    cases hfind : Dictionary.find? handlers hint.key with
    | some handle => exact h hint.key handle hfind p hint rows
    | none => exact avoids_ok rows

end HintHandlers

theorem Parameter.avoids_resolve (p : Parameter) (owner : String)
    {evaluate : Script → Except QueryError Json} (h : ∀ script, Avoids k (evaluate script))
    (criteria : Json) (rows : List Row) : Avoids k (p.resolve owner evaluate criteria rows) := by
  have hsource : Avoids k (p.sourceValue evaluate criteria rows) := by
    unfold sourceValue
    cases p.source with
    | parentParameter => exact avoids_ok _
    | parentResultField => exact avoids_ok _
    | constant => exact avoids_ok _
    | script =>
      cases p.script with
      | some script => exact h script
      | none => exact avoids_ok _
  refine avoids_bind hsource fun v => avoids_bind ?_ fun w => avoids_ok _
  unfold converted
  cases p.type with
  | none => exact avoids_ok _
  | some type => exact avoids_mapError_other hk fun _ => rfl

theorem Fetch.avoids_criteria (f : Fetch) (owner : String)
    {evaluate : Script → Except QueryError Json} (h : ∀ script, Avoids k (evaluate script))
    (criteria : Json) (rows : List Row) : Avoids k (f.criteria owner evaluate criteria rows) := by
  refine avoids_bind ?_ fun row => avoids_ok _
  exact avoids_foldlM (fun row p => avoids_bind (p.avoids_resolve hk owner h criteria rows)
    fun value => avoids_ok _) _ _

namespace Engine

variable {σ : Type} (e : Engine σ)

theorem avoids_evaluate (owner : String) (script : Script) (bindings : Bindings) :
    Avoids k (e.evaluate owner script bindings) := avoids_mapError_other hk fun _ => rfl

theorem avoids_wanted (owner : String) (f : Fetch) (bindings : Bindings) :
    Avoids k (e.wanted owner f bindings) := by
  unfold wanted
  cases f.predicate with
  | none => exact avoids_ok true
  | some script => exact avoids_map _ (e.avoids_evaluate hk owner script bindings)

theorem avoids_injectRows (owner : String) (f : Fetch) (bindings : Bindings)
    (fetched rows : List Row) : Avoids k (e.injectRows owner f bindings fetched rows) := by
  unfold injectRows
  cases f.injection with
  | none => cases f.property <;> exact avoids_ok _
  | some script =>
    refine avoids_bind (e.avoids_evaluate hk _ _ _) fun answer => ?_
    split_ifs
    · exact avoids_ok rows
    · cases answer.rows? with
      | some given => exact avoids_ok given
      | none => exact avoids_other hk rfl

theorem avoids_prepare (name : String) (request : Request) (s : Session σ) :
    Avoids k ((e.prepare name request).on s).1 := s.store.avoids_prepare hk e.workshop name request

theorem avoids_call {α : Type} (name : String) (action : σ → Except String α × σ) (s : Session σ) :
    Avoids k ((call name action : Run σ α).on s).1 := by
  have hanswer : ((call name action : Run σ α).on s).1 =
      (action s.storage).1.mapError (.execution name) := rfl
  rw [hanswer]
  exact avoids_mapError_other hk fun _ => rfl

end Engine

end Limit

namespace Engine

variable {σ : Type} (e : Engine σ)

/-- The policy decides whether a size is reported; a cycle never is. -/
theorem avoids_capped (h : k = .sizeExceeded → e.settings.sizeViolation = .truncate) (name : String)
    (maximum : Nat) (rows : List Row) : Avoids k (e.capped name maximum rows) := by
  unfold capped
  split_ifs
  · exact avoids_ok rows
  · cases hpolicy : e.settings.sizeViolation with
    | raise =>
      refine avoids_error fun hk => ?_
      rw [h hk.symm] at hpolicy
      cases hpolicy
    | truncate => exact avoids_ok _

end Engine

/-! None of these reports a cycle. -/

theorem Prepared.quiet_final (p : Prepared) : Quiet p.final := quiet_iff.mpr (p.avoids_final rfl)

namespace HintHandlers

/-- None of the handlers reports a cycle. -/
def AllQuiet (handlers : HintHandlers) : Prop :=
  ∀ key handle, Dictionary.find? handlers key = some handle →
    ∀ p hint rows, Quiet (handle p hint rows)

theorem standard_quiet : standard.AllQuiet := fun key handle h p hint rows =>
  quiet_iff.mpr (standard_avoids rfl key handle h p hint rows)

theorem AllQuiet.apply {handlers : HintHandlers} (h : handlers.AllQuiet) (w : Workshop)
    (p : Prepared) (rows : List Row) : Quiet (handlers.apply w p rows) := by
  have havoid : handlers.AllAvoid .fetchCycle := fun key handle hfind p hint rows =>
    quiet_iff.mp (h key handle hfind p hint rows)
  exact quiet_iff.mpr (havoid.apply rfl w p rows)

end HintHandlers

theorem Fetch.quiet_criteria (f : Fetch) (owner : String)
    {evaluate : Script → Except QueryError Json} (h : ∀ script, Quiet (evaluate script))
    (criteria : Json) (rows : List Row) : Quiet (f.criteria owner evaluate criteria rows) :=
  quiet_iff.mpr (f.avoids_criteria rfl owner (fun script => quiet_iff.mp (h script)) criteria rows)

namespace Engine

variable {σ : Type} (e : Engine σ)

theorem quiet_evaluate (owner : String) (script : Script) (bindings : Bindings) :
    Quiet (e.evaluate owner script bindings) :=
  quiet_iff.mpr (e.avoids_evaluate rfl owner script bindings)

theorem quiet_wanted (owner : String) (f : Fetch) (bindings : Bindings) :
    Quiet (e.wanted owner f bindings) := quiet_iff.mpr (e.avoids_wanted rfl owner f bindings)

theorem quiet_injectRows (owner : String) (f : Fetch) (bindings : Bindings)
    (fetched rows : List Row) : Quiet (e.injectRows owner f bindings fetched rows) :=
  quiet_iff.mpr (e.avoids_injectRows rfl owner f bindings fetched rows)

theorem quiet_capped (name : String) (maximum : Nat) (rows : List Row) :
    Quiet (e.capped name maximum rows) :=
  quiet_iff.mpr (e.avoids_capped (k := .fetchCycle) nofun name maximum rows)

theorem quiet_prepare (name : String) (request : Request) (s : Session σ) :
    Quiet ((e.prepare name request).on s).1 := quiet_iff.mpr (e.avoids_prepare rfl name request s)

theorem quiet_call {α : Type} (name : String) (action : σ → Except String α × σ) (s : Session σ) :
    Quiet ((call name action : Run σ α).on s).1 := quiet_iff.mpr (avoids_call rfl name action s)

end Engine

end QueryCatalog
