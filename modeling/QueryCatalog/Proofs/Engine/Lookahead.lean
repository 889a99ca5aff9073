import QueryCatalog.Proofs.Engine.Parallel

/-!
Rows that are read only to be noticed. A window and a capped selection read one row too many, and a
page cuts what exceeds it; the rows that are cut influence neither the answer nor any statement
that follows.
-/
namespace QueryCatalog

variable {σ τ α : Type}

/-- Rows that a cap makes the same: they are the same, or both exceed it and agree up to it. -/
def SameUpTo (cap : Nat) (rows others : List Row) : Prop :=
  rows = others ∨ (cap < rows.length ∧ cap < others.length ∧ rows.take cap = others.take cap)

theorem SameUpTo.refl (cap : Nat) (rows : List Row) : SameUpTo cap rows rows := .inl rfl

theorem SameUpTo.take_eq {cap : Nat} {rows others : List Row} (h : SameUpTo cap rows others) :
    rows.take cap = others.take cap := by
  rcases h with rfl | ⟨-, -, htake⟩
  · rfl
  · exact htake

theorem SameUpTo.exceeds_iff {cap : Nat} {rows others : List Row} (h : SameUpTo cap rows others) :
    cap < rows.length ↔ cap < others.length := by
  rcases h with rfl | ⟨hrows, hothers, -⟩
  · exact Iff.rfl
  · exact ⟨fun _ => hothers, fun _ => hrows⟩

/-- The same failure, or rows that are the same as far as one looks. -/
inductive SameAnswer (look : List Row → List Row → Prop) :
    Except String (List Row) → Except String (List Row) → Prop
  | error (text : String) : SameAnswer look (.error text) (.error text)
  | ok {rows others : List Row} : look rows others → SameAnswer look (.ok rows) (.ok others)

theorem SameAnswer.refl {look : List Row → List Row → Prop} (h : ∀ rows, look rows rows)
    (answer : Except String (List Row)) : SameAnswer look answer answer := by
  cases answer with
  | error text => exact .error text
  | ok rows => exact .ok (h rows)

/-- How an operation opens: the statement whose rows it reads, how many it expects, and how far it
looks at them. -/
structure Opening where
  statement : Prepared → BoundStatement → String
  expected : Prepared → Nat
  look : Prepared → List Row → List Row → Prop

namespace Engine

/-- Reads the rows of a prepared query and goes on with them. -/
def reading (e : Engine σ) (o : Opening) (name : String) (request : Request)
    (rest : Prepared → BoundStatement → List Row → Run σ α) : Run σ α := do
  let p ← e.prepare name request
  let final ← p.final
  let found ← e.selectRows p name (o.statement p final) (o.expected p) final.args
  rest p final found

/-- Whatever the request is prepared to, the executors answer the first call alike as far as the
operation looks, and their states go on to correspond. -/
def OpensAlike {ρ : Type} (e : Engine ρ) (o : Opening) (name : String) (request : Request)
    (x : Executor σ) (z : Executor τ) (R : σ → τ → Prop) (s : Session σ) (t : Session τ) : Prop :=
  ∀ p final, (s.store.prepare e.workshop name request).1 = .ok p → p.final = .ok final →
    SameAnswer (o.look p)
      (x.select (o.statement p final) (o.expected p) (e.settings.timeoutOf p.query) final.args
        s.storage).1
      (z.select (o.statement p final) (o.expected p) (e.settings.timeoutOf p.query) final.args
        t.storage).1 ∧
    R (x.select (o.statement p final) (o.expected p) (e.settings.timeoutOf p.query) final.args
        s.storage).2
      (z.select (o.statement p final) (o.expected p) (e.settings.timeoutOf p.query) final.args
        t.storage).2

section Reading

variable {ω : Type} {e : Engine ω} {x : Executor σ} {z : Executor τ}
  {R : σ × List BoundStatement → τ → Prop}
  {name : String} {request : Request}

/-- Where the rows of a call do not differ as far as one looks, what is done with them decides. -/
theorem selectRows_agrees {p : Prepared} {statement : String} {expected : Nat} {args : List Json}
    {look : List Row → List Row → Prop} {s : Session (σ × List BoundStatement)} {t : Session τ}
    {f : List Row → Run (σ × List BoundStatement) α} {f' : List Row → Run τ α}
    (hstore : s.store = t.store)
    (hanswer : SameAnswer look
      (x.recorded.select statement expected (e.settings.timeoutOf p.query) args s.storage).1
      (z.select statement expected (e.settings.timeoutOf p.query) args t.storage).1)
    (hstorage :
      R (x.recorded.select statement expected (e.settings.timeoutOf p.query) args s.storage).2
        (z.select statement expected (e.settings.timeoutOf p.query) args t.storage).2)
    (hf : ∀ rows others, look rows others → InStep x z R (f rows) (f' others))
    (hlater : ∀ later,
      calls (((e.withExecutor x.recorded).selectRows p name statement expected args >>= f).on s).2 =
        calls s ++ ⟨statement, args⟩ :: later → ∀ c ∈ later, x.recorded.Alike z R c) :
    SameOutcome R
      (((e.withExecutor x.recorded).selectRows p name statement expected args >>= f).on s)
      (((e.withExecutor z).selectRows p name statement expected args >>= f').on t) := by
  rcases hx : x.recorded.select statement expected (e.settings.timeoutOf p.query) args s.storage
    with ⟨answer, a⟩
  rcases hz : z.select statement expected (e.settings.timeoutOf p.query) args t.storage
    with ⟨answer', b⟩
  rw [hx, hz] at hanswer hstorage
  have hleft := on_selectRows (e := e.withExecutor x.recorded) hx name
  have hright := on_selectRows (e := e.withExecutor z) hz name
  have hcall := calls_selectRows (e := e.withExecutor x) p name statement expected args s
  cases hanswer with
  | error text =>
    rw [Run.on_bind_error hleft, Run.on_bind_error hright]
    exact ⟨rfl, hstore, hstorage⟩
  | @ok rows others hlook =>
    rw [Run.on_bind_ok hleft] at hlater ⊢
    rw [Run.on_bind_ok hright]
    have hcalls : calls ({ s with storage := a } : Session (σ × List BoundStatement)) =
        calls s ++ [⟨statement, args⟩] := (congrArg (fun r => calls r.2) hleft).symm.trans hcall
    obtain ⟨later, hgrown⟩ := (hf rows others hlook).grows { s with storage := a }
    refine (hf rows others hlook).agree _ _ later hstore hstorage hgrown.symm (hlater later ?_)
    rw [← hgrown, hcalls, List.append_assoc]
    rfl

/-- Two readings have the same outcome if their first answers do not differ where they look, and
all later calls are answered alike. -/
theorem reading_agrees {o : Opening}
    {rest : Prepared → BoundStatement → List Row → Run (σ × List BoundStatement) α}
    {rest' : Prepared → BoundStatement → List Row → Run τ α}
    {s : Session (σ × List BoundStatement)} {t : Session τ} (hstore : s.store = t.store)
    (hstorage : R s.storage t.storage)
    (hopening : OpensAlike e o name request x.recorded z R s t)
    (hrest : ∀ p final rows others, o.look p rows others →
      InStep x z R (rest p final rows) (rest' p final others))
    (hlater : ∀ first later,
      calls (((e.withExecutor x.recorded).reading o name request rest).on s).2 =
          calls s ++ first :: later →
        ∀ c ∈ later, x.recorded.Alike z R c) :
    SameOutcome R (((e.withExecutor x.recorded).reading o name request rest).on s)
      (((e.withExecutor z).reading o name request rest').on t) := by
  unfold reading at hlater ⊢
  have hprepare := (inStep_prepare (e := e) (x := x) (z := z) (R := R) name request).agree s t []
    hstore hstorage (List.append_nil _).symm (by simp)
  rcases hleft : ((e.withExecutor x.recorded).prepare name request).on s with ⟨answer, u⟩
  rcases hright : ((e.withExecutor z).prepare name request).on t with ⟨answer', v⟩
  rw [hleft, hright] at hprepare
  obtain rfl : answer = answer' := hprepare.answer
  cases answer with
  | error error =>
    rw [Run.on_bind_error hleft, Run.on_bind_error hright]
    exact ⟨rfl, hprepare.store, hprepare.storage⟩
  | ok p =>
    rw [Run.on_bind_ok hleft] at hlater ⊢
    rw [Run.on_bind_ok hright]
    have hp : (s.store.prepare e.workshop name request).1 = .ok p := congrArg Prod.fst hleft
    have hu : u.storage = s.storage := (congrArg (fun r => r.2.storage) hleft).symm
    have hv : v.storage = t.storage := (congrArg (fun r => r.2.storage) hright).symm
    have hcalls : calls u = calls s := congrArg Prod.snd hu
    cases hfinal : p.final with
    | error error =>
      rw [Run.on_bind_lift_error, Run.on_bind_lift_error]
      exact ⟨rfl, hprepare.store, hprepare.storage⟩
    | ok final =>
      rw [hfinal, Run.on_bind_lift_ok] at hlater
      rw [Run.on_bind_lift_ok, Run.on_bind_lift_ok]
      obtain ⟨hanswer, hafter⟩ := hopening p final hp hfinal
      rw [← hu, ← hv] at hanswer hafter
      refine selectRows_agrees hprepare.store hanswer hafter (hrest p final) fun later hgrown => ?_
      exact hlater ⟨o.statement p final, final.args⟩ later (by rw [hgrown, hcalls])

end Reading

/-- An operation, on an engine over any executor, that opens with a statement for the rows of its
query and does the same with any rows that look the same. -/
def Opens (e : Engine σ) (o : Opening) (name : String) (request : Request)
    (op : {ρ : Type} → Executor ρ → Run ρ α) : Prop :=
  ∃ rest : {ρ : Type} → Executor ρ → Nat → Prepared → BoundStatement → List Row → Run ρ α,
    (∀ {ρ : Type} (z : Executor ρ) (s : Session ρ), (op z).on s =
      ((e.withExecutor z).reading o name request (rest z s.store.catalog.length)).on s) ∧
    ∀ {ρ τ : Type} {x : Executor ρ} {z : Executor τ} {R : ρ × List BoundStatement → τ → Prop}
      (depth : Nat) (p : Prepared) (final : BoundStatement) (rows others : List Row),
      o.look p rows others →
        InStep x z R (rest x.recorded depth p final rows) (rest z depth p final others)

theorem Opens.agrees {e : Engine σ} {o : Opening} {name : String} {request : Request}
    {op : {ρ : Type} → Executor ρ → Run ρ α} (hop : e.Opens o name request op) {ρ τ : Type}
    {x : Executor ρ} {z : Executor τ} {R : ρ × List BoundStatement → τ → Prop}
    {s : Session (ρ × List BoundStatement)} {t : Session τ} (hstore : s.store = t.store)
    (hstorage : R s.storage t.storage) (hopening : OpensAlike e o name request x.recorded z R s t)
    (hlater : ∀ first later, calls ((op x.recorded).on s).2 = calls s ++ first :: later →
      ∀ c ∈ later, x.recorded.Alike z R c) :
    SameOutcome R ((op x.recorded).on s) ((op z).on t) := by
  obtain ⟨rest, hreading, hrest⟩ := hop
  rw [hreading] at hlater
  rw [hreading, hreading, ← hstore]
  exact reading_agrees hstore hstorage hopening (hrest s.store.catalog.length) hlater

/-- The executors answer alike while an operation runs, but for the rows of its first call where it
does not look. -/
structure AlikeBeyond (e : Engine σ) (x : Executor σ) (y : Executor τ) (R : σ → τ → Prop)
    (o : Opening) (name : String) (request : Request) (op : {ρ : Type} → Executor ρ → Run ρ α)
    (s : Session σ) (t : Session τ) : Prop where
  store : s.store = t.store
  storage : R s.storage t.storage
  opening : OpensAlike e o name request x y R s t
  later : ∀ c ∈ (calls ((op x.recorded).on (recording s)).2).tail, x.Alike y R c

/-- The same answer after the same calls. -/
structure SameRun (x : Executor σ) (y : Executor τ) (op : {ρ : Type} → Executor ρ → Run ρ α)
    (s : Session σ) (t : Session τ) : Prop where
  answer : ((op x).on s).1 = ((op y).on t).1
  calls : calls ((op x.recorded).on (recording s)).2 = calls ((op y.recorded).on (recording t)).2

section Operations

variable {e : Engine σ} {o : Opening} {name : String} {request : Request}
  {op : {ρ : Type} → Executor ρ → Run ρ α}

/-- A record of the calls does not change the answer. -/
theorem Opens.recorded_answer (hop : e.Opens o name request op)
    (hlook : ∀ p rows, o.look p rows rows) {ρ : Type} (x : Executor ρ) (s : Session ρ) :
    ((op x.recorded).on (recording s)).1 = ((op x).on s).1 := by
  have halike : ∀ c, x.recorded.Alike x (fun a b => a.1 = b) c := by
    intro c
    constructor
    · rintro timeout a b rfl
      exact ⟨rfl, rfl⟩
    · rintro expected timeout a b rfl
      exact ⟨rfl, rfl⟩
  refine (hop.agrees (R := fun a b => a.1 = b) rfl rfl ?_ fun _ _ _ c _ => halike c).answer
  intro p final _ _
  exact ⟨SameAnswer.refl (hlook p) _, rfl⟩

/-- Records of executors that answer alike agree if they did so before. -/
theorem alike_recorded {x : Executor σ} {y : Executor τ} {R : σ → τ → Prop} {c : BoundStatement}
    (h : x.Alike y R c) :
    x.recorded.Alike y.recorded (fun a b => R a.1 b.1 ∧ a.2 = b.2) c := by
  constructor
  · rintro timeout a b ⟨hstorage, hlog⟩
    obtain ⟨hanswer, hafter⟩ := h.get timeout a.1 b.1 hstorage
    exact ⟨hanswer, hafter, congrArg (· ++ [_]) hlog⟩
  · rintro expected timeout a b ⟨hstorage, hlog⟩
    obtain ⟨hanswer, hafter⟩ := h.select expected timeout a.1 b.1 hstorage
    exact ⟨hanswer, hafter, congrArg (· ++ [_]) hlog⟩

theorem Opens.sameRun {x : Executor σ} {y : Executor τ} {R : σ → τ → Prop} {s : Session σ}
    {t : Session τ} (hop : e.Opens o name request op) (hlook : ∀ p rows, o.look p rows rows)
    (h : AlikeBeyond e x y R o name request op s t) : SameRun x y op s t := by
  have hsame : SameOutcome (fun a b => R a.1 b.1 ∧ a.2 = b.2)
      ((op x.recorded).on (recording s)) ((op y.recorded).on (recording t)) := by
    refine hop.agrees h.store ⟨h.storage, rfl⟩ ?_ ?_
    · intro p final hp hfinal
      obtain ⟨hanswer, hafter⟩ := h.opening p final hp hfinal
      exact ⟨hanswer, hafter, rfl⟩
    · intro first later hcalls c hc
      refine alike_recorded (h.later c ?_)
      rw [hcalls]
      exact hc
  constructor
  · calc ((op x).on s).1
        = ((op x.recorded).on (recording s)).1 := (hop.recorded_answer hlook x s).symm
      _ = ((op y.recorded).on (recording t)).1 := hsame.answer
      _ = ((op y).on t).1 := hop.recorded_answer hlook y t
  · exact hsame.storage.2

end Operations

/-! How the operations open. -/

variable (e : Engine σ) (name : String) (request : Request)

/-- A window asks for one row more than it holds. -/
def forwardOpening : Opening where
  statement p final := e.dialect.limit final.statement (p.request.offset.getD 0)
    (e.settings.limitOf p.query p.request.limit + 1) p.query.hints
  expected p := e.settings.limitOf p.query p.request.limit + 1
  look p := SameUpTo (e.settings.limitOf p.query p.request.limit)

/-- A page does not look at rows beyond its limit. -/
def pageOpening : Opening where
  statement p final := e.dialect.limit final.statement (p.request.offset.getD 0)
    (e.settings.limitOf p.query p.request.limit) p.query.hints
  expected p := e.settings.limitOf p.query p.request.limit
  look p rows others := rows.take (e.settings.limitOf p.query p.request.limit) =
    others.take (e.settings.limitOf p.query p.request.limit)

/-- A selection expects one row more than it may have. -/
def selectOpening : Opening where
  statement _ final := final.statement
  expected p := expectedFor (e.settings.maxSelectSizeOf p.query)
  look p := SameUpTo (e.settings.maxSelectSizeOf p.query)

theorem forward_opens :
    e.Opens e.forwardOpening name request fun z => (e.withExecutor z).forward name request := by
  refine ⟨fun {ρ} z depth p _ found => do
    let limit := e.settings.limitOf p.query p.request.limit
    let rows ← (e.withExecutor z).complete ((e.withExecutor z).nestedOf (depth + 1)) [name] p
      (found.take limit)
    return { offset := p.request.offset.getD 0, limit, hasNext := limit < found.length, rows },
    fun {ρ} z s => ?_, fun {ρ τ x z R} depth p final rows others hlook => ?_⟩
  · exact on_forward (e.withExecutor z) name request s
  · have hmore : decide (e.settings.limitOf p.query p.request.limit < rows.length) =
        decide (e.settings.limitOf p.query p.request.limit < others.length) :=
      decide_eq_decide.mpr hlook.exceeds_iff
    dsimp only
    rw [hlook.take_eq, hmore]
    exact inStep_bind (inStep_complete (inStep_nestedOf _) _ _ _) fun rows => inStep_pure _

theorem page_opens :
    e.Opens e.pageOpening name request fun z => (e.withExecutor z).page name request := by
  refine ⟨fun {ρ} z depth p final found => do
    let offset := p.request.offset.getD 0
    let limit := e.settings.limitOf p.query p.request.limit
    let rows := found.take limit
    let total ← (e.withExecutor z).total p name final offset limit rows.length
    let rows ← (e.withExecutor z).complete ((e.withExecutor z).nestedOf (depth + 1)) [name] p rows
    return { offset, limit, total, rows },
    fun {ρ} z s => ?_, fun {ρ τ x z R} depth p final rows others hlook => ?_⟩
  · exact on_page (e.withExecutor z) name request s
  · have hsame : rows.take (e.settings.limitOf p.query p.request.limit) =
        others.take (e.settings.limitOf p.query p.request.limit) := hlook
    dsimp only
    rw [hsame]
    refine inStep_bind (inStep_total _ _ _ _ _ _) fun total => ?_
    exact inStep_bind (inStep_complete (inStep_nestedOf _) _ _ _) fun rows => inStep_pure _

/-- The policy for sizes treats rows that a cap makes the same in the same way. -/
theorem capped_eq {cap : Nat} {rows others : List Row} (h : SameUpTo cap rows others) :
    e.capped name cap rows = e.capped name cap others := by
  rcases h with rfl | ⟨hrows, hothers, htake⟩
  · rfl
  · unfold capped
    rw [if_neg (Nat.not_le.mpr hrows), if_neg (Nat.not_le.mpr hothers), htake]

theorem select_opens :
    e.Opens e.selectOpening name request fun z => (e.withExecutor z).select name request := by
  refine ⟨fun {ρ} z depth p _ found => do
    let rows ← e.capped name (e.settings.maxSelectSizeOf p.query) found
    (e.withExecutor z).complete ((e.withExecutor z).nestedOf depth) [name] p rows,
    fun {ρ} z s => ?_, fun {ρ τ x z R} depth p final rows others hlook => ?_⟩
  · exact on_select (e.withExecutor z) name request s
  · dsimp only
    rw [capped_eq e name hlook]
    exact inStep_bind (inStep_lift _) fun rows => inStep_complete (inStep_nestedOf _) _ _ rows

/-- Executors that differ in rows beyond the cap of the first statement only. A window, a page and a
selection give the same answer over both, after the same calls: none of the rows that are cut, nor
how many they are, can be told from what the engine does. -/
theorem discarded_rows_unseen (y : Executor τ) (R : σ → τ → Prop) (s : Session σ) (t : Session τ) :
    (AlikeBeyond e e.executor y R e.forwardOpening name request
        (fun z => (e.withExecutor z).forward name request) s t →
      SameRun e.executor y (fun z => (e.withExecutor z).forward name request) s t) ∧
    (AlikeBeyond e e.executor y R e.pageOpening name request
        (fun z => (e.withExecutor z).page name request) s t →
      SameRun e.executor y (fun z => (e.withExecutor z).page name request) s t) ∧
    (AlikeBeyond e e.executor y R e.selectOpening name request
        (fun z => (e.withExecutor z).select name request) s t →
      SameRun e.executor y (fun z => (e.withExecutor z).select name request) s t) := by
  refine ⟨fun h => ?_, fun h => ?_, fun h => ?_⟩
  · exact (forward_opens e name request).sameRun (fun p rows => SameUpTo.refl _ rows) h
  · exact (page_opens e name request).sameRun (fun _ _ => rfl) h
  · exact (select_opens e name request).sameRun (fun p rows => SameUpTo.refl _ rows) h

/-- Guests with their orders. -/
def guestDefinition : QueryDefinition :=
  { name := "guests"
    script := { kind := some .literal, code := some "SELECT * FROM guests" }
    fetches := [{ reference := "orders", property := some "orders" }] }

def guestStatements : List String :=
  ["SELECT * FROM guests", "SELECT * FROM guests LIMIT 1", "SELECT * FROM guests LIMIT 2"]

/-- One guest before some others, and the same order for everybody. -/
def guestExecutor (others : List Row) : Executor Unit where
  get _ _ _ s := (.ok (some [("total_", .int 4)]), s)
  select statement _ _ _ s :=
    (.ok (if guestStatements.contains statement then [("name", .str "ann")] :: others
      else [[("id", .int 7)]]), s)

def guestEngine : Engine Unit where
  executor := guestExecutor [[("name", .str "bob")]]
  settings := { maxSelectSize := 1, sizeViolation := .truncate }

def otherGuests : Executor Unit := guestExecutor [[("name", .str "cid")], [("name", .str "dan")]]

def guestSession : Session Unit :=
  { store :=
      { catalog := [("guests", .ofDefinition guestDefinition), ("orders", .ofDefinition
          { name := "orders"
            script := { kind := some .literal, code := some "SELECT * FROM orders" } })]
        running := true }
    storage := () }

def guestRequest : Request := { limit := some 1 }

def guestPrepared : Prepared :=
  { query := .ofDefinition guestDefinition
    request := guestRequest
    bound := ⟨"SELECT * FROM guests", []⟩
    expanded := true }

theorem guests_prepared : (guestSession.store.prepare guestEngine.workshop "guests"
    guestRequest).1 = .ok guestPrepared := rfl

theorem guests_alike {c : BoundStatement} (h : guestStatements.contains c.statement = false) :
    guestEngine.executor.Alike otherGuests (fun _ _ => True) c := by
  constructor
  · intro timeout a b _
    exact ⟨rfl, trivial⟩
  · intro expected timeout a b _
    simp only [guestEngine, otherGuests, guestExecutor, h]
    exact ⟨rfl, trivial⟩

theorem guests_open {o : Opening} (hstatement : guestStatements.contains
      (o.statement guestPrepared ⟨"SELECT * FROM guests", []⟩) = true)
    (hlook : o.look guestPrepared [[("name", .str "ann")], [("name", .str "bob")]]
      [[("name", .str "ann")], [("name", .str "cid")], [("name", .str "dan")]]) :
    OpensAlike guestEngine o "guests" guestRequest guestEngine.executor otherGuests
      (fun _ _ => True) guestSession guestSession := by
  intro p final hp hfinal
  rw [guests_prepared] at hp
  obtain rfl := Except.ok.inj hp
  obtain rfl : (⟨"SELECT * FROM guests", []⟩ : BoundStatement) = final := Except.ok.inj hfinal
  simp only [guestEngine, otherGuests, guestExecutor, hstatement]
  exact ⟨.ok hlook, trivial⟩

theorem guests_beyond {α : Type} {o : Opening} {op : {ρ : Type} → Executor ρ → Run ρ α}
    (hstatement : guestStatements.contains
      (o.statement guestPrepared ⟨"SELECT * FROM guests", []⟩) = true)
    (hlook : o.look guestPrepared [[("name", .str "ann")], [("name", .str "bob")]]
      [[("name", .str "ann")], [("name", .str "cid")], [("name", .str "dan")]])
    (hlater : ((calls ((op guestEngine.executor.recorded).on (recording guestSession)).2).tail.all
      fun c => !guestStatements.contains c.statement) = true) :
    AlikeBeyond guestEngine guestEngine.executor otherGuests (fun _ _ => True) o "guests"
      guestRequest op guestSession guestSession where
  store := rfl
  storage := trivial
  opening := guests_open hstatement hlook
  later c hc := guests_alike (by simpa using List.all_eq_true.mp hlater c hc)

theorem discarded_guests_unseen :
    (AlikeBeyond guestEngine guestEngine.executor otherGuests (fun _ _ => True)
        guestEngine.forwardOpening "guests" guestRequest
        (fun z => (guestEngine.withExecutor z).forward "guests" guestRequest) guestSession
        guestSession ∧
      SameRun guestEngine.executor otherGuests
        (fun z => (guestEngine.withExecutor z).forward "guests" guestRequest) guestSession
        guestSession) ∧
    (AlikeBeyond guestEngine guestEngine.executor otherGuests (fun _ _ => True)
        guestEngine.pageOpening "guests" guestRequest
        (fun z => (guestEngine.withExecutor z).page "guests" guestRequest) guestSession
        guestSession ∧
      SameRun guestEngine.executor otherGuests
        (fun z => (guestEngine.withExecutor z).page "guests" guestRequest) guestSession
        guestSession) ∧
    (AlikeBeyond guestEngine guestEngine.executor otherGuests (fun _ _ => True)
        guestEngine.selectOpening "guests" guestRequest
        (fun z => (guestEngine.withExecutor z).select "guests" guestRequest) guestSession
        guestSession ∧
      SameRun guestEngine.executor otherGuests
        (fun z => (guestEngine.withExecutor z).select "guests" guestRequest) guestSession
        guestSession) := by
  obtain ⟨hforward, hpage, hselect⟩ := discarded_rows_unseen guestEngine "guests" guestRequest
    otherGuests (fun _ _ => True) guestSession guestSession
  have hf : AlikeBeyond guestEngine guestEngine.executor otherGuests (fun _ _ => True)
      guestEngine.forwardOpening "guests" guestRequest
      (fun z => (guestEngine.withExecutor z).forward "guests" guestRequest) guestSession
      guestSession :=
    guests_beyond (by decide +kernel) (.inr ⟨by decide +kernel, by decide +kernel, rfl⟩)
      (by decide +kernel)
  have hp : AlikeBeyond guestEngine guestEngine.executor otherGuests (fun _ _ => True)
      guestEngine.pageOpening "guests" guestRequest
      (fun z => (guestEngine.withExecutor z).page "guests" guestRequest) guestSession
      guestSession :=
    guests_beyond (by decide +kernel) rfl (by decide +kernel)
  have hs : AlikeBeyond guestEngine guestEngine.executor otherGuests (fun _ _ => True)
      guestEngine.selectOpening "guests" guestRequest
      (fun z => (guestEngine.withExecutor z).select "guests" guestRequest) guestSession
      guestSession :=
    guests_beyond (by decide +kernel) (.inr ⟨by decide +kernel, by decide +kernel, rfl⟩)
      (by decide +kernel)
  exact ⟨⟨hf, hforward hf⟩, ⟨hp, hpage hp⟩, ⟨hs, hselect hs⟩⟩

end Engine

end QueryCatalog
