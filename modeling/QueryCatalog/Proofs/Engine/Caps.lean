import QueryCatalog.Proofs.Engine.Failures
import QueryCatalog.Proofs.Engine.Selections

/-!
The two policies for rows that exceed their cap. Where they are reported, an excess anywhere in a
run is the failure of the whole run, so one that succeeds has used all rows it was given. Where
they are cut, an excess is never reported.
-/
namespace QueryCatalog

variable {σ α β : Type} {k : ErrorKind}

namespace Run

/-- It does not fail in this way in any session. -/
def Never (k : ErrorKind) (m : Run σ α) : Prop := ∀ s, Avoids k (m.on s).1

theorem never_pure (a : α) : Never k (pure a : Run σ α) := fun _ => avoids_ok a

theorem never_throw {error : QueryError} (h : error.kind ≠ k) :
    Never k (throw error : Run σ α) := fun _ => avoids_error h

theorem never_lift {x : Except QueryError α} (h : Avoids k x) : Never k (liftM x : Run σ α) := by
  intro s
  rw [on_lift]
  exact h

theorem never_bind {m : Run σ α} {f : α → Run σ β} (hm : Never k m) (hf : ∀ a, Never k (f a)) :
    Never k (m >>= f) := by
  intro s
  have hfirst := hm s
  rcases h : m.on s with ⟨error | a, t⟩
  · rw [h] at hfirst
    rw [on_bind_error h]
    exact avoids_error (hfirst error rfl)
  · rw [on_bind_ok h]
    exact hf a t

end Run

namespace Engine

open Run (Never never_pure never_throw never_lift never_bind)

variable {e : Engine σ}

/-! Where excess rows are cut, no operation reports them. -/

theorem never_carried (hpolicy : e.settings.sizeViolation = .truncate)
    (hhandlers : e.handlers.AllAvoid .sizeExceeded) :
    e.Carried fun _ m => Never .sizeExceeded m where
  pure := never_pure
  bind := never_bind
  depth := fun _ => avoids_ok _
  prepare := e.avoids_prepare rfl
  final := fun p => never_lift (p.avoids_final rfl)
  getRow := fun _ name _ _ => avoids_call rfl name _
  selectRows := fun _ name _ _ _ => avoids_call rfl name _
  missing := fun _ => never_throw nofun
  capped := fun name maximum rows =>
    never_lift (e.avoids_capped (fun _ => hpolicy) name maximum rows)
  wanted := fun owner f bindings => never_lift (e.avoids_wanted rfl owner f bindings)
  criteria := fun f owner bindings criteria rows => never_lift (f.avoids_criteria rfl owner
    (fun script => e.avoids_evaluate rfl owner script bindings) criteria rows)
  cycle := fun _ => never_throw nofun
  inject := fun owner f bindings fetched rows =>
    never_lift (e.avoids_injectRows rfl owner f bindings fetched rows)
  hints := fun p rows => never_lift (hhandlers.apply rfl _ p rows)

/-! Where an excess is reported, rows are used as they were given. -/

/-- What a selection that succeeds has done with its rows: the fetches that it executed have filled
all of them, and its hints were applied to what these left. -/
structure Account (e : Engine σ) (c : Selection σ) where
  prepared : Prepared
  call : BoundStatement
  rows : List Row
  opened : Session σ
  log : List Execution
  filled : List Row
  answer : List Row
  closed : Session σ
  reads : c.Reads e prepared ⟨call, .ok rows⟩ opened
  within : rows.length ≤ c.cap e prepared
  fills : Filled e (e.nestedOf c.depth) c.path prepared opened rows log closed filled
  hinted : e.handleHints prepared filled = .ok answer
  result : c.run e = (.ok answer, closed)

section Raise

variable (hpolicy : e.settings.sizeViolation = .raise) {c c' : Selection σ} {p : Prepared}
  {call : BoundStatement} {rows : List Row} {s t : Session σ}

include hpolicy

theorem capped_raised {name : String} {cap : Nat} (h : cap < rows.length) :
    e.capped name cap rows = .error (.sizeExceeded name cap) := by
  rw [capped, if_neg (Nat.not_le.mpr h), hpolicy]

theorem run_of_excess (hreads : c.Reads e p ⟨call, .ok rows⟩ t) (h : c.cap e p < rows.length) :
    c.run e = (.error (.sizeExceeded c.name (c.cap e p)), t) := by
  rw [run_of_reads_ok hreads, capped_raised hpolicy h]
  exact Run.on_bind_lift_error _ _ _

theorem account_of_success {answer : List Row} (h : (c.run e).1 = .ok answer) :
    Nonempty (Account e c) := by
  by_cases hreads : ∃ p note t, c.Reads e p note t
  · obtain ⟨p, ⟨call, given⟩, t, hreads⟩ := hreads
    cases given with
    | error text =>
      have hrun : c.run e = (.error (.execution c.name text), t) := by
        rw [run_of_reads hreads]
        exact Run.on_bind_lift_error _ _ _
      rw [hrun] at h
      cases h
    | ok rows =>
      by_cases hexcess : c.cap e p < rows.length
      · rw [run_of_excess hpolicy hreads hexcess] at h
        cases h
      · have hwithin : rows.length ≤ c.cap e p := Nat.not_lt.mp hexcess
        have hrun := run_of_reads_ok hreads
        rw [capped, if_pos hwithin, Run.on_bind_lift_ok] at hrun
        rcases hcomplete : (e.complete (e.nestedOf c.depth) c.path p rows).on t with ⟨given, u⟩
        rw [hcomplete] at hrun
        rw [hrun] at h
        obtain rfl : given = .ok answer := h
        obtain ⟨log, filled, hfills, hhinted⟩ := complete_cases hcomplete
        exact ⟨⟨p, call, rows, t, log, filled, answer, u, hreads, hwithin, hfills, hhinted, hrun⟩⟩
  · obtain ⟨-, error, herror⟩ := run_of_not_reads fun p note t hr => hreads ⟨p, note, t, hr⟩
    rw [herror] at h
    cases h

end Raise

namespace Account

variable {c c' : Selection σ} (a : Account e c)

/-- The executions of an account that are still to come at a point of the selection. -/
theorem ahead {p : Prepared} {later : List Fetch} {s : Session σ} {rows : List Row}
    (h : e.Progress c p later s rows) : p = a.prepared ∧ ∃ first last, a.log = first ++ last ∧
      Completes e (e.nestedOf c.depth) c.path p later s rows last a.closed a.filled := by
  induction h with
  | @start call rows found t hreads hcapped hfound =>
    obtain ⟨hprepared, hnote, hopened⟩ := reads_unique a.reads hreads
    have hrows : a.rows = rows := Except.ok.inj (Note.mk.inj hnote).2
    have hwithin := a.within
    rw [hprepared, hrows] at hwithin
    rw [capped, if_pos hwithin] at hcapped
    have hfills := a.fills
    rw [hprepared, hopened, hrows, Except.ok.inj hcapped] at hfills
    exact ⟨hprepared.symm, [], a.log, rfl, hfills.completes hfound⟩
  | @next f later t u rows after _ hfetch ih =>
    obtain ⟨hprepared, first, last, hlog, hahead⟩ := ih
    refine ⟨hprepared, ?_⟩
    cases hahead with
    | skipped hskips hrest =>
      obtain ⟨hrows, rfl⟩ := Prod.mk.inj ((on_runFetch_of_skips hskips t).symm.trans hfetch)
      obtain rfl := Except.ok.inj hrows
      exact ⟨first, last, hlog, hrest⟩
    | @ran x _ _ _ _ between _ log hran hrest =>
      obtain ⟨hrows, rfl⟩ := Prod.mk.inj (hran.on_runFetch.symm.trans hfetch)
      obtain rfl := Except.ok.inj hrows
      exact ⟨first ++ [x], log, by rw [hlog, List.append_assoc]; rfl, hrest⟩

/-- The rows of a selection that a fetch asks for are what this fetch has brought. -/
theorem takes (h : e.Leads c c') : ∃ x ∈ a.log, ∃ depth start,
    c' = c.nested depth a.prepared x.fetch x.criteria start ∧ (c'.run e).1 = .ok x.fetched := by
  cases h with
  | @fetch depth p f later t rows criteria hdepth hprogress hasks =>
    obtain ⟨rfl, first, last, hlog, hahead⟩ := a.ahead hprogress
    cases hahead with
    | skipped hskips _ => exact absurd hskips hasks.not_skips
    | @ran x _ _ _ _ _ _ log hran _ =>
      obtain rfl : criteria = x.criteria := Except.ok.inj (hasks.asked.symm.trans hran.asked)
      have hbrought := hran.brought
      rw [nestedOf_eq_operation hdepth a.prepared x.fetch x.criteria t] at hbrought
      refine ⟨x, ?_, depth, t, rfl, congrArg Prod.fst hbrought⟩
      rw [hlog]
      exact List.mem_append_right _ List.mem_cons_self

end Account

/-- What holds of a selection where excess rows are reported, by the notes that are taken of its
calls of the storage. -/
structure NothingCut (e : Engine σ) (s : Session σ) (name : String) (request : Request) : Prop where
  /-- All calls for rows are those of the selection itself and of those that it reaches. -/
  known : ∀ note ∈ notes ((e.noted.select name request).on (noting s)).2, ∃ c p t,
    e.noted.Reaches (.root (noting s) name request) c ∧ c.Reads e.noted p note t
  /-- If it succeeds, each call was answered with rows, no more than the cap of its selection, and
  the selection has used all of them. -/
  within : ∀ rows, ((e.select name request).on s).1 = .ok rows →
    ∀ note ∈ notes ((e.noted.select name request).on (noting s)).2, ∃ c,
      e.noted.Reaches (.root (noting s) name request) c ∧
        ∃ a : Account e.noted c, note = ⟨a.call, .ok a.rows⟩
  /-- If it succeeds, so does each of these, and its answer is what the fetch that asked for it has
  injected. -/
  injected : ∀ rows, ((e.select name request).on s).1 = .ok rows → ∀ c,
    e.noted.Reaches (.root (noting s) name request) c → ∃ a : Account e.noted c,
      ∀ c', e.noted.Leads c c' → ∃ x ∈ a.log, ∃ depth start,
        c' = c.nested depth a.prepared x.fetch x.criteria start ∧ (c'.run e.noted).1 = .ok x.fetched
  /-- It fails if any of these is given more rows than its cap. -/
  exceeded : ∀ c p call rows t, e.noted.Reaches (.root (noting s) name request) c →
    c.Reads e.noted p ⟨call, .ok rows⟩ t → c.cap e.noted p < rows.length →
      ((e.select name request).on s).1 = .error (.sizeExceeded c.name (c.cap e.noted p))

/-- None of the operations reports an excess. -/
structure NothingExceeded (e : Engine σ) (s : Session σ) (name : String) (request : Request) :
    Prop where
  get : Avoids .sizeExceeded ((e.get name request).on s).1
  select : Avoids .sizeExceeded ((e.select name request).on s).1
  page : Avoids .sizeExceeded ((e.page name request).on s).1
  forward : Avoids .sizeExceeded ((e.forward name request).on s).1

theorem nothing_cut (hpolicy : e.settings.sizeViolation = .raise) (s : Session σ) (name : String)
    (request : Request) : NothingCut e s name request := by
  have hnoted : e.noted.settings.sizeViolation = .raise := hpolicy
  have hanswer : ((Selection.root (noting s) name request).run e.noted).1 =
      ((e.select name request).on s).1 := by
    rw [run_root, noted_answer]
  have hknown : ∀ note ∈ notes ((e.noted.select name request).on (noting s)).2, ∃ c p t,
      e.noted.Reaches (.root (noting s) name request) c ∧ c.Reads e.noted p note t := by
    obtain ⟨new, hnew, hby⟩ := notedBy_run (e := e) _ (Selection.root (noting s) name request) rfl
    rw [run_root] at hnew
    intro note hnote
    rw [hnew] at hnote
    exact hby note hnote
  have haccount : ∀ rows, ((e.select name request).on s).1 = .ok rows → ∀ c,
      e.noted.Reaches (.root (noting s) name request) c → Nonempty (Account e.noted c) := by
    intro rows hrows c hreaches
    rw [← hanswer] at hrows
    obtain ⟨answer, hsucceeds⟩ := hreaches.succeeds hrows
    exact account_of_success hnoted hsucceeds
  constructor
  · exact hknown
  · intro rows hrows note hnote
    obtain ⟨c, p, t, hreaches, hreads⟩ := hknown note hnote
    obtain ⟨a⟩ := haccount rows hrows c hreaches
    exact ⟨c, hreaches, a, (reads_unique hreads a.reads).2.1⟩
  · intro rows hrows c hreaches
    obtain ⟨a⟩ := haccount rows hrows c hreaches
    exact ⟨a, fun c' hleads => a.takes hleads⟩
  · intro c p call rows t hreaches hreads hexcess
    rw [← hanswer]
    exact hreaches.error (congrArg Prod.fst (run_of_excess hnoted hreads hexcess))

theorem nothing_exceeded (hpolicy : e.settings.sizeViolation = .truncate)
    (hhandlers : e.handlers.AllAvoid .sizeExceeded) (s : Session σ) (name : String)
    (request : Request) : NothingExceeded e s name request := by
  have hcarried := never_carried hpolicy hhandlers
  constructor
  · exact hcarried.get name request s
  · exact hcarried.select name request s
  · exact hcarried.page name request s
  · exact hcarried.forward name request s

/-- The policies keep what they promise. Reported, an excess in any nested selection ends the run,
and one that succeeds has used every row that it was given; cut, an excess is not reported, unless a
handler of the host does so. -/
theorem size_policies (e : Engine σ) (s : Session σ) (name : String) (request : Request) :
    (e.settings.sizeViolation = .raise → NothingCut e s name request) ∧
      (e.settings.sizeViolation = .truncate → e.handlers.AllAvoid .sizeExceeded →
        NothingExceeded e s name request) :=
  ⟨fun hpolicy => nothing_cut hpolicy s name request,
    fun hpolicy hhandlers => nothing_exceeded hpolicy hhandlers s name request⟩

/-- One guest with two orders, of which a fetch may bring some. -/
def partyExecutor : Executor Unit where
  get _ _ _ s := (.ok none, s)
  select statement _ _ _ s :=
    (.ok (if statement == "SELECT * FROM guests" then [[("name", .str "ann")]]
      else [[("id", .int 7)], [("id", .int 8)]]), s)

def partyEngine (sizeViolation : SizeViolation) : Engine Unit where
  executor := partyExecutor
  settings := { sizeViolation }

def partySession (maxSize : Nat) : Session Unit :=
  { store :=
      { catalog := [("guests", .ofDefinition
          { name := "guests"
            script := { kind := some .literal, code := some "SELECT * FROM guests" }
            fetches := [{ reference := "orders", property := some "orders", maxSize }] }),
          ("orders", .ofDefinition
            { name := "orders"
              script := { kind := some .literal, code := some "SELECT * FROM orders" } })]
        running := true }
    storage := () }

/-- The orders of the first guest, or the cap that is exceeded. -/
def partyOrders : Except QueryError (List Row) → Option String ⊕ Option (String × Nat)
  | .ok rows => .inl ((rows.head?.bind fun row => row.get? "orders").map Json.compact)
  | .error (.sizeExceeded name cap) => .inr (some (name, cap))
  | .error _ => .inr none

theorem size_policies_party :
    partyOrders (((partyEngine .raise).select "guests" {}).on (partySession 2)).1 =
        .inl (some "[\x7b\"id\":7\x7d,\x7b\"id\":8\x7d]") ∧
      NothingCut (partyEngine .raise) (partySession 2) "guests" {} ∧
      partyOrders (((partyEngine .raise).select "guests" {}).on (partySession 1)).1 =
        .inr (some ("orders", 1)) ∧
      NothingCut (partyEngine .raise) (partySession 1) "guests" {} ∧
      partyOrders (((partyEngine .truncate).select "guests" {}).on (partySession 1)).1 =
        .inl (some "[\x7b\"id\":7\x7d]") ∧
      NothingExceeded (partyEngine .truncate) (partySession 1) "guests" {} :=
  ⟨by decide +kernel, (size_policies _ _ _ _).1 rfl, by decide +kernel,
    (size_policies _ _ _ _).1 rfl, by decide +kernel,
    (size_policies _ _ _ _).2 rfl (HintHandlers.standard_avoids rfl)⟩

end Engine

end QueryCatalog
