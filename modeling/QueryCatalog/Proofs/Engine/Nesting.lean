import QueryCatalog.Proofs.Engine.Visits
import QueryCatalog.Proofs.Mapping.Soundness

/-!
Fetches of fetches. Whatever is done where the nesting would exceed the number of queries, it is
never done; every nested selection leaves the path as it found it, and a cycle is reported only
where eager references lead from a query back to it.
-/
namespace QueryCatalog.Engine

variable {σ α β : Type} {e : Engine σ} {catalog : Catalog} {running : Bool} {root : String}

/-- A run over tracked storage that does what a run without it does. Its nested selections are
sound, and it reports a cycle only where there is one. -/
structure Follows (e : Engine σ) (catalog : Catalog) (running : Bool) (root : String)
    (s : Session (Tracked σ)) (plain : Except QueryError α × Session σ)
    (run : Except QueryError α × Session (Tracked σ)) : Prop where
  answer : run.1 = plain.1
  session : untracked run.2 = plain.2
  serves : e.Serves catalog running plain.2
  path : run.2.storage.path = s.storage.path
  visits : ∃ new, run.2.storage.visits = s.storage.visits ++ new ∧ ∀ v ∈ new, v.Sound catalog root
  cycle : e.handlers.AllQuiet → ∀ walk, plain.1 = .error (.fetchCycle walk) →
    catalog.ClosedWalk root walk

/-- An operation that reads its path from the state does what one does that is given the path. -/
def Mirrors (e : Engine σ) (catalog : Catalog) (running : Bool) (root : String)
    (path : List String) (plain : Run σ α) (run : Run (Tracked σ) α) : Prop :=
  ∀ s, e.Serves catalog running (untracked s) → s.storage.path = path →
    Follows e catalog running root s (plain.on (untracked s)) (run.on s)

/-- Steps that leave the path and the visits alone and do not report a cycle. -/
theorem follows_of_quiet {s : Session (Tracked σ)} {plain : Except QueryError α × Session σ}
    {run : Except QueryError α × Session (Tracked σ)} (hanswer : run.1 = plain.1)
    (hsession : untracked run.2 = plain.2) (hserves : e.Serves catalog running plain.2)
    (hpath : run.2.storage.path = s.storage.path)
    (hvisits : run.2.storage.visits = s.storage.visits)
    (hquiet : e.handlers.AllQuiet → Quiet plain.1) : Follows e catalog running root s plain run where
  answer := hanswer
  session := hsession
  serves := hserves
  path := hpath
  visits := ⟨[], by rw [hvisits, List.append_nil], by simp⟩
  cycle hhandlers walk h := absurd h (hquiet hhandlers walk)

variable {path : List String}

theorem mirrors_pure (a : α) :
    Mirrors e catalog running root path (pure a : Run σ α) (pure a : Run (Tracked σ) α) :=
  fun _ hs _ => follows_of_quiet rfl rfl hs rfl rfl fun _ => quiet_ok a

theorem mirrors_lift {x : Except QueryError α} (hx : e.handlers.AllQuiet → Quiet x) :
    Mirrors e catalog running root path (liftM x : Run σ α) (liftM x : Run (Tracked σ) α) := by
  intro s hs _
  rw [Run.on_lift, Run.on_lift]
  exact follows_of_quiet rfl rfl hs rfl rfl hx

theorem mirrors_bind {m : Run σ α} {m' : Run (Tracked σ) α} {f : α → Run σ β}
    {f' : α → Run (Tracked σ) β} (hm : Mirrors e catalog running root path m m')
    (hf : ∀ s a t, e.Serves catalog running s → m.on s = (.ok a, t) →
      Mirrors e catalog running root path (f a) (f' a)) :
    Mirrors e catalog running root path (m >>= f) (m' >>= f') := by
  intro s hs hpath
  have hfirst := hm s hs hpath
  rcases hplain : m.on (untracked s) with ⟨answer, u⟩
  rcases hrun : m'.on s with ⟨answer', t⟩
  rw [hplain, hrun] at hfirst
  obtain rfl : answer' = answer := hfirst.answer
  obtain rfl : untracked t = u := hfirst.session
  cases answer' with
  | error error =>
    rw [Run.on_bind_error hplain, Run.on_bind_error hrun]
    refine ⟨rfl, rfl, hfirst.serves, hfirst.path, hfirst.visits, fun hhandlers walk h => ?_⟩
    exact hfirst.cycle hhandlers walk (congrArg Except.error (Except.error.inj h))
  | ok a =>
    rw [Run.on_bind_ok hplain, Run.on_bind_ok hrun]
    have hrest := hf _ a _ hs hplain t hfirst.serves (hfirst.path.trans hpath)
    obtain ⟨new, hnew, hsound⟩ := hfirst.visits
    obtain ⟨more, hmore, hsound'⟩ := hrest.visits
    refine ⟨hrest.answer, hrest.session, hrest.serves, hrest.path.trans hfirst.path,
      ⟨new ++ more, by rw [hmore, hnew, List.append_assoc], ?_⟩, hrest.cycle⟩
    exact List.forall_mem_append.mpr ⟨hsound, hsound'⟩

theorem mirrors_foldlM {f : β → α → Run σ β} {f' : β → α → Run (Tracked σ) β} {items : List α}
    (hf : ∀ a ∈ items, ∀ b, Mirrors e catalog running root path (f b a) (f' b a)) :
    ∀ b, Mirrors e catalog running root path (items.foldlM f b) (items.foldlM f' b) := by
  induction items with
  | nil => exact mirrors_pure
  | cons a rest ih =>
    intro b
    obtain ⟨hfirst, hrest⟩ := List.forall_mem_cons.mp hf
    rw [List.foldlM_cons, List.foldlM_cons]
    exact mirrors_bind (hfirst b) fun _ b' _ _ _ => ih hrest b'

theorem mirrors_prepare (name : String) (request : Request) : Mirrors e catalog running root path
    (e.prepare name request) (e.tracked.prepare name request) := by
  intro s hs _
  have hserves := (kept_serves e catalog running).prepare name request _ hs
  exact follows_of_quiet rfl rfl hserves rfl rfl fun _ => e.quiet_prepare name request (untracked s)

theorem mirrors_selectRows (p : Prepared) (name statement : String) (expected : Nat)
    (args : List Json) : Mirrors e catalog running root path
      (e.selectRows p name statement expected args)
      (e.tracked.selectRows p name statement expected args) := by
  intro s hs _
  have hserves :=
    (kept_serves e catalog running).selectRows p name statement expected args _ hs
  exact follows_of_quiet rfl rfl hserves rfl rfl fun _ => quiet_call name _ (untracked s)

theorem mirrors_getRow (p : Prepared) (name statement : String) (args : List Json) :
    Mirrors e catalog running root path (e.getRow p name statement args)
      (e.tracked.getRow p name statement args) := by
  intro s hs _
  have hserves := (kept_serves e catalog running).getRow p name statement args _ hs
  exact follows_of_quiet rfl rfl hserves rfl rfl fun _ => quiet_call name _ (untracked s)

theorem mirrors_throw {error : QueryError} (h : e.handlers.AllQuiet → ∀ walk,
    error = .fetchCycle walk → catalog.ClosedWalk root walk) :
    Mirrors e catalog running root path (throw error : Run σ α) (throw error) := by
  intro s hs _
  refine ⟨rfl, rfl, hs, rfl, ⟨[], (List.append_nil _).symm, by simp⟩, fun hhandlers walk hwalk => ?_⟩
  exact h hhandlers walk (Except.error.inj hwalk)

/-- A name that was pushed for an action is popped after it. -/
theorem mirrors_within {name : String} {m : Run σ α} {m' : Run (Tracked σ) α}
    (hm : Mirrors e catalog running root (path ++ [name]) m m')
    (htrail : catalog.Trail root (path ++ [name])) :
    Mirrors e catalog running root path m (within name m') := by
  intro s hs hpath
  -- the action runs under the longer path and leaves it, and its last name is the one to pop
  have hfound : s.storage.path ++ [name] = path ++ [name] := by rw [hpath]
  have hrun := hm { s with storage := { s.storage with path := s.storage.path ++ [name] } } hs hfound
  have hleft := hrun.path.trans hfound
  obtain ⟨new, hnew, hsound⟩ := hrun.visits
  refine ⟨hrun.answer, hrun.session, hrun.serves, ?_, ?_, hrun.cycle⟩
  · have hpopped : (path ++ [name]).dropLast = s.storage.path := by rw [List.dropLast_concat, hpath]
    exact (congrArg List.dropLast hleft).trans hpopped
  · refine ⟨new ++ [_], (congrArg (· ++ [_]) hnew).trans (List.append_assoc _ _ _), ?_⟩
    refine List.forall_mem_append.mpr ⟨hsound, List.forall_mem_singleton.mpr ?_⟩
    refine ⟨hrun.path, ?_, ?_⟩
    · rw [hfound]
      exact htrail
    · rw [hfound]
      exact htrail.length_le

variable {p : Prepared} {owner : String}

theorem mirrors_fetch {nested : Nested σ} {nested' : Selects σ} {f : Fetch}
    (hclosed : catalog.Closed) (htrail : catalog.Trail root path)
    (hlast : path.getLast? = some owner) (hquery : catalog.find? owner = some p.query)
    (hf : f ∈ p.query.fetches)
    (hn : ∀ request size, catalog.Trail root (path ++ [f.target]) →
      Mirrors e catalog running root (path ++ [f.target])
        (nested (path ++ [f.target]) f.target request size)
        (nested' f.target request (some size))) (rows : List Row) :
    Mirrors e catalog running root path (e.runFetch nested path p rows f)
      (e.fetchTracked nested' p rows f) := by
  intro s hs hpath
  have hcurrent : (currentPath : Run (Tracked σ) (List String)).on s = (.ok path, s) := by
    rw [← hpath]
    rfl
  rw [fetchTracked, Run.on_bind_ok hcurrent]
  refine (?_ : Mirrors e catalog running root path _ _) s hs hpath
  unfold runFetch
  by_cases heager : f.eager = true
  · have href : catalog.EagerReference owner f.target := ⟨p.query, hquery, f, hf, heager, rfl⟩
    simp only [heager, Bool.not_true, Bool.false_eq_true, if_false]
    refine mirrors_bind (mirrors_lift fun _ => e.quiet_wanted _ _ _) fun _ wanted _ _ _ => ?_
    by_cases hwanted : wanted = true
    · simp only [hwanted, Bool.not_true, Bool.false_eq_true, if_false]
      refine mirrors_bind (mirrors_lift fun _ => f.quiet_criteria _
        (fun script => e.quiet_evaluate _ script _) _ _) fun _ criteria _ _ _ => ?_
      by_cases hcontains : path.contains f.target = true
      · simp only [hcontains, if_true]
        have hold : f.target ∈ path := by simpa using hcontains
        refine mirrors_bind (mirrors_throw fun _ walk hwalk => ?_) fun _ _ _ _ hthrow => ?_
        · obtain rfl : path ++ [f.target] = walk := QueryError.fetchCycle.inj hwalk
          exact htrail.close hlast href hold
        · cases hthrow
      · simp only [hcontains]
        have hnew : f.target ∉ path := by simpa using hcontains
        have htarget := htrail.extend hlast href hnew (hclosed owner p.query hquery f hf)
        refine mirrors_bind (mirrors_within (hn _ _ htarget) htarget) fun _ fetched _ _ _ => ?_
        exact mirrors_lift fun _ => e.quiet_injectRows _ _ _ _ _
    · simp only [hwanted]
      exact mirrors_pure rows
  · simp only [heager]
    exact mirrors_pure rows

theorem mirrors_complete {nested : Nested σ} {nested' : Selects σ} (hclosed : catalog.Closed)
    (htrail : catalog.Trail root path) (hlast : path.getLast? = some owner)
    (hquery : catalog.find? owner = some p.query)
    (hn : ∀ target request size, catalog.Trail root (path ++ [target]) →
      Mirrors e catalog running root (path ++ [target])
        (nested (path ++ [target]) target request size) (nested' target request (some size)))
    (rows : List Row) :
    Mirrors e catalog running root path (e.complete nested path p rows)
      (e.completeTracked nested' p rows) := by
  unfold complete completeTracked runFetches fetchesTracked
  refine mirrors_bind ?_ fun _ rows _ _ _ => mirrors_lift fun hhandlers => hhandlers.apply _ p rows
  by_cases hrows : rows.isEmpty = true
  · simp only [hrows, if_true]
    exact mirrors_pure rows
  · simp only [hrows]
    exact mirrors_foldlM
      (fun f hf rows => mirrors_fetch hclosed htrail hlast hquery hf (hn f.target) rows) rows

theorem mirrors_total (p : Prepared) (name : String) (final : BoundStatement)
    (offset limit size : Nat) : Mirrors e catalog running root path
      (e.total p name final offset limit size) (e.tracked.total p name final offset limit size) := by
  unfold Engine.total
  by_cases hsize : size < limit
  · simp only [hsize, if_true]
    exact mirrors_pure _
  · simp only [hsize, if_false]
    exact mirrors_bind (mirrors_getRow _ _ _ _) fun _ row _ _ _ => mirrors_pure _

/-! An operation follows its completion, which is run for the query of that name only. -/

section

variable {name : String} {complete : Prepared → List Row → Run σ (List Row)}
  {complete' : Prepared → List Row → Run (Tracked σ) (List Row)} (request : Request)
  (hcomplete : ∀ p rows, catalog.find? name = some p.query →
    Mirrors e catalog running root path (complete p rows) (complete' p rows))

include hcomplete

theorem mirrors_selectBy (maximum : Option Nat) : Mirrors e catalog running root path
    (e.selectBy complete name request maximum)
    (e.tracked.selectBy complete' name request maximum) := by
  refine mirrors_bind (mirrors_prepare _ _) fun s p _ hs hp => ?_
  refine mirrors_bind (mirrors_lift fun _ => p.quiet_final) fun _ final _ _ _ => ?_
  refine mirrors_bind (mirrors_selectRows _ _ _ _ _) fun _ rows _ _ _ => ?_
  refine mirrors_bind (mirrors_lift fun _ => e.quiet_capped _ _ _) fun _ rows _ _ _ => ?_
  exact hcomplete p rows (find?_of_prepare hs hp)

theorem mirrors_getBy : Mirrors e catalog running root path (e.getBy complete name request)
    (e.tracked.getBy complete' name request) := by
  refine mirrors_bind (mirrors_prepare _ _) fun s p _ hs hp => ?_
  refine mirrors_bind (mirrors_lift fun _ => p.quiet_final) fun _ final _ _ _ => ?_
  refine mirrors_bind (mirrors_getRow _ _ _ _) fun _ row _ _ _ => ?_
  cases row with
  | none => exact mirrors_pure none
  | some row =>
    refine mirrors_bind (hcomplete p [row] (find?_of_prepare hs hp)) fun _ rows _ _ _ => ?_
    exact mirrors_pure rows.head?

theorem mirrors_pageBy : Mirrors e catalog running root path (e.pageBy complete name request)
    (e.tracked.pageBy complete' name request) := by
  refine mirrors_bind (mirrors_prepare _ _) fun s p _ hs hp => ?_
  refine mirrors_bind (mirrors_lift fun _ => p.quiet_final) fun _ final _ _ _ => ?_
  refine mirrors_bind (mirrors_selectRows _ _ _ _ _) fun _ found _ _ _ => ?_
  refine mirrors_bind (mirrors_total _ _ _ _ _ _) fun _ total _ _ _ => ?_
  refine mirrors_bind (hcomplete p _ (find?_of_prepare hs hp)) fun _ rows _ _ _ => ?_
  exact mirrors_pure _

theorem mirrors_forwardBy : Mirrors e catalog running root path
    (e.forwardBy complete name request) (e.tracked.forwardBy complete' name request) := by
  refine mirrors_bind (mirrors_prepare _ _) fun s p _ hs hp => ?_
  refine mirrors_bind (mirrors_lift fun _ => p.quiet_final) fun _ final _ _ _ => ?_
  refine mirrors_bind (mirrors_selectRows _ _ _ _ _) fun _ found _ _ _ => ?_
  refine mirrors_bind (hcomplete p _ (find?_of_prepare hs hp)) fun _ rows _ _ _ => ?_
  exact mirrors_pure _

end

/-- Completion to two depths, both of which are more than enough for a trail to become longer than
the catalog. -/
theorem mirrors_complete_nested (hclosed : catalog.Closed) (bottom : Selects σ) (depth : Nat) :
    ∀ (depth' : Nat) (path : List String) (owner : String) (p : Prepared),
      catalog.Trail root path → path.getLast? = some owner →
      catalog.find? owner = some p.query → catalog.length ≤ path.length + depth →
      catalog.length ≤ path.length + depth' → ∀ rows, Mirrors e catalog running root path
        (e.complete (e.nestedOf depth) path p rows)
        (e.completeTracked (e.selectTracked bottom depth') p rows) := by
  induction depth with
  | zero =>
    intro depth' path owner p htrail hlast hquery hdepth _ rows
    -- all queries are on the trail, so there is none left to fetch
    refine mirrors_complete hclosed htrail hlast hquery (fun target request size htarget => ?_) rows
    have hlength := htarget.length_le
    rw [List.length_append, List.length_singleton] at hlength
    omega
  | succ depth ih =>
    intro depth' path owner p htrail hlast hquery hdepth hdepth' rows
    refine mirrors_complete hclosed htrail hlast hquery (fun target request size htarget => ?_) rows
    have hlength := htarget.length_le
    rw [List.length_append, List.length_singleton] at hlength
    cases depth' with
    | zero => omega
    | succ depth' =>
      rw [nestedOf, selectWithin_succ, selectTracked]
      refine mirrors_selectBy request (fun p rows hp => ?_) _
      have hlonger : (path ++ [target]).length = path.length + 1 := by simp
      exact ih depth' _ target p htarget List.getLast?_concat hp (by omega) (by omega) rows

/-- A session before the first name is pushed. -/
def tracking (s : Session σ) : Session (Tracked σ) := ⟨s.store, { storage := s.storage }⟩

/-- What holds of an operation and of the same operation with its path in the state. -/
structure WellNested (e : Engine σ) (catalog : Catalog) (name : String)
    (plain : Except QueryError α × Session σ) (run : Except QueryError α × Session (Tracked σ)) :
    Prop where
  answer : run.1 = plain.1
  session : untracked run.2 = plain.2
  path : run.2.storage.path = [name]
  visits : ∀ v ∈ run.2.storage.visits, v.Sound catalog name
  cycle : e.handlers.AllQuiet → ∀ walk, plain.1 = .error (.fetchCycle walk) →
    catalog.ClosedWalk name walk
  acyclic : e.handlers.AllQuiet → catalog.Acyclic → ∀ walk, plain.1 ≠ .error (.fetchCycle walk)

theorem Follows.wellNested {s : Session (Tracked σ)} {plain : Except QueryError α × Session σ}
    {run : Except QueryError α × Session (Tracked σ)}
    (h : Follows e catalog running root s plain run) (hpath : s.storage.path = [root])
    (hvisits : s.storage.visits = []) : WellNested e catalog root plain run where
  answer := h.answer
  session := h.session
  path := h.path.trans hpath
  visits := by
    obtain ⟨new, hnew, hsound⟩ := h.visits
    rw [hnew, hvisits, List.nil_append]
    exact hsound
  cycle := h.cycle
  acyclic hhandlers hacyclic walk hwalk := (h.cycle hhandlers walk hwalk).not_acyclic hacyclic

theorem wellNested_rooted {s : Session σ} {name : String} (hs : e.Serves catalog running s)
    (hclosed : catalog.Closed) (bottom : Selects σ)
    {operation : (Prepared → List Row → Run σ (List Row)) → Run σ α}
    {operation' : (Prepared → List Row → Run (Tracked σ) (List Row)) → Run (Tracked σ) α}
    (hoperation : ∀ complete complete', (∀ p rows, catalog.find? name = some p.query →
      Mirrors e catalog running name [name] (complete p rows) (complete' p rows)) →
      Mirrors e catalog running name [name] (operation complete) (operation' complete'))
    {depth : Nat} (hdepth : catalog.length ≤ depth + 1) :
    WellNested e catalog name ((operation (e.complete (e.nestedOf depth) [name])).on s)
      ((e.rooted bottom name operation').on (tracking s)) := by
  have hlength : s.store.catalog.length = catalog.length := by rw [hs.catalog]
  have hstart : (setPath [name] : Run (Tracked σ) Unit).on (tracking s) =
      (.ok (), ⟨s.store, { storage := s.storage, path := [name] }⟩) := rfl
  rw [rooted, Run.on_bind_ok hstart, Run.on_bind_ok (on_depth _)]
  have hmirrors := hoperation (e.complete (e.nestedOf depth) [name])
    (e.completeTracked (e.selectTracked bottom (s.store.catalog.length + 1))) fun p rows hp =>
      mirrors_complete_nested hclosed bottom depth _ [name] name p (Catalog.trail_root hp) rfl hp
        (by simp only [List.length_singleton]; omega)
        (by simp only [List.length_singleton]; omega) rows
  exact (hmirrors ⟨s.store, { storage := s.storage, path := [name] }⟩ hs rfl).wellNested rfl rfl

/-- The four operations on a query, with anything at all at the bottom of the nesting. -/
structure OperationsNest (e : Engine σ) (s : Session σ) (bottom : Selects σ) (name : String)
    (request : Request) : Prop where
  get : WellNested e s.store.catalog name ((e.get name request).on s)
    ((e.rooted bottom name fun complete => e.tracked.getBy complete name request).on (tracking s))
  select : WellNested e s.store.catalog name ((e.select name request).on s)
    ((e.rooted bottom name fun complete => e.tracked.selectBy complete name request none).on
      (tracking s))
  page : WellNested e s.store.catalog name ((e.page name request).on s)
    ((e.rooted bottom name fun complete => e.tracked.pageBy complete name request).on (tracking s))
  forward : WellNested e s.store.catalog name ((e.forward name request).on s)
    ((e.rooted bottom name fun complete => e.tracked.forwardBy complete name request).on
      (tracking s))

/-- The operations over a catalog that was validated. Their fetches nest no deeper than there are
queries, so what would be done deeper does not matter; each nested selection goes along a trail
and leaves it as it was; and a cycle is reported only where eager references go round, unless a
handler of the host reports one. -/
theorem operations_nest {d : Draft} {s : Session σ} (hs : e.Reachable s)
    (hbuild : d.build = .ok s.store.catalog) (bottom : Selects σ) (name : String)
    (request : Request) : OperationsNest e s bottom name request := by
  have hclosed := Catalog.closed_of_build hbuild
  refine ⟨?_, ?_, ?_, ?_⟩
  · rw [on_get]
    exact wellNested_rooted hs.serves hclosed bottom
      (fun _ _ hcomplete => mirrors_getBy request hcomplete) (by omega)
  · rw [on_select]
    exact wellNested_rooted hs.serves hclosed bottom
      (fun _ _ hcomplete => mirrors_selectBy request hcomplete none) (by omega)
  · rw [on_page]
    exact wellNested_rooted hs.serves hclosed bottom
      (fun _ _ hcomplete => mirrors_pageBy request hcomplete) (by omega)
  · rw [on_forward]
    exact wellNested_rooted hs.serves hclosed bottom
      (fun _ _ hcomplete => mirrors_forwardBy request hcomplete) (by omega)

/-- Two queries that fetch each other. -/
def ringDraft : Draft :=
  let query (name target : String) : QueryDefinition :=
    { name
      script := { kind := some .literal, code := some "SELECT * FROM nodes" }
      fetches := [{ reference := target, property := some "next" }] }
  { definitions := [⟨"ring", query "left" "right"⟩, ⟨"ring", query "right" "left"⟩] }

def ringStorage : Engine Unit where
  executor :=
    { get := fun _ _ _ s => (.ok (some [("id", .int 1)]), s)
      select := fun _ _ _ _ s => (.ok [[("id", .int 1)]], s) }

def ringSession : Session Unit :=
  { store := { catalog := Catalog.ofDefinitions (ringDraft.definitions.map (·.definition))
               running := true }
    storage := () }

theorem ring_builds : ringDraft.build = .ok ringSession.store.catalog :=
  Draft.build_of_no_problems (by decide +kernel)

theorem ring_operations_nest : ringStorage.Reachable ringSession ∧
    ringDraft.build = .ok ringSession.store.catalog ∧ ringStorage.handlers.AllQuiet ∧
    OperationsNest ringStorage ringSession (fun name _ _ => throw (.notFound name)) "left" {} :=
  ⟨.fresh _ _ _, ring_builds, HintHandlers.standard_quiet,
    operations_nest (.fresh _ _ _) ring_builds _ "left" {}⟩

example : (match ((ringStorage.select "left" {}).on ringSession).1 with
    | .error (.fetchCycle walk) => walk
    | _ => []) = ["left", "right", "left"] := by decide +kernel

end QueryCatalog.Engine
