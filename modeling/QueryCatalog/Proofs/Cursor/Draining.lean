import QueryCatalog.Proofs.Cursor.Attempts
import QueryCatalog.Proofs.Cursor.Windows
import QueryCatalog.Proofs.Engine.Batch

/-!
A cursor that is read to its end over a table that does not change. As long as the retries bridge
the failures it gives each row once and in order, up to the first row that stops it.
-/
namespace QueryCatalog

/-- Failures that the retries of a cursor bridge: never one more in a row than there are retries,
and none of a kind that must not be tried again. -/
structure Tolerable (o : CursorOptions) (log : List Attempt) : Prop where
  broken : ¬List.replicate (o.retryTimes + 1) true <:+: log.map (·.failed)
  retried : ∀ a ∈ log, ∀ e, a.answer = .error e → o.abortOn.contains e.kind = false

theorem Tolerable.infix {o : CursorOptions} {log part : List Attempt} (h : Tolerable o log)
    (hpart : part <:+: log) : Tolerable o part where
  broken hrow := h.broken (hrow.trans (hpart.map _))
  retried a ha := h.retried a (hpart.subset ha)

/-- A window that holds the rows of a table from some row on. -/
def Window.Slice (table : List Row) (first : Nat) (w : Window) : Prop :=
  ∃ size, 0 < size ∧ w.rows = (table.drop first).take size ∧
    w.hasNext = decide (first + size < table.length)

namespace Cursor

variable {σ : Type} {read : WindowReader σ} {o : CursorOptions} {I : σ → Prop}
  {request : Request} {table : List Row}

/-- The rows that a cursor has yet to go over. -/
def remaining (table : List Row) (c : Cursor) : List Row :=
  c.buffer ++ if c.lastBatch then [] else table.drop (c.request.offset.getD 0)

/-- An open cursor between two batches or within one. -/
structure Ready (request : Request) (c : Cursor) : Prop where
  opened : c.closed = false
  failures : c.failures = 0
  request : ∃ offset limit, c.request = request.withWindow offset limit

/-- What a reader does to the requests that differ in their windows only. -/
structure Slices (read : WindowReader σ) (I : σ → Prop) (request : Request) (table : List Row) :
    Prop where
  keeps : ∀ r s, I s → I (read r s).2
  slice : ∀ offset limit u w t, I u → read (request.withWindow offset limit) u = (.ok w, t) →
    w.Slice table (offset.getD 0)

theorem not_tolerable_of_error {c c' : Cursor} {s t : σ} {e : QueryError}
    {attempts : List Attempt} (h : Tries read o o.retryTimes c s (.error e) c' t attempts) :
    ¬Tolerable o attempts := by
  intro htolerable
  rcases h.given_up rfl with hall | ⟨a, ha, e', he, habort⟩
  · exact htolerable.broken (hall ▸ List.infix_rfl)
  · rw [htolerable.retried a ha e' he] at habort
    cases habort

/-- A batch that is read takes its rows from those that remain. -/
theorem remaining_of_slice (hrevise : o.revise = none) {c c' : Cursor} {w : Window}
    (hbuffer : c.buffer = []) (hmore : c.lastBatch = false) (haccepts : Accepts o c c' w)
    (hw : w.Slice table (c.request.offset.getD 0)) :
    remaining table c' = remaining table c ∧ (c'.buffer = [] → remaining table c' = []) := by
  obtain ⟨size, hsize, hrows, hnext⟩ := hw
  have hbefore : remaining table c = table.drop (c.request.offset.getD 0) := by
    simp [remaining, hbuffer, hmore]
  have hbuffer' : c'.buffer = w.rows := by rw [haccepts.buffer, hbuffer, List.nil_append]
  by_cases hend : c.request.offset.getD 0 + size < table.length
  · -- the window is full, and the next one starts right behind it
    have hlength : w.rows.length = size := by
      rw [hrows, List.length_take, List.length_drop]
      omega
    have hne : w.rows ≠ [] := by
      rw [← List.length_pos_iff, hlength]
      exact hsize
    have hlast : c'.lastBatch = false := by simp [haccepts.lastBatch, hnext, hend]
    have hoffset : c'.request.offset.getD 0 = c.request.offset.getD 0 + size := by
      rw [haccepts.request, nextRequest_eq hrevise hne, hlength]
      rfl
    refine ⟨?_, fun hnone => absurd (hbuffer'.symm.trans hnone) hne⟩
    rw [hbefore, remaining, hbuffer', hlast, hoffset, hrows, ← List.drop_drop]
    exact List.take_append_drop _ _
  · have hlast : c'.lastBatch = true := by simp [haccepts.lastBatch, hnext, hend]
    have hall : w.rows = table.drop (c.request.offset.getD 0) := by
      rw [hrows]
      refine List.take_of_length_le ?_
      rw [List.length_drop]
      omega
    have hafter : remaining table c' = w.rows := by simp [remaining, hbuffer', hlast]
    exact ⟨by rw [hafter, hall, hbefore], fun hnone => by rw [hafter, ← hbuffer', hnone]⟩

/-- One item of a cursor that is read to its end: the first row that remains, or the end because
none remains or the first one stops the cursor. -/
structure Drains (o : CursorOptions) (request : Request) (table : List Row) (c : Cursor)
    (item : CursorItem) (c' : Cursor) : Prop where
  failures : c'.failures = 0
  item : (item = none ∧ c'.closed = true ∧
      (remaining table c).takeWhile (fun row => !o.stop row) = []) ∨
    ∃ row, item = some (.ok row) ∧ o.stop row = false ∧
      remaining table c = row :: remaining table c' ∧ Ready request c'

theorem failures_close (c : Cursor) : c.close.failures = c.failures := by
  unfold close
  split_ifs <;> rfl

theorem retries_close (c : Cursor) : c.close.retries = c.retries := by
  unfold close
  split_ifs <;> rfl

theorem Takes.drains {c c' : Cursor} {item : CursorItem} (h : Takes o c item c')
    (hc : Ready request c) (hend : c.buffer = [] → remaining table c = []) :
    Drains o request table c item c' := by
  cases h with
  | nothing hbuffer =>
    refine ⟨(failures_close c).trans hc.failures, .inl ⟨rfl, closed_close c, ?_⟩⟩
    rw [hend hbuffer]
    rfl
  | @stopped row rest hbuffer hstop =>
    refine ⟨(failures_close _).trans hc.failures, .inl ⟨rfl, closed_close _, ?_⟩⟩
    rw [remaining, hbuffer, List.cons_append, List.takeWhile_cons_of_neg (by simp [hstop])]
  | @row row rest hbuffer hstop =>
    refine ⟨hc.failures, .inr ⟨row, rfl, hstop, ?_, ⟨hc.opened, hc.failures, hc.request⟩⟩⟩
    rw [remaining, hbuffer, List.cons_append]
    rfl

theorem Takes.retries_eq {c c' : Cursor} {item : CursorItem} (h : Takes o c item c') :
    c'.retries = c.retries := by
  cases h with
  | nothing => exact retries_close c
  | stopped => exact retries_close _
  | row => rfl

theorem ready_of_accepts {c c' : Cursor} {w : Window} (hrevise : o.revise = none)
    (hc : Ready request c) (haccepts : Accepts o c c' w) (hfailures : c'.failures = 0) :
    Ready request c' := by
  obtain ⟨offset, limit, hrequest⟩ := hc.request
  refine ⟨haccepts.closed.trans hc.opened, hfailures, ?_⟩
  by_cases hrows : w.rows = []
  · refine ⟨offset, limit, ?_⟩
    rw [haccepts.request, hrows, hrequest]
    rfl
  · refine ⟨some (c.request.offset.getD 0 + w.rows.length), limit, ?_⟩
    rw [haccepts.request, nextRequest_eq hrevise hrows, hrequest]
    rfl

theorem Gives.drains (hslices : Slices read I request table) (hrevise : o.revise = none)
    {c c' : Cursor} {s t : σ} {item : CursorItem} {attempts : List Attempt}
    (h : Gives read o c s item c' t attempts) (hc : Ready request c) (hs : I s)
    (htolerable : Tolerable o attempts) :
    I t ∧ c'.retries = c.retries + attempts.countP (·.failed) ∧
      Drains o request table c item c' := by
  have hretries : o.retryTimes - c.failures = o.retryTimes := by rw [hc.failures, Nat.sub_zero]
  cases h with
  | closed hclosed =>
    rw [hc.opened] at hclosed
    cases hclosed
  | buffered _ hbuffer htakes =>
    exact ⟨hs, htakes.retries_eq, htakes.drains hc fun hnone => absurd hnone hbuffer⟩
  | finished _ hbuffer hlast =>
    have hnone : remaining table c = [] := by simp [remaining, hbuffer, hlast]
    refine ⟨hs, retries_close c, (failures_close c).trans hc.failures, ?_⟩
    exact .inl ⟨rfl, closed_close c, by rw [hnone]; rfl⟩
  | failed _ _ _ htries =>
    rw [hretries] at htries
    exact absurd htolerable (not_tolerable_of_error htries)
  | @batch _ d _ _ _ _ hbuffer hmore htries htakes =>
    obtain ⟨w, u, hu, hw, haccepts, hfailures, hcount⟩ := htries.accepted hslices.keeps hs rfl
    have ht := htries.keeps hslices.keeps hs
    obtain ⟨offset, limit, hrequest⟩ := hc.request
    have hslice : w.Slice table (c.request.offset.getD 0) := by
      rw [hrequest] at hw ⊢
      exact hslices.slice offset limit u w t hu hw
    obtain ⟨hsame, hend⟩ := remaining_of_slice hrevise hbuffer hmore haccepts hslice
    obtain ⟨hfailures', hitem⟩ :=
      htakes.drains (ready_of_accepts hrevise hc haccepts hfailures) hend
    rw [hsame] at hitem
    exact ⟨ht, htakes.retries_eq.trans hcount, hfailures', hitem⟩

/-- A cursor that was read to its end. -/
structure Drained (o : CursorOptions) (table : List Row) (c : Cursor)
    (items : List (Except QueryError Row)) (last : Cursor) (attempts : List Attempt) : Prop where
  items : items = ((remaining table c).takeWhile fun row => !o.stop row).map .ok
  closed : last.closed = true
  failures : last.failures = 0
  retries : last.retries = c.retries + attempts.countP (·.failed)

theorem Collects.drained (hslices : Slices read I request table) (hrevise : o.revise = none)
    {n : Nat} {c last : Cursor} {s t : σ} {items : List (Except QueryError Row)}
    {attempts : List Attempt} (h : Collects read o n c s items last t attempts)
    (hc : Ready request c) (hs : I s) (htolerable : Tolerable o attempts)
    (hn : ((remaining table c).takeWhile fun row => !o.stop row).length < n) :
    Drained o table c items last attempts := by
  induction h with
  | enough => exact absurd hn (Nat.not_lt_zero _)
  | ended hgives =>
    obtain ⟨-, hretries, hfailures, hitem⟩ := hgives.drains hslices hrevise hc hs htolerable
    rcases hitem with ⟨-, hclosed, hnone⟩ | ⟨row, hrow, -⟩
    · exact ⟨by rw [hnone]; rfl, hclosed, hfailures, hretries⟩
    · cases hrow
  | @item n c c' last s t u item items attempts rest hgives _ ih =>
    have hfirst : Tolerable o attempts := htolerable.infix (List.prefix_append _ _).isInfix
    have hrest : Tolerable o rest := htolerable.infix (List.suffix_append _ _).isInfix
    obtain ⟨ht, hretries, -, hitem⟩ := hgives.drains hslices hrevise hc hs hfirst
    rcases hitem with ⟨hnone, -⟩ | ⟨row, hrow, hstop, hrows, hc'⟩
    · cases hnone
    · obtain rfl : item = .ok row := Option.some.inj hrow
      rw [hrows, List.takeWhile_cons_of_pos (by simp [hstop]), List.length_cons] at hn
      have hdrained := ih hc' ht hrest (Nat.lt_of_succ_lt_succ hn)
      refine ⟨?_, hdrained.closed, hdrained.failures, ?_⟩
      · rw [hrows, List.takeWhile_cons_of_pos (by simp [hstop]), List.map_cons, hdrained.items]
      · rw [hdrained.retries, hretries, List.countP_append, Nat.add_assoc]

end Cursor

namespace Engine

variable {σ : Type} {e : Engine σ} {name : String} {request : Request} {table : List Row}

/-- Where the storage answers the statement of the request for an offset and a limit, it brings that
part of the table. -/
def AnswersTable (e : Engine σ) (catalog : Catalog) (name : String) (request : Request)
    (table : List Row) : Prop :=
  ∀ p final, ({ catalog } : PlanStore).prepareAnew e.workshop name request = .ok p →
    p.final = .ok final → ∀ offset limit expected timeout storage rows,
      (e.executor.select (e.dialect.limit final.statement offset limit p.query.hints) expected
        timeout final.args storage).1 = .ok rows → rows = (table.drop offset).take limit

theorem slices_windows {catalog : Catalog} {q : Query} (running : Bool)
    (htable : e.AnswersTable catalog name request table) (hquery : catalog.find? name = some q)
    (hfetches : q.fetches = []) (hhints : q.hints = []) :
    Cursor.Slices (e.windows name) (e.Serves catalog running) request table where
  keeps r s hs := (kept_serves e catalog running).forward name r s hs
  slice offset limit u w t hu h := by
    obtain ⟨base, final, found, storage, expected, timeout, depth, hbase, hfinal, hfound, hw⟩ :=
      forward_prepared hu h
    have hsame : base.query = q :=
      Option.some.inj ((PlanStore.find?_of_prepareAnew hbase).symm.trans hquery)
    have hlimit : w.limit = e.settings.limitOf base.query limit := hw.limit
    have hrows : found = (table.drop (offset.getD 0)).take (w.limit + 1) := by
      rw [hlimit]
      exact htable base final hbase hfinal _ _ _ _ _ _ hfound
    obtain ⟨v, v', hcomplete⟩ := hw.rows
    have hplain : (base.withWindow offset limit).query = q := hsame
    rw [complete_plain (hplain ▸ hfetches) (hplain ▸ hhints)] at hcomplete
    have hkept : found.take w.limit = w.rows := Except.ok.inj (congrArg Prod.fst hcomplete)
    refine ⟨w.limit, hlimit ▸ limitOf_pos _ _ _, ?_, ?_⟩
    · rw [← hkept, hrows, List.take_take, Nat.min_eq_left (Nat.le_succ _)]
    · rw [hw.hasNext, hrows, List.length_take, List.length_drop]
      congr 1
      simp only [eq_iff_iff]
      omega

/-- A query without fetches and hints that is read to its end gives the rows of its table from the
offset on, up to the first that stops the cursor, whatever failures the retries bridge. -/
theorem cursor_drains_table {s : Session σ} {o : CursorOptions} {q : Query} {n : Nat}
    (hs : e.Reachable s) (hquery : s.store.catalog.find? name = some q)
    (hfetches : q.fetches = []) (hhints : q.hints = [])
    (htable : e.AnswersTable s.store.catalog name request table) (hrevise : o.revise = none)
    (hn : ((table.drop (request.offset.getD 0)).takeWhile fun row => !o.stop row).length < n)
    (htolerable : Tolerable o
      (Cursor.collect (e.windows name).tried o n (e.cursor request) (s, [])).2.2.2) :
    ∃ items last t attempts,
      Cursor.collect (e.windows name) o n (e.cursor request) s = (items, last, t) ∧
      Cursor.collect (e.windows name).tried o n (e.cursor request) (s, []) =
        (items, last, t, attempts) ∧
      items = ((table.drop (request.offset.getD 0)).takeWhile fun row => !o.stop row).map .ok ∧
      last.closed = true ∧ last.failures = 0 ∧ last.retries = attempts.countP (·.failed) := by
  obtain ⟨items, last, t, attempts, hrun, htried, hcollects⟩ :=
    Cursor.collect_collects (e.windows name) o n (e.cursor request) s []
  rw [List.nil_append] at htried
  rw [htried] at htolerable
  have hready : Cursor.Ready request (e.cursor request) := ⟨rfl, rfl, request.offset, _, rfl⟩
  have hslices := slices_windows s.store.running htable hquery hfetches hhints
  have hdrained := hcollects.drained hslices hrevise hready hs.serves htolerable hn
  have hretries := hdrained.retries
  rw [show (e.cursor request).retries = 0 from rfl, Nat.zero_add] at hretries
  exact ⟨items, last, t, attempts, hrun, htried, hdrained.items, hdrained.closed,
    hdrained.failures, hretries⟩

/-- The items in a storage that fails as its state foretells. -/
def flakyStorage : Engine (List Bool) where
  executor :=
    { get := fun _ _ _ s => (.ok none, s)
      select := fun statement _ _ _ s =>
        if s.head?.getD false then (.error "unreachable", s.tail)
        else
          (.ok ((itemRows.drop (statement.toList.count '+')).take (statement.toList.count '#')),
            s.tail) }
  dialect := markDialect

def flakySession : Session (List Bool) :=
  { store := { catalog := [("items", itemQuery [])], running := true }
    storage := [true, false, true, false] }

def flakyOptions : CursorOptions := { retryTimes := 1, stop := (·.has "x") }

theorem flaky_answersTable : flakyStorage.AnswersTable flakySession.store.catalog "items"
    { offset := some 1, limit := some 2 } itemRows := by
  intro p final hp hfinal offset limit expected timeout storage rows hrows
  have hprepared : ({ catalog := flakySession.store.catalog } : PlanStore).prepareAnew
      flakyStorage.workshop "items" { offset := some 1, limit := some 2 } =
        .ok ((itemPrepared []).withWindow (some 1) (some 2)) := rfl
  rw [hprepared] at hp
  cases hp
  cases hfinal
  simp only [flakyStorage] at hrows
  split_ifs at hrows
  obtain ⟨hoffset, hlimit⟩ := count_marks (by decide : "SELECT * FROM items".toList.count '+' = 0)
    (by decide) offset limit (itemPrepared []).query.hints
  exact (Except.ok.inj hrows).symm.trans
    (congrArg₂ (fun o l => (itemRows.drop o).take l) hoffset hlimit)

/-- Every other attempt fails, and a single retry bridges that. -/
theorem cursor_drains_flaky_items :
    ∃ items last t attempts,
      Cursor.collect (flakyStorage.windows "items") flakyOptions 9
        (flakyStorage.cursor { offset := some 1, limit := some 2 }) flakySession =
          (items, last, t) ∧
      Cursor.collect (flakyStorage.windows "items").tried flakyOptions 9
        (flakyStorage.cursor { offset := some 1, limit := some 2 }) (flakySession, []) =
          (items, last, t, attempts) ∧
      items = ((itemRows.drop 1).takeWhile fun row => !flakyOptions.stop row).map .ok ∧
      last.closed = true ∧ last.failures = 0 ∧ last.retries = attempts.countP (·.failed) := by
  refine cursor_drains_table (.fresh _ _ _) rfl rfl rfl flaky_answersTable rfl (by decide +kernel)
    ⟨?_, fun _ _ _ _ => rfl⟩
  have hflags : (Cursor.collect (flakyStorage.windows "items").tried flakyOptions 9
      (flakyStorage.cursor { offset := some 1, limit := some 2 })
      (flakySession, [])).2.2.2.map (·.failed) = [true, false, true, false] := by decide +kernel
  rw [hflags]
  decide

end Engine

end QueryCatalog
