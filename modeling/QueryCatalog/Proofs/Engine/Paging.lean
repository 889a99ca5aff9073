import QueryCatalog.Proofs.Cursor.Windows
import QueryCatalog.Proofs.Engine.Batch
import QueryCatalog.Proofs.Engine.Recording
import QueryCatalog.Proofs.Engine.Visits

/-!
Pages and windows of a query that has neither fetches nor hints, over a table that does not change.
Both are the same part of the table; the number of all rows is counted only for a full page, and
the row that is read in advance tells whether more follow.
-/
namespace QueryCatalog.Engine

variable {σ : Type} {e : Engine σ} {name : String} {request : Request} {table : List Row}

/-- In whatever state the storage is, the counting statement of the request brings a row that holds
the number of the table's rows. -/
def CountsTable (e : Engine σ) (catalog : Catalog) (name : String) (request : Request)
    (table : List Row) : Prop :=
  ∀ p final, ({ catalog } : PlanStore).prepareAnew e.workshop name request = .ok p →
    p.final = .ok final → ∀ timeout storage, ∃ row,
      (e.executor.get (e.dialect.count final.statement p.query.hints) timeout final.args
        storage).1 = .ok (some row) ∧ row.get? e.dialect.totalField = some (.nat table.length)

/-! A record of the calls changes nothing of what the storage answers. -/

theorem Serves.recorded {catalog : Catalog} {running : Bool} {s : Session σ}
    (h : e.Serves catalog running s) : e.recorded.Serves catalog running (recording s) :=
  ⟨h.catalog, h.running, h.faithful⟩

theorem ReadsTable.recorded {catalog : Catalog} (h : e.ReadsTable catalog name request table) :
    e.recorded.ReadsTable catalog name request table := by
  intro p final hp hfinal offset limit expected timeout storage
  exact h p final hp hfinal offset limit expected timeout storage.1

theorem CountsTable.recorded {catalog : Catalog} (h : e.CountsTable catalog name request table) :
    e.recorded.CountsTable catalog name request table := by
  intro p final hp hfinal timeout storage
  exact h p final hp hfinal timeout storage.1

section Steps

variable {p : Prepared} {final : BoundStatement} {s u v w : Session σ} {found : List Row}
  {offset limit total : Nat} (hp : (e.prepare name request).on s = (.ok p, u))
  (hfinal : p.final = .ok final) (hfetches : p.query.fetches = []) (hhints : p.query.hints = [])
  (hoffset : p.request.offset.getD 0 = offset)
  (hlimit : e.settings.limitOf p.query p.request.limit = limit)

include hp hfinal hfetches hhints hoffset hlimit

theorem on_page_plain (hfit : found.length ≤ limit)
    (hfound : (e.selectRows p name (e.dialect.limit final.statement offset limit p.query.hints)
      limit final.args).on u = (.ok found, v))
    (htotal : (e.total p name final offset limit found.length).on v = (.ok total, w)) :
    (e.page name request).on s = (.ok ⟨offset, limit, total, found⟩, w) := by
  subst hoffset hlimit
  have hall := List.take_of_length_le hfit
  rw [← hall] at htotal
  rw [on_page, pageBy, Run.on_bind_ok hp, Run.on_bind_ok (by rw [Run.on_lift, hfinal])]
  rw [Run.on_bind_ok hfound, Run.on_bind_ok htotal,
    Run.on_bind_ok (complete_plain hfetches hhints _ w), hall]
  rfl

theorem on_forward_plain
    (hfound : (e.selectRows p name
      (e.dialect.limit final.statement offset (limit + 1) p.query.hints) (limit + 1)
        final.args).on u = (.ok found, v)) :
    (e.forward name request).on s =
      (.ok ⟨offset, limit, limit < found.length, found.take limit⟩, v) := by
  subst hoffset hlimit
  rw [on_forward, forwardBy, Run.on_bind_ok hp, Run.on_bind_ok (by rw [Run.on_lift, hfinal])]
  rw [Run.on_bind_ok hfound, Run.on_bind_ok (complete_plain hfetches hhints _ v)]
  rfl

end Steps

section Total

variable {p : Prepared} {final : BoundStatement} {v w : Session σ} {offset limit size : Nat}

/-- A short page ends the table, so all rows are those before it and its own. -/
theorem on_total_of_short (h : size < limit) :
    (e.total p name final offset limit size).on v = (.ok (offset + size), v) := by
  rw [total, if_pos h]
  rfl

theorem on_total_of_full (h : limit ≤ size) {row : Row} (hrow : (e.getRow p name
      (e.dialect.count final.statement p.query.hints) final.args).on v = (.ok (some row), w))
    (hcount : row.get? e.dialect.totalField = some (.nat table.length)) :
    (e.total p name final offset limit size).on v = (.ok table.length, w) := by
  have htotal : totalOf e.dialect.totalField (some row) = table.length := by
    rw [totalOf, Option.bind_some, hcount]
    rfl
  rw [total, if_neg (Nat.not_lt.mpr h), Run.on_bind_ok hrow, htotal]
  rfl

end Total

theorem selectRows_of_ok (name : String) {p : Prepared} {statement : String} {expected : Nat}
    {args : List Json} {u : Session σ} {rows : List Row}
    (h : (e.executor.select statement expected (e.settings.timeoutOf p.query) args u.storage).1 =
      .ok rows) : ∃ v, (e.selectRows p name statement expected args).on u = (.ok rows, v) :=
  ⟨_, on_selectRows (Prod.ext h rfl) name⟩

theorem getRow_of_ok (name : String) {p : Prepared} {statement : String} {args : List Json}
    {u : Session σ} {row : Option Row}
    (h : (e.executor.get statement (e.settings.timeoutOf p.query) args u.storage).1 = .ok row) :
    ∃ v, (e.getRow p name statement args).on u = (.ok row, v) :=
  ⟨_, on_getRow (Prod.ext h rfl) name⟩

theorem prepare_of_anew {catalog : Catalog} {p : Prepared} {s : Session σ}
    (hs : e.Serves catalog true s)
    (hp : ({ catalog } : PlanStore).prepareAnew e.workshop name request = .ok p) :
    ∃ u, (e.prepare name request).on s = (.ok p, u) :=
  ⟨_, Prod.ext ((prepare_of_serves hs name request).trans hp) rfl⟩

/-- Preparation leaves the window of a request as it is. -/
theorem window_of_prepareAnew {w : Workshop} {store : PlanStore} {p : Prepared}
    (hp : store.prepareAnew w name request = .ok p) :
    p.request.offset = request.offset ∧ p.request.limit = request.limit := by
  have hsame := PlanStore.prepareAnew_withWindow w store name request request.offset request.limit
  have hrequest : request.withWindow request.offset request.limit = request := rfl
  rw [hrequest, hp] at hsame
  have hwindow : p = p.withWindow request.offset request.limit := Except.ok.inj hsame
  rw [hwindow]
  exact ⟨rfl, rfl⟩

/-- The rows are read by the first call. -/
theorem calls_of_steps {s : Session σ} {u v : Session (σ × List BoundStatement)} {p : Prepared}
    {statement : String} {expected : Nat} {args : List Json} {answer : Except QueryError (List Row)}
    (hp : (e.recorded.prepare name request).on (recording s) = (.ok p, u))
    (hread : (e.recorded.selectRows p name statement expected args).on u = (answer, v)) :
    calls v = [⟨statement, args⟩] := by
  have hprepared := calls_prepare (e := e) name request (recording s)
  have hselected := calls_selectRows (e := e) p name statement expected args u
  rw [hp] at hprepared
  rw [hread, hprepared] at hselected
  exact hselected

section Table

variable {catalog : Catalog} {s : Session σ} {p : Prepared} {final : BoundStatement}
  {offset limit : Nat}

/-- The steps of a page of a table's rows, after which the number of all rows is known. -/
structure PageSteps (e : Engine σ) (name : String) (request : Request) (p : Prepared)
    (final : BoundStatement) (table : List Row) (offset limit : Nat) (s u v t : Session σ)
    (total : Nat) : Prop where
  prepared : (e.prepare name request).on s = (.ok p, u)
  read : (e.selectRows p name (e.dialect.limit final.statement offset limit p.query.hints) limit
    final.args).on u = (.ok ((table.drop offset).take limit), v)
  counted : (table.length < offset + limit ∧ t = v) ∨ (offset + limit ≤ table.length ∧
    ∃ row, (e.getRow p name (e.dialect.count final.statement p.query.hints) final.args).on v =
      (.ok row, t))
  answer : (e.page name request).on s =
    (.ok ⟨offset, limit, total, (table.drop offset).take limit⟩, t)
  total : offset ≤ table.length → total = table.length

theorem length_slice (table : List Row) (offset limit : Nat) :
    ((table.drop offset).take limit).length = min limit (table.length - offset) := by
  rw [List.length_take, List.length_drop]

theorem page_of_table (hs : e.Serves catalog true s)
    (hp : ({ catalog } : PlanStore).prepareAnew e.workshop name request = .ok p)
    (hfinal : p.final = .ok final) (hfetches : p.query.fetches = []) (hhints : p.query.hints = [])
    (hoffset : p.request.offset.getD 0 = offset)
    (hlimit : e.settings.limitOf p.query p.request.limit = limit)
    (htable : e.ReadsTable catalog name request table)
    (hcounts : e.CountsTable catalog name request table) :
    ∃ u v t total, e.PageSteps name request p final table offset limit s u v t total := by
  obtain ⟨u, hprepare⟩ := prepare_of_anew hs hp
  obtain ⟨v, hrows⟩ := selectRows_of_ok name
    (htable p final hp hfinal offset limit limit (e.settings.timeoutOf p.query) u.storage)
  have hlength := length_slice table offset limit
  have hfit : ((table.drop offset).take limit).length ≤ limit := by omega
  have hanswer : ∀ total t, (e.total p name final offset limit
      ((table.drop offset).take limit).length).on v = (.ok total, t) →
        (e.page name request).on s =
          (.ok ⟨offset, limit, total, (table.drop offset).take limit⟩, t) :=
    fun _ _ => on_page_plain hprepare hfinal hfetches hhints hoffset hlimit hfit hrows
  have hpositive : 0 < limit := hlimit ▸ limitOf_pos e.settings p.query p.request.limit
  by_cases hshort : ((table.drop offset).take limit).length < limit
  · refine ⟨u, v, v, _, hprepare, hrows, .inl ⟨by omega, rfl⟩,
      hanswer _ _ (on_total_of_short hshort), ?_⟩
    intro hin
    omega
  · obtain ⟨row, hrow, hcount⟩ := hcounts p final hp hfinal (e.settings.timeoutOf p.query) v.storage
    obtain ⟨t, hget⟩ := getRow_of_ok name hrow
    have hfull := Nat.not_lt.mp hshort
    exact ⟨u, v, t, _, hprepare, hrows, .inr ⟨by omega, _, hget⟩,
      hanswer _ _ (on_total_of_full hfull hget hcount), fun _ => rfl⟩

theorem forward_of_table_plain (hs : e.Serves catalog true s)
    (hp : ({ catalog } : PlanStore).prepareAnew e.workshop name request = .ok p)
    (hfinal : p.final = .ok final) (hfetches : p.query.fetches = []) (hhints : p.query.hints = [])
    (hoffset : p.request.offset.getD 0 = offset)
    (hlimit : e.settings.limitOf p.query p.request.limit = limit)
    (htable : e.ReadsTable catalog name request table) :
    ∃ u v found, (e.prepare name request).on s = (.ok p, u) ∧
      (e.selectRows p name (e.dialect.limit final.statement offset (limit + 1) p.query.hints)
        (limit + 1) final.args).on u = (.ok found, v) ∧
      (e.forward name request).on s =
        (.ok ⟨offset, limit, offset + limit < table.length, (table.drop offset).take limit⟩,
          v) := by
  obtain ⟨u, hprepare⟩ := prepare_of_anew hs hp
  obtain ⟨v, hrows⟩ := selectRows_of_ok name
    (htable p final hp hfinal offset (limit + 1) (limit + 1) (e.settings.timeoutOf p.query)
      u.storage)
  refine ⟨u, v, _, hprepare, hrows, ?_⟩
  have hanswer := on_forward_plain hprepare hfinal hfetches hhints hoffset hlimit hrows
  have hcut : ((table.drop offset).take (limit + 1)).take limit =
      (table.drop offset).take limit := by
    rw [List.take_take, Nat.min_eq_left (Nat.le_succ limit)]
  have hmore : limit < ((table.drop offset).take (limit + 1)).length ↔
      offset + limit < table.length := by
    rw [length_slice]
    omega
  rw [hcut] at hanswer
  simpa only [hmore] using hanswer

theorem calls_page_of_table (hs : e.Serves catalog true s)
    (hp : ({ catalog } : PlanStore).prepareAnew e.workshop name request = .ok p)
    (hfinal : p.final = .ok final) (hfetches : p.query.fetches = []) (hhints : p.query.hints = [])
    (hoffset : p.request.offset.getD 0 = offset)
    (hlimit : e.settings.limitOf p.query p.request.limit = limit)
    (htable : e.ReadsTable catalog name request table)
    (hcounts : e.CountsTable catalog name request table) :
    calls ((e.recorded.page name request).on (recording s)).2 =
      ⟨e.dialect.limit final.statement offset limit p.query.hints, final.args⟩ ::
        if ((table.drop offset).take limit).length = limit then
          [⟨e.dialect.count final.statement p.query.hints, final.args⟩]
        else [] := by
  obtain ⟨u, v, t, total, hsteps⟩ := page_of_table (e := e.recorded) hs.recorded hp hfinal
    hfetches hhints hoffset hlimit htable.recorded hcounts.recorded
  have hlength := length_slice table offset limit
  have hpositive : 0 < limit := hlimit ▸ limitOf_pos e.settings p.query p.request.limit
  have hread : calls v =
      [⟨e.dialect.limit final.statement offset limit p.query.hints, final.args⟩] :=
    calls_of_steps hsteps.prepared hsteps.read
  rw [hsteps.answer]
  rcases hsteps.counted with ⟨hshort, rfl⟩ | ⟨hfull, row, hrow⟩
  · have hpartial : ((table.drop offset).take limit).length ≠ limit := by omega
    rw [if_neg hpartial]
    exact hread
  · have hwhole : ((table.drop offset).take limit).length = limit := by omega
    have hcount : calls ((e.recorded.getRow p name (e.dialect.count final.statement p.query.hints)
        final.args).on v).2 =
          calls v ++ [⟨e.dialect.count final.statement p.query.hints, final.args⟩] :=
      calls_getRow p name _ final.args v
    have hlast : ((e.recorded.getRow p name (e.dialect.count final.statement p.query.hints)
        final.args).on v).2 = t := congrArg Prod.snd hrow
    rw [hlast, hread] at hcount
    rw [if_pos hwhole]
    exact hcount

end Table

/-- A page and a window of the same part of a table. The number of all rows is right unless the part
lies behind the table, and a statement counts them just when the page is full. -/
structure PagesTable (e : Engine σ) (s : Session σ) (name : String) (request : Request) (q : Query)
    (final : BoundStatement) (table : List Row) (offset limit : Nat) : Prop where
  page : ∃ total t, (e.page name request).on s =
      (.ok ⟨offset, limit, total, (table.drop offset).take limit⟩, t) ∧
    (offset ≤ table.length → total = table.length)
  pageCalls : calls ((e.recorded.page name request).on (recording s)).2 =
    ⟨e.dialect.limit final.statement offset limit q.hints, final.args⟩ ::
      if ((table.drop offset).take limit).length = limit then
        [⟨e.dialect.count final.statement q.hints, final.args⟩]
      else []
  forward : ∃ t, (e.forward name request).on s =
    (.ok ⟨offset, limit, offset + limit < table.length, (table.drop offset).take limit⟩, t)
  forwardCalls : calls ((e.recorded.forward name request).on (recording s)).2 =
    [⟨e.dialect.limit final.statement offset (limit + 1) q.hints, final.args⟩]

theorem pages_of_table {s : Session σ} {q : Query} {p : Prepared} {final : BoundStatement}
    (hs : e.Reachable s) (hrunning : s.store.running = true)
    (hquery : s.store.catalog.find? name = some q) (hfetches : q.fetches = [])
    (hhints : q.hints = [])
    (hp : ({ catalog := s.store.catalog } : PlanStore).prepareAnew e.workshop name request = .ok p)
    (hfinal : p.final = .ok final) (htable : e.ReadsTable s.store.catalog name request table)
    (hcounts : e.CountsTable s.store.catalog name request table) :
    e.PagesTable s name request q final table (request.offset.getD 0)
      (e.settings.limitOf q request.limit) := by
  have hserves : e.Serves s.store.catalog true s := by
    rw [← hrunning]
    exact hs.serves
  obtain rfl : p.query = q := by
    have hfound := PlanStore.find?_of_prepareAnew hp
    rw [hquery] at hfound
    exact (Option.some.inj hfound).symm
  obtain ⟨hoffset, hlimit⟩ := window_of_prepareAnew hp
  rw [← hoffset, ← hlimit]
  constructor
  · obtain ⟨u, v, t, total, hsteps⟩ :=
      page_of_table hserves hp hfinal hfetches hhints rfl rfl htable hcounts
    exact ⟨total, t, hsteps.answer, hsteps.total⟩
  · exact calls_page_of_table hserves hp hfinal hfetches hhints rfl rfl htable hcounts
  · obtain ⟨u, v, found, -, -, hanswer⟩ :=
      forward_of_table_plain hserves hp hfinal hfetches hhints rfl rfl htable
    exact ⟨v, hanswer⟩
  · obtain ⟨u, v, found, hprepare, hread, hanswer⟩ := forward_of_table_plain (e := e.recorded)
      hserves.recorded hp hfinal hfetches hhints rfl rfl htable.recorded
    rw [hanswer]
    exact calls_of_steps hprepare hread

/-- The items, which can also be counted. -/
def countedStorage : Engine Unit :=
  { itemStorage with
    executor :=
      { itemStorage.executor with
        get := fun _ _ _ s => (.ok (some [("total", .nat itemRows.length)]), s) } }

theorem items_prepared : ({ catalog := (itemSession []).store.catalog } : PlanStore).prepareAnew
    countedStorage.workshop "items" itemRequest = .ok (itemPrepared []) := rfl

theorem countedItems_readsTable :
    countedStorage.ReadsTable (itemSession []).store.catalog "items" itemRequest itemRows :=
  items_readsTable items_prepared

theorem countedItems_countsTable :
    countedStorage.CountsTable (itemSession []).store.catalog "items" itemRequest itemRows :=
  fun _ _ _ _ _ _ => ⟨_, rfl, rfl⟩

theorem pages_of_items : countedStorage.Reachable (itemSession []) ∧
    (itemSession []).store.running = true ∧
    (itemSession []).store.catalog.find? "items" = some (itemQuery []) ∧
    (itemQuery []).fetches = [] ∧ (itemQuery []).hints = [] ∧
    countedStorage.ReadsTable (itemSession []).store.catalog "items" itemRequest itemRows ∧
    countedStorage.CountsTable (itemSession []).store.catalog "items" itemRequest itemRows ∧
    countedStorage.PagesTable (itemSession []) "items" itemRequest (itemQuery [])
      ⟨"SELECT * FROM items", []⟩ itemRows 0 2 :=
  ⟨.fresh _ _ _, rfl, rfl, rfl, rfl, countedItems_readsTable, countedItems_countsTable,
    pages_of_table (.fresh _ _ _) rfl rfl rfl rfl items_prepared rfl countedItems_readsTable
      countedItems_countsTable⟩

end QueryCatalog.Engine
