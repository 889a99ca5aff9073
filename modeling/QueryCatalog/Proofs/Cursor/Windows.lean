import QueryCatalog.Proofs.Cursor.Readings
import QueryCatalog.Proofs.Engine.Page

/-!
A cursor over a query whose rows come from a table that does not change. Its windows lie one behind
the other in the table if and only if fetches and hints leave the number of their rows as it is: the
offset goes on by the rows that are left, while the storage counts all that it has delivered.
-/
namespace QueryCatalog

/-- The rows of a table that a window holds before they are completed. -/
def Window.kept (w : Window) (table : List Row) : List Row := (table.drop w.offset).take w.limit

/-- The window has as many rows as the storage delivered for it. -/
def Window.SameSize (w : Window) (table : List Row) : Prop :=
  w.rows.length = (w.kept table).length

namespace Engine

variable {σ : Type} {e : Engine σ} {name : String} {request : Request} {table : List Row}

/-- In whatever state the storage is, the statement of the request for an offset and a limit brings
that part of the table. -/
def ReadsTable (e : Engine σ) (catalog : Catalog) (name : String) (request : Request)
    (table : List Row) : Prop :=
  ∀ p final, ({ catalog } : PlanStore).prepareAnew e.workshop name request = .ok p →
    p.final = .ok final → ∀ offset limit expected timeout storage,
      (e.executor.select (e.dialect.limit final.statement offset limit p.query.hints) expected
        timeout final.args storage).1 = .ok ((table.drop offset).take limit)

/-- A window of the table's rows, from where it was asked for on, and completed. -/
structure OfTable (e : Engine σ) (name : String) (table : List Row) (x : Reading) : Prop where
  offset : x.window.offset = x.request.offset.getD 0
  limit : 0 < x.window.limit
  hasNext : x.window.hasNext = decide (x.window.offset + x.window.limit < table.length)
  rows : ∃ depth p s t, (e.complete (e.nestedOf depth) [name] p (x.window.kept table)).on s =
    (.ok x.window.rows, t)

/-- A window is made of what the storage answers to the limited statement of the plain request. -/
theorem forward_prepared {catalog : Catalog} {running : Bool} {s t : Session σ}
    (hs : e.Serves catalog running s) {offset limit : Option Nat} {w : Window}
    (h : (e.forward name (request.withWindow offset limit)).on s = (.ok w, t)) :
    ∃ base final found storage expected timeout depth,
      ({ catalog } : PlanStore).prepareAnew e.workshop name request = .ok base ∧
      base.final = .ok final ∧
      (e.executor.select (e.dialect.limit final.statement (offset.getD 0)
        (e.settings.limitOf base.query limit + 1) base.query.hints) expected timeout final.args
          storage).1 = .ok found ∧
      e.Windowed name depth (base.withWindow offset limit) found w := by
  obtain ⟨p, u, final, found, v, hp, hfinal, hfound, hw⟩ := forward_cases h
  have hrunning := running_of_prepare hp
  rw [hs.running] at hrunning
  rw [hrunning] at hs
  have hanew := prepare_of_serves hs name (request.withWindow offset limit)
  rw [hp, PlanStore.prepareAnew_withWindow] at hanew
  cases hbase : ({ catalog } : PlanStore).prepareAnew e.workshop name request with
  | error failure => rw [hbase] at hanew; cases hanew
  | ok base =>
    rw [hbase] at hanew
    obtain rfl : p = base.withWindow offset limit := Except.ok.inj hanew
    exact ⟨base, final, found, _, _, _, _, rfl, hfinal, selectRows_eq_ok hfound, hw⟩

theorem forward_of_table {catalog : Catalog} {running : Bool} {s t : Session σ}
    (hs : e.Serves catalog running s) (htable : e.ReadsTable catalog name request table)
    {offset limit : Option Nat} {w : Window}
    (h : (e.forward name (request.withWindow offset limit)).on s = (.ok w, t)) :
    e.OfTable name table ⟨request.withWindow offset limit, w⟩ := by
  obtain ⟨base, final, found, storage, expected, timeout, depth, hbase, hfinal, hfound, hw⟩ :=
    forward_prepared hs h
  have hoffset : w.offset = offset.getD 0 := hw.offset
  have hlimit : w.limit = e.settings.limitOf base.query limit := hw.limit
  have hrows : found = (table.drop w.offset).take (w.limit + 1) := by
    rw [htable base final hbase hfinal] at hfound
    rw [hoffset, hlimit]
    exact (Except.ok.inj hfound).symm
  obtain ⟨u, v, hcomplete⟩ := hw.rows
  refine ⟨hoffset, hlimit ▸ limitOf_pos _ _ _, ?_, depth, base.withWindow offset limit, u, v, ?_⟩
  · rw [hw.hasNext, hrows, List.length_take, List.length_drop]
    congr 1
    simp only [eq_iff_iff]
    omega
  · rw [hrows, List.take_take, Nat.min_eq_left (Nat.le_succ _)] at hcomplete
    exact hcomplete

theorem kept_of_last {x : Reading} (hx : e.OfTable name table x) (hsame : x.window.SameSize table)
    (hlast : x.window.hasNext = false ∨ x.window.rows = []) :
    x.window.kept table = table.drop x.window.offset := by
  refine List.take_of_length_le ?_
  rw [List.length_drop]
  rcases hlast with hnext | hrows
  · rw [hx.hasNext] at hnext
    have hend := of_decide_eq_false hnext
    omega
  · rw [Window.SameSize, hrows, Window.kept, List.length_take, List.length_drop,
      List.length_nil] at hsame
    have hlimit := hx.limit
    omega

end Engine

namespace Cursor

variable {o : CursorOptions}

/-- Without a reviser only the offset of the requests changes. -/
theorem Chained.windows (hrevise : o.revise = none) {request r : Request}
    {readings : List Reading} (h : Chained o r readings)
    (hr : ∃ offset limit, r = request.withWindow offset limit) :
    ∀ x ∈ readings, ∃ offset limit, x.request = request.withWindow offset limit := by
  induction readings generalizing r with
  | nil => exact fun x hx => absurd hx (by simp)
  | cons first rest ih =>
    obtain ⟨hfirst, -, hrest⟩ := h
    obtain ⟨offset, limit, hwindow⟩ := hr
    have hnext : ∃ offset limit, nextRequest o r first.window.rows =
        request.withWindow offset limit := by
      by_cases hrows : first.window.rows = []
      · refine ⟨offset, limit, ?_⟩
        rw [hrows, hwindow]
        rfl
      · refine ⟨some (r.offset.getD 0 + first.window.rows.length), limit, ?_⟩
        rw [nextRequest_eq hrevise hrows, hwindow]
        rfl
    intro x hx
    rcases List.mem_cons.mp hx with rfl | hin
    · exact ⟨offset, limit, hfirst.trans hwindow⟩
    · exact ih hrest hnext x hin

variable {σ : Type} {e : Engine σ} {name : String} {table : List Row}

/-- Windows that keep their sizes lie one behind the other, and together they are the table once
the last of them is exhausted. -/
theorem Chained.kept_prefix (hrevise : o.revise = none) {r : Request} {readings : List Reading}
    (h : Chained o r readings) (htable : ∀ x ∈ readings, e.OfTable name table x)
    (hsame : ∀ x ∈ readings, x.window.SameSize table) :
    readings.flatMap (fun x => x.window.kept table) <+: table.drop (r.offset.getD 0) ∧
      (Exhausted readings →
        readings.flatMap (fun x => x.window.kept table) = table.drop (r.offset.getD 0)) := by
  induction readings generalizing r with
  | nil =>
    refine ⟨List.nil_prefix, ?_⟩
    rintro ⟨before, x, hnil, -⟩
    simp at hnil
  | cons x rest ih =>
    obtain ⟨hx, hmore, hrest⟩ := h
    have hof := htable x List.mem_cons_self
    have hoffset : x.window.offset = r.offset.getD 0 := hof.offset.trans (by rw [hx])
    have hwindow : x.window.kept table <+: table.drop (r.offset.getD 0) := by
      rw [Window.kept, hoffset]
      exact List.take_prefix _ _
    by_cases hend : rest = []
    · rw [hend]
      simp only [List.flatMap_cons, List.flatMap_nil, List.append_nil]
      refine ⟨hwindow, ?_⟩
      rintro ⟨before, y, hy, hlast⟩
      have hxy : x = y := by
        cases before with
        | nil => simpa using hy
        | cons z zs => simp at hy
      rw [← hoffset]
      exact Engine.kept_of_last hof (hsame x List.mem_cons_self) (hxy ▸ hlast)
    · obtain ⟨-, hrows⟩ := hmore hend
      have hstart : (nextRequest o r x.window.rows).offset.getD 0 =
          r.offset.getD 0 + (x.window.kept table).length := by
        rw [nextRequest_eq hrevise hrows, ← hsame x List.mem_cons_self]
        rfl
      obtain ⟨hbegins, hall⟩ := ih hrest (fun y hy => htable y (List.mem_cons_of_mem x hy))
        (fun y hy => hsame y (List.mem_cons_of_mem x hy))
      rw [hstart, ← List.drop_drop] at hbegins hall
      have hsplit := List.prefix_iff_eq_append.mp hwindow
      rw [List.flatMap_cons]
      refine ⟨?_, ?_⟩
      · rw [← hsplit]
        exact (List.prefix_append_right_inj _).mpr hbegins
      · rintro ⟨before, y, hy, hlast⟩
        have hexhausted : Exhausted rest := by
          cases before with
          | nil => simp [hend] at hy
          | cons z zs => exact ⟨zs, y, by simpa using (List.cons.inj hy).2, hlast⟩
        rw [hall hexhausted, hsplit]

end Cursor

namespace Engine

open Cursor (Exhausted)

variable {σ : Type} {e : Engine σ}

/-- The windows in which a table is read from an offset on. One follows another only after rows and
the report of more, and the next one is right behind it if and only if it has kept its size. -/
structure ReadsThrough (e : Engine σ) (name : String) (table : List Row) (first : Nat)
    (readings : List Reading) : Prop where
  windows : ∀ x ∈ readings, e.OfTable name table x
  start : ∀ x rest, readings = x :: rest → x.window.offset = first
  next : ∀ before x y after, readings = before ++ x :: y :: after →
    x.window.hasNext = true ∧ x.window.rows ≠ [] ∧
      (y.window.offset = x.window.offset + (x.window.kept table).length ↔
        x.window.SameSize table)
  whole : (∀ x ∈ readings, x.window.SameSize table) →
    readings.flatMap (fun x => x.window.kept table) <+: table.drop first ∧
      (Exhausted readings →
        readings.flatMap (fun x => x.window.kept table) = table.drop first)

theorem readsThrough_of_chained {o : CursorOptions} (hrevise : o.revise = none) {r : Request}
    {name : String} {table : List Row} {readings : List Reading}
    (h : Cursor.Chained o r readings) (hwindows : ∀ x ∈ readings, e.OfTable name table x) :
    e.ReadsThrough name table (r.offset.getD 0) readings where
  windows := hwindows
  start x rest heq := by
    rw [heq] at h hwindows
    rw [(hwindows x List.mem_cons_self).offset, h.1]
  next before x y after heq := by
    rw [heq] at h hwindows
    obtain ⟨hnext, hrows, hy⟩ := h.consecutive
    refine ⟨hnext, hrows, ?_⟩
    have hx := hwindows x (by simp)
    have hbehind : y.window.offset = x.window.offset + x.window.rows.length := by
      rw [(hwindows y (by simp)).offset, hy, Cursor.nextRequest_eq hrevise hrows, hx.offset]
      rfl
    rw [hbehind, Nat.add_left_cancel_iff, Window.SameSize]
  whole hsame := h.kept_prefix hrevise hwindows hsame

/-- A cursor without a reviser and a terminator reads a static table in windows. A batch is followed
by the window right behind if and only if it is no shorter or longer than what the storage delivered
for it, and the reading ends, where nothing fails, with a batch that is empty or reports no more. -/
theorem cursor_reads_through {s : Session σ} {o : CursorOptions} {name : String}
    {request : Request} {table : List Row} (hs : e.Reachable s)
    (htable : e.ReadsTable s.store.catalog name request table) (hrevise : o.revise = none)
    (hstop : ∀ row, o.stop row = false) (n : Nat) :
    ∃ items c t readings,
      Cursor.collect (e.windows name) o n (e.cursor request) s = (items, c, t) ∧
      Cursor.collect (e.windows name).noted o n (e.cursor request) (s, []) =
        (items, c, t, readings) ∧
      e.ReadsThrough name table (request.offset.getD 0) readings ∧
      (items.length < n → (∀ item ∈ items, ∃ row, item = .ok row) → Exhausted readings) := by
  have hread : ∀ r t, e.Serves s.store.catalog s.store.running t →
      e.Serves s.store.catalog s.store.running (e.windows name r t).2 :=
    fun r t ht => (kept_serves e _ _).forward name r t ht
  obtain ⟨items, c, t, readings, hrun, hnoted, hcollected⟩ :=
    Cursor.collect_noted (o := o) hstop hread n (e.cursor request) s [] hs.serves
  have hrequests : ∀ x ∈ readings, ∃ offset limit, x.request = request.withWindow offset limit :=
    hcollected.chained.windows hrevise ⟨request.offset, _, rfl⟩
  have hwindows : ∀ x ∈ readings, e.OfTable name table x := by
    intro x hx
    obtain ⟨u, v, hu, hw⟩ := hcollected.made x hx
    obtain ⟨offset, limit, hrequest⟩ := hrequests x hx
    rw [hrequest] at hw
    have hof := forward_of_table hu htable hw
    rwa [← hrequest] at hof
  have hthrough := readsThrough_of_chained hrevise hcollected.chained hwindows
  refine ⟨items, c, t, readings, hrun, hnoted, hthrough, fun hlength hok => ?_⟩
  rcases hcollected.ended rfl hlength hok with ⟨-, hlast⟩ | hexhausted
  · cases hlast
  · exact hexhausted

/-- Offset and limit as so many marks behind the statement. -/
def markDialect : Dialect where
  limit statement offset limit _ :=
    statement ++ String.ofList (List.replicate offset '+' ++ List.replicate limit '#')
  count statement _ := statement
  totalField := "total"

theorem count_marks {statement : String} (hplus : statement.toList.count '+' = 0)
    (hhash : statement.toList.count '#' = 0) (offset limit : Nat) (hints : List Hint) :
    (markDialect.limit statement offset limit hints).toList.count '+' = offset ∧
      (markDialect.limit statement offset limit hints).toList.count '#' = limit := by
  have hne : ('#' == '+') = false := rfl
  have hne' : ('+' == '#') = false := rfl
  simp only [markDialect, String.toList_append, String.toList_ofList, List.count_append, hplus,
    hhash, List.count_replicate, hne, hne', beq_self_eq_true, if_true, Bool.false_eq_true, if_false,
    Nat.zero_add, Nat.add_zero, and_self]

def itemRows : List Row :=
  [[("x", .int 1)], [("y", .int 1)], [("y", .int 2)], [("y", .int 3)], [("x", .int 2)]]

/-- Leaves the rows that have a certain field. -/
def withField : NativeScript where
  evaluate b := .ok (.arr (((b.rows.getD []).filter (·.has "x")).map .obj))

def itemStorage : Engine Unit where
  executor :=
    { get := fun _ _ _ s => (.ok none, s)
      select := fun statement _ _ _ s =>
        (.ok ((itemRows.drop (statement.toList.count '+')).take (statement.toList.count '#')), s) }
  dialect := markDialect
  workshop := { natives := [("with-field", withField)] }

def itemQuery (hints : List HintDefinition) : Query :=
  .ofDefinition
    { name := "items"
      script := { kind := some .literal, code := some "SELECT * FROM items" }
      hints }

def fieldHint : HintDefinition :=
  { key := "fields", script := some { kind := some .native, code := some "with-field" } }

def itemSession (hints : List HintDefinition) : Session Unit :=
  { store := { catalog := [("items", itemQuery hints)], running := true }, storage := () }

def itemRequest : Request := { limit := some 2 }

def itemPrepared (hints : List HintDefinition) : Prepared :=
  { query := itemQuery hints
    request := itemRequest
    bound := ⟨"SELECT * FROM items", []⟩
    expanded := true }

theorem items_reachable (hints : List HintDefinition) :
    itemStorage.Reachable (itemSession hints) := .fresh _ _ _

theorem items_readsTable {hints : List HintDefinition}
    (hprepared : ({ catalog := (itemSession hints).store.catalog } : PlanStore).prepareAnew
      itemStorage.workshop "items" itemRequest = .ok (itemPrepared hints)) :
    itemStorage.ReadsTable (itemSession hints).store.catalog "items" itemRequest itemRows := by
  intro p final hp hfinal offset limit expected timeout storage
  rw [hprepared] at hp
  cases hp
  cases hfinal
  obtain ⟨hoffset, hlimit⟩ := count_marks (by decide : "SELECT * FROM items".toList.count '+' = 0)
    (by decide) offset limit (itemPrepared hints).query.hints
  exact congrArg₂ (fun o l => Except.ok ((itemRows.drop o).take l)) hoffset hlimit

/-- The rows of an unchanged query, in windows of two. -/
theorem cursor_reads_items :
    ∃ items c t readings,
      Cursor.collect (itemStorage.windows "items") {} 9 (itemStorage.cursor itemRequest)
        (itemSession []) = (items, c, t) ∧
      Cursor.collect (itemStorage.windows "items").noted {} 9 (itemStorage.cursor itemRequest)
        (itemSession [], []) = (items, c, t, readings) ∧
      itemStorage.ReadsThrough "items" itemRows 0 readings ∧
      (items.length < 9 → (∀ item ∈ items, ∃ row, item = .ok row) → Exhausted readings) :=
  cursor_reads_through (items_reachable []) (items_readsTable rfl) rfl (fun _ => rfl) 9

/-- A defect: the offset goes on by the rows that a hint leaves and not by those that were read. Here
a row is read again, the hint leaves nothing of that batch, and the last row, which the hint would
keep, is never read. -/
theorem hint_moves_windows :
    itemStorage.Reachable (itemSession [fieldHint]) ∧
    itemStorage.ReadsTable (itemSession [fieldHint]).store.catalog "items" itemRequest itemRows ∧
    ∃ items c t x y,
      Cursor.collect (itemStorage.windows "items").noted {} 9 (itemStorage.cursor itemRequest)
        (itemSession [fieldHint], []) = (items, c, t, [x, y]) ∧
      items.length < 9 ∧ (∀ item ∈ items, ∃ row, item = .ok row) ∧
      x.window.offset = 0 ∧ (x.window.kept itemRows).length = 2 ∧
      y.window.offset = 1 ∧ y.window.hasNext = true := by
  refine ⟨items_reachable _, items_readsTable rfl, ?_⟩
  rcases hrun : Cursor.collect (itemStorage.windows "items").noted {} 9
    (itemStorage.cursor itemRequest) (itemSession [fieldHint], []) with ⟨items, c, t, readings⟩
  have hitems : (Cursor.collect (itemStorage.windows "items").noted {} 9
      (itemStorage.cursor itemRequest) (itemSession [fieldHint], [])).1.map
        (fun item => item.toOption.isSome) = [true] := by decide +kernel
  have hreadings : (Cursor.collect (itemStorage.windows "items").noted {} 9
      (itemStorage.cursor itemRequest) (itemSession [fieldHint], [])).2.2.2.map
        (fun x => (x.window.offset, (x.window.kept itemRows).length, x.window.hasNext)) =
          [(0, 2, true), (1, 2, true)] := by decide +kernel
  rw [hrun] at hitems hreadings
  obtain ⟨item, hitem, hok⟩ := List.map_eq_singleton_iff.mp hitems
  obtain ⟨x, rest, hx, hxw, hrest⟩ := List.map_eq_cons_iff.mp hreadings
  obtain ⟨y, hy, hyw⟩ := List.map_eq_singleton_iff.mp hrest
  simp only [Prod.mk.injEq] at hxw hyw
  dsimp only at hitem hx
  refine ⟨items, c, t, x, y, by rw [hx, hy], by simp [hitem], ?_, hxw.1, hxw.2.1, hyw.1, hyw.2.2⟩
  intro i hi
  rw [hitem, List.mem_singleton] at hi
  rw [hi]
  cases item with
  | error e => cases hok
  | ok row => exact ⟨row, rfl⟩

end Engine

end QueryCatalog
