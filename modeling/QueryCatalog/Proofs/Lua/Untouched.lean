import QueryCatalog.Engine.Selection
import QueryCatalog.Proofs.Lua.Tables

/-!
Scripts that give their rows back untouched. The rows make a trip through the tables of the
script, so what comes back is what tables can hold of them.
-/
namespace QueryCatalog

namespace Lua

namespace State

/-- A later state in which a global variable has kept its value. -/
structure Spares (name : String) (s s' : State) : Prop where
  keeps : s.Keeps 1 s'
  global_eq : s'.global name = s.global name

variable {s s' s'' : State} {name other : String}

theorem Spares.trans (h : s.Spares name s') (h' : s'.Spares name s'') : s.Spares name s'' :=
  ⟨h.keeps.trans h'.keeps, h'.global_eq.trans h.global_eq⟩

/-- What adds tables does not change the first one. -/
theorem Keeps.spares (h : s.Keeps 0 s') (hpos : 0 < s.tables.size) (name : String) :
    s.Spares name s' := by
  refine ⟨h.from 1, ?_⟩
  rw [global, global, globalRef, h.table_eq 0 le_rfl hpos]

theorem keeps_setGlobal (s : State) (name : String) (v : Value) :
    s.Keeps 1 (s.setGlobal name v) := by
  refine ⟨by simp [setGlobal, withTable], fun ref hfirst _ => ?_⟩
  have hne : globalRef ≠ ref := by
    rw [globalRef]
    omega
  simp [setGlobal, withTable, table, Array.getD_eq_getD_getElem?, hne]

theorem table_setGlobal (hpos : 0 < s.tables.size) (name : String) (v : Value) :
    (s.setGlobal name v).table globalRef = (s.table globalRef).set (.text name) v := by
  simp [setGlobal, withTable, table, Array.getD_eq_getD_getElem?, globalRef, hpos]

theorem global_setGlobal_self (hpos : 0 < s.tables.size) {v : Value} (hv : v.isNil = false) :
    (s.setGlobal name v).global name = v := by
  rw [global, table_setGlobal hpos, Table.get_set_text_self hv]

theorem setGlobal_spares (hpos : 0 < s.tables.size) (hne : other ≠ name) (v : Value) :
    s.Spares name (s.setGlobal other v) := by
  refine ⟨keeps_setGlobal s other v, ?_⟩
  rw [global, table_setGlobal hpos, Table.get_set_text_of_ne hne, global]

theorem setData_spares (hpos : 0 < s.tables.size) (hne : other ≠ name) (d : Data) :
    s.Spares name (s.setData other d) := by
  have hkeeps := keeps_load s d
  have hset := setGlobal_spares (hpos.trans_le hkeeps.size_le) hne (s.load d).1
  exact (hkeeps.spares hpos name).trans hset

theorem setRows_spares (hpos : 0 < s.tables.size) (hne : other ≠ name)
    (rows : Option (List Row)) : s.Spares name (s.setRows other rows) := by
  cases rows with
  | none => exact (Keeps.refl 0 s).spares hpos name
  | some rows => exact setData_spares hpos hne (.ofRows rows)

theorem setTable_spares (hpos : 0 < s.tables.size) (hne : other ≠ name)
    (entries : List (Value × Value)) : s.Spares name (s.setTable other entries) := by
  have hkeeps := keeps_addTable s { entries }
  have hset := setGlobal_spares (hpos.trans_le hkeeps.size_le) hne
    (.table (s.addTable { entries }).1)
  exact (hkeeps.spares hpos name).trans hset

theorem keeps_setData (s : State) (name : String) (d : Data) : s.Keeps 1 (s.setData name d) :=
  ((keeps_load s d).from 1).trans (keeps_setGlobal _ _ _)

theorem keeps_withBuiltins (s : State) : s.Keeps 1 s.withBuiltins :=
  (keeps_setGlobal _ _ _).trans <| (keeps_setGlobal _ _ _).trans <|
    (keeps_setGlobal _ _ _).trans <| (keeps_setGlobal _ _ _).trans <|
    ((keeps_addTable _ _).from 1).trans (keeps_setGlobal _ _ _)

/-- Nothing is stored under a global name. -/
def Lacks (name : String) (s : State) : Prop :=
  ((s.table globalRef).entries.find? fun entry => entry.1.same (.text name)) = none

theorem Lacks.setData (h : s.Lacks name) (hpos : 0 < s.tables.size) (hne : other ≠ name)
    (d : Data) : (s.setData other d).Lacks name := by
  have hkeeps := keeps_load s d
  have hdiffer : (Value.text other).same (.text name) = false :=
    Bool.eq_false_iff.mpr fun hsame => hne (Table.text_inj (Table.same_text_iff.mp hsame))
  rw [Lacks, State.setData, table_setGlobal (hpos.trans_le hkeeps.size_le), Table.set_text,
    Table.find?_putEntry_of_differ hdiffer, hkeeps.table_eq globalRef (Nat.zero_le _) hpos]
  exact h

/-- The state into which the context of a script is loaded, -/
def beforeContext (b : Bindings) : State :=
  ({} : State).withBuiltins.setData "p" (.ofJson b.criteria)

/-- and the one into which its rows are. -/
def beforeRows (b : Bindings) : State := (beforeContext b).setData "ctx" (.ofJson b.context)

theorem beforeContext_pos (b : Bindings) : 0 < (beforeContext b).tables.size :=
  ((keeps_withBuiltins {}).trans (keeps_setData _ _ _)).size_le

theorem beforeRows_pos (b : Bindings) : 0 < (beforeRows b).tables.size :=
  (beforeContext_pos b).trans_le (keeps_setData _ _ _).size_le

theorem beforeContext_lacks (hne : "p" ≠ name)
    (h : (({} : State).withBuiltins.table globalRef).entries.all
      fun entry => !entry.1.same (.text name)) (b : Bindings) : (beforeContext b).Lacks name := by
  refine Lacks.setData (List.find?_eq_none.mpr fun entry hentry => ?_) (by decide) hne _
  simpa using List.all_eq_true.mp h entry hentry

/-- What is set up after the rows leaves the other global variables alone. -/
theorem afterRows_spares (hpos : 0 < s.tables.size) (hfetched : "fetched" ≠ name)
    (hrecord : recordName ≠ name) (hsp : "sp" ≠ name) (fetched : Option (List Row)) :
    s.Spares name (((s.setRows "fetched" fetched).setTable recordName
      [(.text countName, .int 0)]).setGlobal "sp" (.builtin .bind)) := by
  have hrows := setRows_spares hpos hfetched fetched
  have hpos₁ := hpos.trans_le hrows.keeps.size_le
  have htable := setTable_spares hpos₁ hrecord [(.text countName, .int 0)]
  have hpos₂ := hpos₁.trans_le htable.keeps.size_le
  exact hrows.trans (htable.trans (setGlobal_spares hpos₂ hsp (.builtin .bind)))

/-- Data that is stored under a new name is the tree under it for as long as it is spared. -/
theorem shown_of_spares {s₀ : State} {d : Data} (hpos : 0 < s₀.tables.size) (hnew : s₀.Lacks name)
    (hplain : d.Plain) (hspares : (s₀.setData name d).Spares name s) :
    s.data? (s.global name) = some d := by
  have hload := (keeps_load s₀ d).size_le
  rw [hspares.global_eq]
  cases hnil : d.isNil with
  | true =>
    obtain rfl : d = .nil := by
      cases d with
      | nil => rfl
      | _ => cases hnil
    have hglobal : (s₀.setData name .nil).global name = .nil := by
      change (s₀.setGlobal name .nil).global name = .nil
      rw [global, table_setGlobal hpos, Table.get_set_text_nil hnew]
    rw [hglobal]
    rfl
  | false =>
    have hvalue : (s₀.load d).1.isNil = false := (isNil_load s₀ hplain).trans hnil
    have hglobal : (s₀.setData name d).global name = (s₀.load d).1 :=
      global_setGlobal_self (hpos.trans_le hload) hvalue
    have hkeeps : (s₀.load d).2.Keeps 1 s := (keeps_setGlobal _ name _).trans hspares.keeps
    rw [hglobal]
    exact ((load_shows hplain s₀ hpos).mono hkeeps).data?

/-- A script starts with its rows as the tree under the global variable. -/
theorem rows_shown {b : Bindings} {rows : List Row} (h : b.rows = some rows)
    (hregular : (Json.arr (rows.map .obj)).Everywhere Json.Regular) :
    (State.ofBindings b).data? ((State.ofBindings b).global "rows") = some (.ofRows rows) := by
  have hkeeps := keeps_setData (beforeRows b) "rows" (.ofRows rows)
  have hpos := (beforeRows_pos b).trans_le hkeeps.size_le
  have hspares : ((beforeRows b).setData "rows" (.ofRows rows)).Spares "rows" (.ofBindings b) := by
    rw [ofBindings, h]
    exact afterRows_spares hpos (by decide) (by decide) (by decide) b.fetched
  have hnew : (beforeRows b).Lacks "rows" :=
    (beforeContext_lacks (by decide) (by decide +kernel) b).setData (beforeContext_pos b)
      (by decide) _
  exact shown_of_spares (beforeRows_pos b) hnew (Data.plain_ofJson hregular) hspares

end State

/-- The script gives back the tree that its rows were when it started. -/
def Script.ReturnsRows (script : Script) (b : Bindings) : Prop :=
  ∃ values s, script.run b = .ok (values, s) ∧ s.data? (values.headD .nil) =
    (State.ofBindings b).data? ((State.ofBindings b).global "rows")

/-- A chunk that does nothing but give back its rows. -/
theorem returnsRows_finish (b : Bindings) :
    (Script.ofChunk [.finish [.name "rows"]]).ReturnsRows b := by
  refine ⟨[(State.ofBindings b).global "rows"], .ofBindings b, ?_, rfl⟩
  obtain ⟨n, hfuel⟩ : ∃ n, fuel = n + 5 := ⟨Nat.pow 2 62 - 5, rfl⟩
  rw [Script.run, Script.ofChunk, runChunk, hfuel]
  rfl

theorem evaluate_of_returnsRows {script : Script} {b : Bindings} {rows : List Row}
    (hrows : b.rows = some rows) (hregular : (Json.arr (rows.map .obj)).Everywhere Json.Regular)
    (h : script.ReturnsRows b) :
    script.evaluate b = .ok (Json.arr (rows.map .obj)).settled := by
  obtain ⟨values, s, hrun, hdata⟩ := h
  have hback : (Data.ofRows rows).toJson? = some (Json.arr (rows.map .obj)).settled :=
    Data.toJson?_ofJson hregular
  have hjson : s.json (values.headD .nil) = .ok (Json.arr (rows.map .obj)).settled := by
    rw [State.json, hdata, State.rows_shown hrows hregular]
    dsimp only
    rw [hback]
    rfl
  rw [Script.evaluate, hrun]
  simp only [bind, Except.bind, hjson]
  rfl

end Lua

/-- What tables can hold of a row. -/
def Row.settled (row : Row) : Row := Json.settledFields row

namespace Json

theorem rows?_ofRows (rows : List Row) : (Json.arr (rows.map .obj)).rows? = some rows := by
  rw [rows?]
  induction rows with
  | nil => rfl
  | cons row rest ih =>
    rw [List.map_cons, List.mapM_cons, ih]
    rfl

/-- No row is null, so all rows come back. -/
theorem settled_ofRows (rows : List Row) : (Json.arr (rows.map .obj)).settled =
    ofKept ((rows.map Row.settled).map .obj) := by
  have hlast : (rows.map Json.obj).getLast? ≠ some .null := by
    rw [List.getLast?_map]
    cases rows.getLast? <;> simp
  rw [settled_arr, kept_eq_self_iff.mpr hlast, List.map_map, List.map_map]
  rfl

theorem rows?_settled (rows : List Row) :
    (Json.arr (rows.map .obj)).settled.rows? = some (rows.map Row.settled) := by
  rw [settled_ofRows]
  cases rows with
  | nil => rfl
  | cons row rest => exact rows?_ofRows ((row :: rest).map Row.settled)

end Json

variable {script : Script} {w : Workshop} {chunk : Lua.Script} {rows : List Row}

theorem Script.evaluate_untouched (hkind : script.kind = .lua)
    (hcompile : w.lua script.code = .ok chunk)
    (hregular : (Json.arr (rows.map .obj)).Everywhere Json.Regular) {b : Bindings}
    (hrows : b.rows = some rows) (huntouched : chunk.ReturnsRows b) :
    script.evaluate w b = .ok (Json.arr (rows.map .obj)).settled := by
  have hevaluate := Lua.evaluate_of_returnsRows hrows hregular huntouched
  rw [Script.evaluate, hkind]
  simp only [compileLua, hcompile, evaluateLua, hevaluate, bind, Except.bind, Except.mapError]

theorem hint_settles_rows (hkind : script.kind = .lua)
    (hcompile : w.lua script.code = .ok chunk)
    (hregular : (Json.arr (rows.map .obj)).Everywhere Json.Regular) {hint : Hint}
    (hscript : hint.script = some script) {p : Prepared}
    (huntouched : chunk.ReturnsRows { p.request.bindings with rows := some rows })
    (handlers : HintHandlers) :
    handlers.applyHint w p hint rows = .ok (rows.map Row.settled) := by
  have hanswer := Script.evaluate_untouched hkind hcompile hregular rfl huntouched
  have hnull : (Json.arr (rows.map .obj)).settled.isNull = false := Json.isNull_settled _
  rw [HintHandlers.applyHint, hscript]
  simp only [HintHandlers.runScript, hanswer, Except.mapError, bind, Except.bind, hnull,
    Json.rows?_settled]
  rfl

theorem injection_settles_rows {σ : Type} {e : Engine σ} (hkind : script.kind = .lua)
    (hcompile : e.workshop.lua script.code = .ok chunk)
    (hregular : (Json.arr (rows.map .obj)).Everywhere Json.Regular) {f : Fetch}
    (hscript : f.injection = some script) {b : Bindings} {fetched : List Row}
    (huntouched : chunk.ReturnsRows { b with rows := some rows, fetched := some fetched })
    (owner : String) :
    e.injectRows owner f b fetched rows = .ok (rows.map Row.settled) := by
  have hanswer := Script.evaluate_untouched hkind hcompile hregular rfl huntouched
  have hnull : (Json.arr (rows.map .obj)).settled.isNull = false := Json.isNull_settled _
  rw [Engine.injectRows, hscript]
  simp only [Engine.injectByScript, Engine.evaluate, hanswer, Except.mapError, bind, Except.bind,
    hnull, Json.rows?_settled]
  rfl

theorem rows_lossless_iff (hregular : (Json.arr (rows.map .obj)).Everywhere Json.Regular) :
    (Json.arr (rows.map .obj) == .arr ((rows.map Row.settled).map .obj)) = true ↔
      ∀ row ∈ rows, (Json.obj row).Everywhere Json.Lossless := by
  rw [Json.everywhere_arr, List.forall_mem_map] at hregular
  have hitems : (rows.map Row.settled).map Json.obj =
      (rows.map Json.obj).map Json.settled := by
    rw [List.map_map, List.map_map]
    rfl
  change Json.sameItems (rows.map .obj) _ = true ↔ _
  rw [hitems, Json.sameItems_map, List.forall_mem_map]
  constructor
  · exact fun h row hrow => (Json.same_settled_iff (hregular.2 row hrow)).mp (h row hrow)
  · exact fun h row hrow => (Json.same_settled_iff (hregular.2 row hrow)).mpr (h row hrow)

/-- A hint or an injection whose script gives back its rows untouched leaves as many rows in the
same order, each as tables hold it. The rows are unchanged if and only if at no depth a column or
a field is null, an array is empty or ends in null, or an integer is beyond 64 bits with a sign. -/
theorem untouched_rows_settle (hkind : script.kind = .lua)
    (hregular : (Json.arr (rows.map .obj)).Everywhere Json.Regular) :
    (∀ (handlers : HintHandlers) (w : Workshop) (p : Prepared) (hint : Hint) chunk,
      hint.script = some script → w.lua script.code = .ok chunk →
      chunk.ReturnsRows { p.request.bindings with rows := some rows } →
      handlers.applyHint w p hint rows = .ok (rows.map Row.settled)) ∧
    (∀ {σ : Type} (e : Engine σ) owner (f : Fetch) (b : Bindings) fetched chunk,
      f.injection = some script → e.workshop.lua script.code = .ok chunk →
      chunk.ReturnsRows { b with rows := some rows, fetched := some fetched } →
      e.injectRows owner f b fetched rows = .ok (rows.map Row.settled)) ∧
    ((Json.arr (rows.map .obj) == .arr ((rows.map Row.settled).map .obj)) = true ↔
      ∀ row ∈ rows, (Json.obj row).Everywhere Json.Lossless) := by
  refine ⟨?_, ?_, rows_lossless_iff hregular⟩
  · intro handlers w p hint chunk hscript hcompile huntouched
    exact hint_settles_rows hkind hcompile hregular hscript huntouched handlers
  · intro σ e owner f b fetched chunk hscript hcompile huntouched
    exact injection_settles_rows hkind hcompile hregular hscript huntouched owner

/-- The shortest script that leaves its rows alone. -/
def echo : Script := ⟨.lua, "return rows"⟩

theorem echo_kind : echo.kind = .lua := rfl

/-- The variable of a chunk that does nothing but give it back. -/
def Lua.Chunk.returned? : Lua.Chunk → Option String
  | [.finish [.name name]] => some name
  | _ => none

theorem Lua.Chunk.eq_of_returned {chunk : Lua.Chunk} {name : String}
    (h : chunk.returned? = some name) : chunk = [.finish [.name name]] := by
  unfold returned? at h
  split at h
  · cases h
    rfl
  · cases h

theorem compile_echo :
    Lua.Script.compile echo.code = .ok (.ofChunk [.finish [.name "rows"]]) := by
  have hname : (Lua.Chunk.parse? echo.code).bind Lua.Chunk.returned? = some "rows" := by
    decide +kernel
  have hvalue : (Lua.Chunk.parse? ("return " ++ echo.code)).isNone = true := by decide +kernel
  obtain ⟨chunk, hchunk, hreturned⟩ := Option.bind_eq_some_iff.mp hname
  rw [Lua.Chunk.eq_of_returned hreturned] at hchunk
  simp only [Lua.Script.compile, hchunk, Option.isNone_iff_eq_none.mp hvalue, Option.getD_none]

theorem compile_echo_in {w : Workshop} (hlua : w.lua = Lua.Script.compile) :
    w.lua echo.code = .ok (.ofChunk [.finish [.name "rows"]]) := by
  rw [hlua]
  exact compile_echo

def echoHint : Hint := { key := "echo", parameters := [], script := some echo }

def echoFetch : Fetch :=
  .ofDefinition
    { reference := "authors"
      injection := some { kind := some .lua, code := some "return rows" } }

def notes : Prepared :=
  { query := .ofDefinition { name := "notes" }
    request := {}
    bound := ⟨"SELECT * FROM notes", []⟩
    expanded := true }

/-- A note without an author, to which an earlier fetch has found no comments. -/
def noteRows : List Row :=
  [[("id", .int 1), ("author", .null), ("comments", .arr [])], [("id", .int 2)]]

def noteStorage : Engine Unit where
  executor :=
    { get := fun _ _ _ s => (.ok noteRows.head?, s)
      select := fun _ _ _ _ s => (.ok noteRows, s) }

theorem noteRows_regular : (Json.arr (noteRows.map .obj)).Everywhere Json.Regular := by
  simp [noteRows, Json.Everywhere, Json.EveryField, Json.EveryItem, Json.Regular, Json.int,
    Text.minInt64, Text.maxInt64, Text.wordBound]

theorem untouched_rows_settle_notes :
    HintHandlers.standard.applyHint {} notes echoHint noteRows =
      .ok (noteRows.map Row.settled) ∧
    noteStorage.injectRows "notes" echoFetch notes.request.bindings [] noteRows =
      .ok (noteRows.map Row.settled) ∧
    noteRows.map Row.settled = [[("id", .int 1), ("comments", .obj [])], [("id", .int 2)]] := by
  obtain ⟨hhint, hinject, -⟩ := untouched_rows_settle echo_kind noteRows_regular
  refine ⟨?_, ?_, rfl⟩
  · exact hhint .standard {} notes echoHint _ rfl (compile_echo_in rfl) (Lua.returnsRows_finish _)
  · exact hinject noteStorage "notes" echoFetch notes.request.bindings [] _ rfl
      (compile_echo_in rfl) (Lua.returnsRows_finish _)

/-- A column that is null is gone after a script that does nothing. -/
theorem null_column_is_lost :
    ∃ chunk, Lua.Script.compile echo.code = .ok chunk ∧
      chunk.ReturnsRows { notes.request.bindings with rows := some [[("author", .null)]] } ∧
      HintHandlers.standard.applyHint {} notes echoHint [[("author", .null)]] = .ok [[]] ∧
      (Json.arr [.obj [("author", .null)]] == .arr [.obj []]) = false := by
  have hregular : (Json.arr ([[("author", Json.null)]].map .obj)).Everywhere Json.Regular := by
    simp [Json.Everywhere, Json.EveryField, Json.EveryItem, Json.Regular, Text.maxInt64]
  refine ⟨_, compile_echo, Lua.returnsRows_finish _, ?_, rfl⟩
  exact hint_settles_rows (w := {}) echo_kind (compile_echo_in rfl) hregular rfl
    (Lua.returnsRows_finish _) _

end QueryCatalog
