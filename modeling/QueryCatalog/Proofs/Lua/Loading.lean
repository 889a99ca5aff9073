import QueryCatalog.Lua.Script
import QueryCatalog.Proofs.Lua.Settling

/-!
Trees of data in the state of a script. The tables of a loaded tree are new and come before the
table that holds them, so the tree can be read back for as long as its own tables stay as they
are; what happens to the global variables and to newer tables does not matter.
-/
namespace QueryCatalog.Lua

/-- Keys that a table stores as they are. -/
def Key.Stored : Key → Prop
  | .bool _ => True
  | .num (.int _) => True
  | .str _ => True
  | _ => False

/-- A tree as documents have it: tables hold no nil, and their keys are all different. -/
inductive Data.Plain : Data → Prop where
  | nil : Plain .nil
  | bool (b : Bool) : Plain (.bool b)
  | num (n : Numeral) : Plain (.num n)
  | str (bytes : ByteArray) : Plain (.str bytes)
  | table {entries : List (Key × Data)} (stored : ∀ entry ∈ entries, entry.1.Stored)
      (values : ∀ entry ∈ entries, entry.2.isNil = false)
      (distinct : entries.Pairwise fun a b =>
        (State.keyValue a.1).same (State.keyValue b.1) = false)
      (plain : ∀ entry ∈ entries, Plain entry.2) : Plain (.table entries)

namespace State

/-- From a number on, the tables of the first state are the same in the second one. -/
structure Keeps (first : Nat) (s s' : State) : Prop where
  size_le : s.tables.size ≤ s'.tables.size
  table_eq : ∀ ref, first ≤ ref → ref < s.tables.size → s'.table ref = s.table ref

/-- The value stands for the tree in every later state that keeps the tables from a number on. -/
def Shows (first : Nat) (s : State) (v : Value) (d : Data) : Prop :=
  ∀ s', s.Keeps first s' → ∀ fuel, s.tables.size < fuel → s'.snapshot? fuel v = some d

/-- The entries of a table stand for those of a tree, one for one. -/
def ShowsEntries (first : Nat) (s : State) (stored : List (Value × Value))
    (entries : List (Key × Data)) : Prop :=
  List.Forall₂ (fun entry' entry => entry'.1 = keyValue entry.1 ∧ s.Shows first entry'.2 entry.2)
    stored entries

variable {s s' s'' : State} {first : Nat} {v : Value} {d : Data}

theorem Keeps.refl (first : Nat) (s : State) : s.Keeps first s := ⟨le_rfl, fun _ _ _ => rfl⟩

theorem Keeps.trans (h : s.Keeps first s') (h' : s'.Keeps first s'') : s.Keeps first s'' := by
  refine ⟨h.size_le.trans h'.size_le, fun ref hfirst hlt => ?_⟩
  rw [h'.table_eq ref hfirst (hlt.trans_le h.size_le), h.table_eq ref hfirst hlt]

/-- To keep all tables is to keep those from a number on. -/
theorem Keeps.from (h : s.Keeps 0 s') (first : Nat) : s.Keeps first s' :=
  ⟨h.size_le, fun ref _ hlt => h.table_eq ref (Nat.zero_le ref) hlt⟩

theorem Shows.mono (h : s.Shows first v d) (hkeeps : s.Keeps first s') : s'.Shows first v d := by
  intro s'' hlater fuel hfuel
  exact h s'' (hkeeps.trans hlater) fuel (hkeeps.size_le.trans_lt hfuel)

theorem Shows.data? (h : s.Shows first v d) : s.data? v = some d :=
  h s (.refl first s) _ (Nat.lt_succ_self _)

theorem table_addTable (s : State) (t : Table) : (s.addTable t).2.table s.tables.size = t := by
  simp [addTable, table]

theorem size_addTable (s : State) (t : Table) :
    (s.addTable t).2.tables.size = s.tables.size + 1 := Array.size_push t

theorem keeps_addTable (s : State) (t : Table) : s.Keeps 0 (s.addTable t).2 := by
  refine ⟨by simp [addTable], fun ref _ hlt => ?_⟩
  have hne : ref ≠ s.tables.size := hlt.ne
  simp [addTable, table, Array.getD_eq_getD_getElem?, Array.getElem?_push, hne]

mutual

/-- Loading adds tables and changes none. -/
theorem keeps_load (s : State) : ∀ d : Data, s.Keeps 0 (s.load d).2
  | .nil => .refl 0 s
  | .bool _ => .refl 0 s
  | .num _ => .refl 0 s
  | .str _ => .refl 0 s
  | .table entries => (keeps_loadEntries s {} entries).trans (keeps_addTable _ _)
  | .function => .refl 0 s

theorem keeps_loadEntries (s : State) (t : Table) :
    ∀ entries : List (Key × Data), s.Keeps 0 (s.loadEntries t entries).2
  | [] => .refl 0 s
  | (_, d) :: rest => (keeps_load s d).trans (keeps_loadEntries _ _ rest)

end

theorem isNil_load (s : State) (h : d.Plain) : (s.load d).1.isNil = d.isNil := by
  cases h <;> rfl

theorem asKey_keyValue {k : Key} (h : k.Stored) : (keyValue k).asKey = keyValue k := by
  match k, h with
  | .bool b, _ => rfl
  | .num (.int n), _ => rfl
  | .str bytes, _ => rfl

theorem snapshotKey_keyValue {k : Key} (h : k.Stored) : snapshotKey (keyValue k) = k := by
  match k, h with
  | .bool b, _ => rfl
  | .num (.int n), _ => rfl
  | .str bytes, _ => rfl

theorem putEntry_of_new {key value : Value} (hvalue : value.isNil = false)
    {entries : List (Value × Value)} (hnew : ∀ entry ∈ entries, entry.1.same key = false) :
    Table.putEntry key value entries = entries ++ [(key, value)] := by
  induction entries with
  | nil => simp [Table.putEntry, hvalue]
  | cons entry rest ih =>
    obtain ⟨k, v⟩ := entry
    rw [List.forall_mem_cons] at hnew
    rw [Table.putEntry, hnew.1, ih hnew.2]
    rfl

theorem loadEntries_shows {entries : List (Key × Data)} (hplain : (Data.table entries).Plain)
    (hloads : ∀ entry ∈ entries, ∀ s : State, first ≤ s.tables.size →
      (s.load entry.2).2.Shows first (s.load entry.2).1 entry.2)
    (s : State) (hfirst : first ≤ s.tables.size) (t : Table)
    (hnew : ∀ entry ∈ entries, ∀ old ∈ t.entries, old.1.same (keyValue entry.1) = false) :
    ∃ stored, (s.loadEntries t entries).1.entries = t.entries ++ stored ∧
      (s.loadEntries t entries).2.ShowsEntries first stored entries := by
  induction entries generalizing s t with
  | nil => exact ⟨[], (List.append_nil _).symm, .nil⟩
  | cons entry rest ih =>
    obtain ⟨k, d⟩ := entry
    obtain ⟨⟨hstored, hstoredRest⟩, ⟨hvalue, hvalues⟩, hdistinct, hd, hplainRest⟩ :
        (k.Stored ∧ ∀ entry ∈ rest, entry.1.Stored) ∧
        (d.isNil = false ∧ ∀ entry ∈ rest, entry.2.isNil = false) ∧ _ ∧
        (d.Plain ∧ ∀ entry ∈ rest, entry.2.Plain) := by
      cases hplain with
      | table hstored hvalues hdistinct hplain =>
        exact ⟨List.forall_mem_cons.mp hstored, List.forall_mem_cons.mp hvalues,
          List.pairwise_cons.mp hdistinct, List.forall_mem_cons.mp hplain⟩
    rw [List.forall_mem_cons] at hloads hnew
    have hset : (t.set (keyValue k) (s.load d).1).entries =
        t.entries ++ [(keyValue k, (s.load d).1)] := by
      rw [Table.set, asKey_keyValue hstored]
      exact putEntry_of_new ((isNil_load s hd).trans hvalue) hnew.1
    have hlater : ∀ entry ∈ rest, ∀ old ∈ (t.set (keyValue k) (s.load d).1).entries,
        old.1.same (keyValue entry.1) = false := by
      intro entry hentry old hold
      rw [hset, List.mem_append, List.mem_singleton] at hold
      rcases hold with hold | rfl
      · exact hnew.2 entry hentry old hold
      · exact hdistinct.1 entry hentry
    obtain ⟨stored, hentries, hshows⟩ := ih (.table hstoredRest hvalues hdistinct.2 hplainRest)
      hloads.2 (s.load d).2 (hfirst.trans (keeps_load s d).size_le)
      (t.set (keyValue k) (s.load d).1) hlater
    refine ⟨(keyValue k, (s.load d).1) :: stored, ?_, ?_⟩
    · rw [loadEntries, hentries, hset, List.append_assoc]
      rfl
    · have hkeeps := (keeps_loadEntries (s.load d).2 (t.set (keyValue k) (s.load d).1) rest).from
        first
      exact .cons ⟨rfl, (hloads.1 s hfirst).mono hkeeps⟩ hshows

theorem snapshot_entries {stored : List (Value × Value)} {entries : List (Key × Data)}
    (h : s.ShowsEntries first stored entries) (hstored : ∀ entry ∈ entries, entry.1.Stored)
    (hkeeps : s.Keeps first s') {fuel : Nat} (hfuel : s.tables.size < fuel) :
    (stored.mapM fun entry => (s'.snapshot? fuel entry.2).map fun d =>
      (snapshotKey entry.1, d)) = some entries := by
  induction h with
  | nil => rfl
  | cons hentry _ ih =>
    rw [List.forall_mem_cons] at hstored
    rw [List.mapM_cons, hentry.2 s' hkeeps fuel hfuel, ih hstored.2, hentry.1]
    simp [snapshotKey_keyValue hstored.1]

/-- A tree that is loaded above the first tables does not depend on them. -/
theorem load_shows (hplain : d.Plain) (s : State) (hfirst : first ≤ s.tables.size) :
    (s.load d).2.Shows first (s.load d).1 d := by
  induction hplain generalizing s with
  | nil | bool | num | str =>
    intro s' _ fuel hfuel
    cases fuel with
    | zero => omega
    | succ fuel => rfl
  | @table entries hstored hvalues hdistinct hplain ih =>
    obtain ⟨stored, hentries, hshows⟩ := loadEntries_shows
      (.table hstored hvalues hdistinct hplain) ih s hfirst {} (by simp)
    have hkeeps := keeps_loadEntries s {} entries
    have hload : s.load (.table entries) =
        (.table (s.loadEntries {} entries).2.tables.size,
          ((s.loadEntries {} entries).2.addTable (s.loadEntries {} entries).1).2) := rfl
    rw [hload]
    generalize s.loadEntries {} entries = loaded at hkeeps hentries hshows
    obtain ⟨t, filled⟩ := loaded
    rw [List.nil_append] at hentries
    intro s' hlater fuel hfuel
    have hsize := size_addTable filled t
    cases fuel with
    | zero => omega
    | succ fuel =>
      have htable : s'.table filled.tables.size = t := by
        rw [hlater.table_eq _ (hfirst.trans hkeeps.size_le) (by dsimp only; omega)]
        exact table_addTable filled t
      have hless : filled.tables.size < fuel := by
        dsimp only at hfuel
        omega
      have hsnapshot := snapshot_entries hshows hstored
        (((keeps_addTable filled t).from first).trans hlater) hless
      rw [snapshot?, htable, hentries, hsnapshot]
      rfl

end State

namespace Data

open Json (Regular)

theorem same_index {i j : Nat} (hi : (i : Int) ≤ Text.maxInt64) (hj : (j : Int) ≤ Text.maxInt64)
    (hne : i ≠ j) : (State.keyValue (.num (.int (Int64.ofNat i)))).same
      (State.keyValue (.num (.int (Int64.ofNat j)))) = false := by
  simp only [Text.maxInt64] at hi hj
  have hdiffer : Int64.ofNat i ≠ Int64.ofNat j := by
    intro heq
    have hint := congrArg Int64.toInt heq
    rw [Int64.toInt_ofNat_of_lt (by omega), Int64.toInt_ofNat_of_lt (by omega)] at hint
    omega
  exact beq_eq_false_iff_ne.mpr hdiffer

theorem bytes_beq_iff {a b : ByteArray} : (a == b) = true ↔ a = b := by
  obtain ⟨a⟩ := a
  obtain ⟨b⟩ := b
  rw [ByteArray.mk.injEq]
  exact beq_iff_eq (a := a) (b := b)

theorem same_text {k k' : String} (hne : k ≠ k') :
    (State.keyValue (.str k.toUTF8)).same (State.keyValue (.str k'.toUTF8)) = false :=
  Bool.eq_false_iff.mpr fun heq => hne (String.toByteArray_inj.mp (bytes_beq_iff.mp heq))

theorem pairwise_ofItems {items : List Json} (h : (items.length : Int) ≤ Text.maxInt64) :
    (ofItems 1 items).Pairwise fun a b =>
      (State.keyValue a.1).same (State.keyValue b.1) = false := by
  have hindices : (items.zipIdx 1).Pairwise fun a b => a.2 ≠ b.2 := by
    rw [← List.pairwise_map (f := Prod.snd), List.zipIdx_map_snd]
    exact List.nodup_range'
  rw [ofItems_eq, List.pairwise_map]
  refine (hindices.filter _).imp_of_mem fun ha hb hne => ?_
  have hla := List.snd_lt_add_of_mem_zipIdx (List.mem_of_mem_filter ha)
  have hlb := List.snd_lt_add_of_mem_zipIdx (List.mem_of_mem_filter hb)
  exact same_index (by omega) (by omega) hne

theorem pairwise_ofFields {fields : List (String × Json)} (h : (fields.map (·.1)).Nodup) :
    (ofFields fields).Pairwise fun a b =>
      (State.keyValue a.1).same (State.keyValue b.1) = false := by
  rw [ofFields_eq, List.pairwise_map]
  exact ((List.pairwise_map.mp h).filter _).imp same_text

theorem plain_ofNumber (n : Number) : (ofNumber n).Plain := by
  unfold ofNumber
  cases n.int64? <;> exact .num _

/-- The entries of a table that is made of values which are not null, each under its own key. -/
theorem plain_table {α : Type} {values : List α} {key : α → Key} {value : α → Json}
    (hstored : ∀ a, (key a).Stored)
    (hdistinct : ((values.filter fun a => !(value a).isNull).map fun a =>
      (key a, ofJson (value a))).Pairwise fun a b =>
        (State.keyValue a.1).same (State.keyValue b.1) = false)
    (hplain : ∀ a ∈ values, (ofJson (value a)).Plain) :
    (Data.table ((values.filter fun a => !(value a).isNull).map fun a =>
      (key a, ofJson (value a)))).Plain := by
  refine .table ?_ ?_ hdistinct ?_
  all_goals
    intro entry hentry
    obtain ⟨a, ha, rfl⟩ := List.mem_map.mp hentry
    obtain ⟨hmem, hvalue⟩ := List.mem_filter.mp ha
  · exact hstored a
  · rw [isNil_ofJson]
    simpa using hvalue
  · exact hplain a hmem

theorem plain_ofJson {v : Json} (h : v.Everywhere Regular) : (ofJson v).Plain := by
  induction v using Json.induction with
  | null => exact .nil
  | bool b => exact .bool b
  | num n => exact plain_ofNumber n
  | str s => exact .str _
  | arr items ih =>
    rw [Json.everywhere_arr] at h
    have hdistinct := pairwise_ofItems h.1
    rw [ofJson]
    rw [ofItems_eq] at hdistinct ⊢
    refine plain_table (fun _ => trivial) hdistinct fun item hitem => ?_
    have hmem := List.fst_mem_of_mem_zipIdx hitem
    exact ih _ hmem (h.2 _ hmem)
  | obj fields ih =>
    rw [Json.everywhere_obj] at h
    have hdistinct := pairwise_ofFields h.1
    rw [ofJson]
    rw [ofFields_eq] at hdistinct ⊢
    exact plain_table (fun _ => trivial) hdistinct fun field hfield =>
      ih field hfield (h.2 field hfield)

end Data

namespace State

open Json (Regular Lossless)

theorem Shows.json? {s : State} {first : Nat} {v : Value} {d : Data} (h : s.Shows first v d) :
    s.json? v = d.toJson? := by
  rw [State.json?, h.data?]
  rfl

theorem json?_load (s : State) {v : Json} (h : v.Everywhere Regular) :
    (s.load (.ofJson v)).2.json? (s.load (.ofJson v)).1 = some v.settled :=
  (load_shows (Data.plain_ofJson h) s (Nat.zero_le _)).json?.trans (Data.toJson?_ofJson h)

/-- Documents always come back from a script's state. They come back as they were, apart from the
order of fields, if and only if no field is null, no array is empty or ends in null, and no
integer is beyond 64 bits with a sign, at any depth. -/
theorem comes_back_same_iff (s : State) {v : Json} (h : v.Everywhere Regular) :
    ∃ w, (s.load (.ofJson v)).2.json? (s.load (.ofJson v)).1 = some w ∧
      ((v == w) = true ↔ v.Everywhere Lossless) :=
  ⟨v.settled, json?_load s h, Json.same_settled_iff h⟩

/-- An order that has been filled in only in part. -/
def draftOrder : Json :=
  .obj [("id", .int 7), ("tags", .arr [.str "new", .null]), ("paid", .null),
    ("total", .int 9223372036854775808)]

theorem comes_back_same_draftOrder : draftOrder.Everywhere Regular ∧
    ∃ w, (({} : State).load (.ofJson draftOrder)).2.json?
        (({} : State).load (.ofJson draftOrder)).1 = some w ∧
      ((draftOrder == w) = true ↔ draftOrder.Everywhere Lossless) := by
  have hregular : draftOrder.Everywhere Regular := by
    simp [draftOrder, Json.Everywhere, Json.EveryField, Json.EveryItem, Regular, Json.int,
      Text.minInt64, Text.maxInt64, Text.wordBound]
  exact ⟨hregular, comes_back_same_iff {} hregular⟩

end State

end QueryCatalog.Lua
