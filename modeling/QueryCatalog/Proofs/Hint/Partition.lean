import Mathlib.Data.List.Pairwise
import QueryCatalog.Hint.Handler
import QueryCatalog.Proofs.Json.Sameness
import QueryCatalog.Proofs.Json.Writing
import QueryCatalog.Proofs.Lists

/-!
Aggregation parts the rows by what they hold in the fields that are not aggregated. Each
combination gives one row, in the order in which the combinations come up, and lists the rest of
the rows that have it.
-/
namespace QueryCatalog.HintHandler

open Json (Regular)

variable {fields : List String} {rows : List Row}

/-- The columns that rows are grouped by. -/
def others (fields : List String) (row : Row) : Row :=
  row.filter fun field => !fields.contains field.1

/-- The columns that are listed. -/
def aggregated (fields : List String) (row : Row) : Row :=
  row.filter fun field => fields.contains field.1

/-- The same columns with the same values, in whatever order. -/
def agree (a b : Row) : Bool := Json.obj a == .obj b

/-- What rows hold besides the fields, each combination where it comes up first. -/
def combinations (fields : List String) (rows : List Row) : List Row :=
  (rows.map (others fields)).eraseDupsBy fun later first => agree first later

/-- The aggregated columns of the rows that have a combination. -/
def listed (fields : List String) (rows : List Row) (key : Row) : List Json :=
  (rows.filter fun row => agree key (others fields row)).map fun row => .obj (aggregated fields row)

theorem splitRow_eq (fields : List String) (row : Row) :
    splitRow fields row = (others fields row, aggregated fields row) := by
  simp [splitRow, List.partition_eq_filter_filter, others, aggregated, Function.comp_def]

theorem regular_filter {row : Row} {keep : String × Json → Bool}
    (h : (Json.obj row).Everywhere Regular) : (Json.obj (row.filter keep)).Everywhere Regular := by
  rw [Json.everywhere_obj] at h ⊢
  refine ⟨h.1.sublist (List.filter_sublist.map _), fun field hfield => ?_⟩
  exact h.2 field (List.mem_of_mem_filter hfield)

/-! Agreement of rows. -/

theorem agree_self {a : Row} (ha : (Json.obj a).Everywhere Regular) : agree a a = true :=
  Json.same_self ha

theorem agree_symm {a b : Row} (ha : (Json.obj a).Everywhere Regular)
    (hb : (Json.obj b).Everywhere Regular) (h : agree a b = true) : agree b a = true :=
  Json.same_symm ha hb h

theorem agree_trans {a b c : Row} (hab : agree a b = true) (hbc : agree b c = true) :
    agree a c = true :=
  Json.same_trans (u := .obj a) (v := .obj b) (w := .obj c) hab hbc

/-! The combinations of rows. -/

theorem combinations_concat (fields : List String) (rows : List Row) (row : Row) :
    combinations fields (rows ++ [row]) =
      if (combinations fields rows).any (agree · (others fields row)) then combinations fields rows
      else combinations fields rows ++ [others fields row] := by
  rw [combinations, List.map_append, List.map_singleton, eraseDupsBy_concat]
  rfl

theorem combinations_pairwise (fields : List String) (rows : List Row) :
    (combinations fields rows).Pairwise fun first later => agree first later = false :=
  pairwise_eraseDupsBy _ _

theorem combinations_sublist (fields : List String) (rows : List Row) :
    (combinations fields rows).Sublist (rows.map (others fields)) :=
  eraseDupsBy_sublist _ _

theorem exists_of_mem_combinations {key : Row} (h : key ∈ combinations fields rows) :
    ∃ row ∈ rows, others fields row = key :=
  List.mem_map.mp ((combinations_sublist fields rows).subset h)

theorem regular_of_mem_combinations (hrows : ∀ row ∈ rows, (Json.obj row).Everywhere Regular)
    {key : Row} (h : key ∈ combinations fields rows) : (Json.obj key).Everywhere Regular := by
  obtain ⟨row, hrow, rfl⟩ := exists_of_mem_combinations h
  exact regular_filter (hrows row hrow)

theorem exists_combination (fields : List String)
    (hrows : ∀ row ∈ rows, (Json.obj row).Everywhere Regular) {row : Row} (hrow : row ∈ rows) :
    ∃ key ∈ combinations fields rows, agree key (others fields row) = true := by
  refine exists_mem_eraseDupsBy (fun key hkey => ?_) (List.mem_map_of_mem hrow)
  obtain ⟨row, hrow, rfl⟩ := List.mem_map.mp hkey
  exact agree_self (regular_filter (hrows row hrow))

/-- No row has two combinations. -/
theorem combinations_one (hrows : ∀ row ∈ rows, (Json.obj row).Everywhere Regular) {other : Row}
    (hother : (Json.obj other).Everywhere Regular) :
    (combinations fields rows).Pairwise fun first later =>
      agree first other = true → agree later other = false := by
  refine (combinations_pairwise fields rows).imp_of_mem fun {first later} _ hlater hne hfirst => ?_
  refine Bool.eq_false_iff.mpr fun hsame => Bool.eq_false_iff.mp hne ?_
  exact agree_trans hfirst (agree_symm (regular_of_mem_combinations hrows hlater) hother hsame)

/-! Adding one row to the groups, then all of them. -/

theorem listed_concat (fields : List String) (rows : List Row) (row key : Row) :
    listed fields (rows ++ [row]) key = listed fields rows key ++
      if agree key (others fields row) then [.obj (aggregated fields row)] else [] := by
  rw [listed, List.filter_append, List.map_append, listed]
  congr 1
  cases hkey : agree key (others fields row) <;> simp [hkey]

theorem listed_eq_nil {key : Row} (h : ∀ row ∈ rows, agree key (others fields row) = false) :
    listed fields rows key = [] := by
  rw [listed, List.filter_eq_nil_iff.mpr fun row hrow => by simp [h row hrow], List.map_nil]

/-- A row goes to the one group that has its combination, and makes a group if there is none. -/
theorem addToGroup_map {key : Row} {keys : List Row} (items : Row → List Json) (item : Json)
    (hone : keys.Pairwise fun first later => agree first key = true → agree later key = false) :
    addToGroup key item (keys.map fun k => (k, items k)) =
      if keys.any (agree · key) then
        keys.map fun k => (k, items k ++ if agree k key then [item] else [])
      else (keys.map fun k => (k, items k)) ++ [(key, [item])] := by
  induction keys with
  | nil => rfl
  | cons k rest ih =>
    obtain ⟨hfirst, hrest⟩ := List.pairwise_cons.mp hone
    rw [List.map_cons, addToGroup, List.any_cons, List.map_cons]
    change (if agree k key = true then _ else _) = _
    cases hk : agree k key with
    | true =>
      have hkeep : ∀ other ∈ rest, (other, items other) =
          (other, items other ++ if agree other key then [item] else []) := by
        intro other hother
        simp [hfirst other hother hk]
      simp [List.map_congr_left hkeep]
    | false =>
      rw [ih hrest]
      cases rest.any (agree · key) <;> simp

theorem group_concat (fields : List String) (rows : List Row) (row : Row) :
    group fields (rows ++ [row]) =
      addToGroup (others fields row) (.obj (aggregated fields row)) (group fields rows) := by
  rw [group, List.foldl_append, List.foldl_cons, List.foldl_nil, splitRow_eq]
  rfl

theorem group_eq (hrows : ∀ row ∈ rows, (Json.obj row).Everywhere Regular) :
    group fields rows =
      (combinations fields rows).map fun key => (key, listed fields rows key) := by
  induction rows using List.reverseRecOn with
  | nil => rfl
  | append_singleton rows row ih =>
    have hinit : ∀ r ∈ rows, (Json.obj r).Everywhere Regular :=
      fun r hr => hrows r (List.mem_append_left _ hr)
    have hrow : (Json.obj (others fields row)).Everywhere Regular :=
      regular_filter (hrows row (List.mem_append_right _ (List.mem_singleton_self row)))
    rw [group_concat, ih hinit, addToGroup_map _ _ (combinations_one hinit hrow),
      combinations_concat]
    simp only [listed_concat]
    split_ifs with hany
    · rfl
    · have hnone : ∀ key ∈ combinations fields rows, agree key (others fields row) = false :=
        fun key hkey => eq_false_of_ne_true fun h => hany (List.any_eq_true.mpr ⟨key, hkey, h⟩)
      have hkeep : ∀ key ∈ combinations fields rows, (key, listed fields rows key) =
          (key, listed fields rows key ++
            if agree key (others fields row) then [Json.obj (aggregated fields row)] else []) := by
        intro key hkey
        simp [hnone key hkey]
      -- a row of the new combination would have brought it up before
      have hnew : listed fields rows (others fields row) = [] := by
        refine listed_eq_nil fun r hr => eq_false_of_ne_true fun h => ?_
        obtain ⟨key, hkey, hsame⟩ := exists_combination fields hinit hr
        have hback := agree_symm hrow (regular_filter (hinit r hr)) h
        exact absurd (agree_trans hsame hback) (by rw [hnone key hkey]; exact Bool.false_ne_true)
      rw [List.map_append, List.map_singleton, hnew, agree_self hrow, List.map_congr_left hkeep]
      rfl

theorem aggregation_eq {hint : Hint} {name : String} (p : Prepared)
    (hname : (hint.parameter "aggs-name").head? = some name)
    (hfields : hint.parameter "aggs-field-names" ≠ []) (rows : List Row) :
    aggregation p hint rows = .ok ((group (hint.parameter "aggs-field-names") rows).map
      fun g => g.1.put name (.arr g.2)) := by
  obtain ⟨names, hnames⟩ := List.head?_eq_some_iff.mp hname
  obtain ⟨field, rest, hlist⟩ := List.exists_cons_of_ne_nil hfields
  simp only [aggregation, hnames, hlist]

/-- The rows of all combinations are the rows. -/
theorem rows_by_combination (fields : List String)
    (hrows : ∀ row ∈ rows, (Json.obj row).Everywhere Regular) :
    ((combinations fields rows).flatMap fun key =>
      rows.filter fun row => agree key (others fields row)).Perm rows := by
  refine flatMap_filter_perm (fun row hrow => exists_combination fields hrows hrow) fun row hrow => ?_
  exact combinations_one hrows (regular_filter (hrows row hrow))

/-- What is listed over all combinations is what the rows hold in the aggregated fields. -/
theorem listed_perm (hrows : ∀ row ∈ rows, (Json.obj row).Everywhere Regular) :
    ((combinations fields rows).flatMap (listed fields rows)).Perm
      (rows.map fun row => .obj (aggregated fields row)) := by
  have hmap := (rows_by_combination fields hrows).map
    fun row => Json.obj (aggregated fields row)
  rwa [List.map_flatMap] at hmap

theorem exists_unique_combination (hrows : ∀ row ∈ rows, (Json.obj row).Everywhere Regular)
    {row : Row} (hrow : row ∈ rows) :
    ∃! key, key ∈ combinations fields rows ∧ agree key (others fields row) = true := by
  obtain ⟨key, hkey, hagree⟩ := exists_combination fields hrows hrow
  refine ⟨key, ⟨hkey, hagree⟩, fun other ⟨hother, hsame⟩ => ?_⟩
  have hrow' : (Json.obj (others fields row)).Everywhere Regular := regular_filter (hrows row hrow)
  by_contra hne
  have hsymm : Std.Symm fun first later =>
      agree first (others fields row) = true → agree later (others fields row) = false :=
    ⟨fun first later h hlater => eq_false_of_ne_true fun hfirst => by simp [h hfirst] at hlater⟩
  have hapart := (combinations_one hrows hrow').forall hother hkey hne hsame
  exact Bool.false_ne_true (hapart.symm.trans hagree)

/-- Rows are parted by their combinations: each combination gives one row, which lists what the
rows that have it hold in the aggregated fields, and no row is listed twice or left out. -/
theorem aggregation_parts_rows (p : Prepared) (hint : Hint) {name : String} {fields : List String}
    (hname : (hint.parameter "aggs-name").head? = some name)
    (hfields : hint.parameter "aggs-field-names" = fields) (hne : fields ≠ [])
    (hrows : ∀ row ∈ rows, (Json.obj row).Everywhere Regular) :
    aggregation p hint rows = .ok ((combinations fields rows).map fun key =>
        key.put name (.arr (listed fields rows key))) ∧
      (combinations fields rows).Sublist (rows.map (others fields)) ∧
      (combinations fields rows).Pairwise (fun first later => agree first later = false) ∧
      (∀ row ∈ rows, ∃! key, key ∈ combinations fields rows ∧
        agree key (others fields row) = true) ∧
      ((combinations fields rows).flatMap (listed fields rows)).Perm
        (rows.map fun row => .obj (aggregated fields row)) := by
  subst hfields
  refine ⟨?_, combinations_sublist _ _, combinations_pairwise _ _,
    fun row hrow => exists_unique_combination hrows hrow, listed_perm hrows⟩
  rw [aggregation_eq p hname hne, group_eq hrows, List.map_map]
  rfl

def articles (name : String) : QueryDefinition where
  name := "articles"
  script := { kind := some .literal, code := some "SELECT * FROM articles" }
  hints := [
    { key := "result-aggregation"
      parameters := [("aggs-field-names", ["tag"]), ("aggs-name", [name])] }]

def articleHint (name : String) : Hint where
  key := "result-aggregation"
  parameters := [("aggs-field-names", ["tag"]), ("aggs-name", [name])]
  script := none

def articlePrepared (name : String) : Prepared where
  query := .ofDefinition (articles name)
  request := {}
  bound := ⟨"SELECT * FROM articles", []⟩
  expanded := true

/-- The columns of the last row come in another order. -/
def articleRows : List Row :=
  [[("id", .int 1), ("year", .int 2020), ("tag", .str "a")],
    [("id", .int 2), ("tag", .str "c")],
    [("tag", .str "b"), ("year", .int 2020), ("id", .int 1)]]

theorem articleRows_regular : ∀ row ∈ articleRows, (Json.obj row).Everywhere Regular := by
  simp [articleRows, Json.Everywhere, Json.EveryField, Regular, Json.int, Text.minInt64,
    Text.wordBound]

theorem aggregation_parts_articles :
    aggregation (articlePrepared "tags") (articleHint "tags") articleRows =
        .ok [[("id", .int 1), ("year", .int 2020),
            ("tags", .arr [.obj [("tag", .str "a")], .obj [("tag", .str "b")]])],
          [("id", .int 2), ("tags", .arr [.obj [("tag", .str "c")]])]] ∧
      ((combinations ["tag"] articleRows).flatMap (listed ["tag"] articleRows)).Perm
        [.obj [("tag", .str "a")], .obj [("tag", .str "c")], .obj [("tag", .str "b")]] := by
  obtain ⟨hanswer, -, -, -, hperm⟩ := aggregation_parts_rows (articlePrepared "tags")
    (articleHint "tags") rfl rfl (List.cons_ne_nil "tag" []) articleRows_regular
  exact ⟨hanswer.trans rfl, hperm⟩

end QueryCatalog.HintHandler
