import QueryCatalog.Proofs.Hint.Partition
import QueryCatalog.Proofs.Mapping.References

/-!
What can be read back from the rows that aggregation gives. A column is lost if it is not
aggregated and has the name that the lists are written under, which nothing keeps a mapping from;
in all other cases the rows are there to be joined again.
-/
namespace QueryCatalog.HintHandler

open Json (Regular)

variable {fields : List String} {rows : List Row} {name : String}

/-- A row without the field of a name. -/
def without (name : String) (row : Row) : Row := row.filter fun field => field.1 != name

/-- A row, without its list, joined with each item of the list. -/
def joined (name : String) (row : Row) : List Row :=
  match row.get? name with
  | some (.arr items) => items.map fun item => without name row ++ item.fieldsOrEmpty
  | _ => []

/-- The row of a combination. -/
def collapsed (fields : List String) (rows : List Row) (name : String) (key : Row) : Row :=
  key.put name (.arr (listed fields rows key))

/-- The rows come back, up to the order of rows and of columns, when each row of the answer is
joined with its list. -/
def Recovers (name : String) (answer rows : List Row) : Prop :=
  ∃ found, found.Perm rows ∧
    List.Forall₂ (fun row original => agree row original = true) (answer.flatMap (joined name))
      found

theorem without_put (name : String) (value : Json) (row : Row) :
    without name (row.put name value) = without name row := by
  induction row with
  | nil => simp [without, Row.put]
  | cons field rest ih =>
    obtain ⟨key, old⟩ := field
    by_cases hkey : key = name
    · simp [without, Row.put, hkey]
    · have hne : (key == name) = false := by simpa using hkey
      rw [Row.put, hne, if_neg Bool.false_ne_true]
      simp only [without, List.filter_cons] at ih ⊢
      rw [ih]

theorem joined_collapsed (fields : List String) (rows : List Row) (name : String) (key : Row) :
    joined name (collapsed fields rows name key) =
      (rows.filter fun row => agree key (others fields row)).map fun row =>
        without name key ++ aggregated fields row := by
  simp only [joined, collapsed, Row.get?_put_self, without_put, listed, List.map_map]
  rfl

theorem mem_fields_of_mem_aggregated {row : Row} {column : String × Json}
    (h : column ∈ aggregated fields row) : column.1 ∈ fields := by
  simpa using (List.mem_filter.mp h).2

theorem not_mem_fields_of_mem_others {row : Row} {column : String × Json}
    (h : column ∈ others fields row) : column.1 ∉ fields := by
  simpa using (List.mem_filter.mp h).2

theorem others_of_mem_combinations {key : Row} (h : key ∈ combinations fields rows)
    {column : String × Json} (hcolumn : column ∈ key) : column.1 ∉ fields := by
  obtain ⟨row, -, rfl⟩ := exists_of_mem_combinations h
  exact not_mem_fields_of_mem_others hcolumn

/-- A joined row has each column once. -/
theorem regular_joined (name : String) {key row : Row} (hkey : (Json.obj key).Everywhere Regular)
    (hrow : (Json.obj row).Everywhere Regular) (hothers : ∀ column ∈ key, column.1 ∉ fields) :
    (Json.obj (without name key ++ aggregated fields row)).Everywhere Regular := by
  have hleft : (Json.obj (without name key)).Everywhere Regular := regular_filter hkey
  have hright : (Json.obj (aggregated fields row)).Everywhere Regular := regular_filter hrow
  rw [Json.everywhere_obj] at hleft hright ⊢
  refine ⟨?_, List.forall_mem_append.mpr ⟨hleft.2, hright.2⟩⟩
  change ((without name key ++ aggregated fields row).map (·.1)).Nodup
  rw [List.map_append]
  refine List.nodup_append.mpr ⟨hleft.1, hright.1, fun first hfirst later hlater heq => ?_⟩
  obtain ⟨column, hcolumn, rfl⟩ := List.mem_map.mp hfirst
  obtain ⟨other, hother, rfl⟩ := List.mem_map.mp hlater
  refine hothers column (List.mem_of_mem_filter hcolumn) ?_
  rw [heq]
  exact mem_fields_of_mem_aggregated hother

/-- With a combination that has not lost a column, each row that has it comes back. -/
theorem agree_joined {key row : Row} (hrow : (Json.obj row).Everywhere Regular)
    (hkey : agree key (others fields row) = true) (hkept : ∀ column ∈ key, column.1 ≠ name) :
    agree (without name key ++ aggregated fields row) row = true := by
  have hwithout : without name key = key :=
    List.filter_eq_self.mpr fun column hcolumn => bne_iff_ne.mpr (hkept column hcolumn)
  obtain ⟨hlength, hcolumns⟩ := Json.same_obj_iff.mp hkey
  have hall := (List.filter_append_perm (fun field => !fields.contains field.1) row).length_eq
  rw [Json.everywhere_obj] at hrow
  rw [hwithout]
  refine Json.same_obj_iff.mpr ⟨?_, List.forall_mem_append.mpr ⟨fun column hcolumn => ?_,
    fun column hcolumn => ?_⟩⟩
  · simp only [others, aggregated, List.length_append, Bool.not_not] at hlength hall ⊢
    omega
  · obtain ⟨w, hget, hsame⟩ := hcolumns column hcolumn
    have hmem := List.mem_of_mem_filter (Json.mem_of_get? hget)
    exact ⟨w, Json.get?_of_mem hrow.1 hmem, hsame⟩
  · have hmem := List.mem_of_mem_filter hcolumn
    exact ⟨column.2, Json.get?_of_mem hrow.1 hmem, Json.same_self (hrow.2 column hmem)⟩

/-- A combination stays readable under all names but the one of the list. -/
theorem column_kept {key row : Row} (hkey : (Json.obj key).Everywhere Regular)
    (hrow : (Json.obj row).Everywhere Regular) (hagree : agree key (others fields row) = true)
    {column : String × Json} (hcolumn : column ∈ others fields row) (hne : column.1 ≠ name) :
    ∃ v, (collapsed fields rows name key).get? column.1 = some v ∧ (column.2 == v) = true := by
  have hback := agree_symm hkey (regular_filter hrow) hagree
  obtain ⟨v, hget, hsame⟩ := (Json.same_obj_iff.mp hback).2 column hcolumn
  exact ⟨v, by rw [collapsed, Row.get?_put_of_ne hne, hget], hsame⟩

/-- Where no column has the name of the lists, all rows come back. -/
theorem recovers_of_kept (hrows : ∀ row ∈ rows, (Json.obj row).Everywhere Regular)
    (hkept : ∀ row ∈ rows, ∀ column ∈ others fields row, column.1 ≠ name) :
    Recovers name ((combinations fields rows).map (collapsed fields rows name)) rows := by
  refine ⟨_, rows_by_combination fields hrows, ?_⟩
  rw [List.flatMap_map]
  refine List.rel_flatten (List.forall₂_map_left_iff.mpr (List.forall₂_map_right_iff.mpr ?_))
  refine List.forall₂_same.mpr fun key hkey => ?_
  rw [joined_collapsed]
  refine List.forall₂_map_left_iff.mpr (List.forall₂_same.mpr fun row hrow => ?_)
  obtain ⟨hmem, hagree⟩ := List.mem_filter.mp hrow
  obtain ⟨first, hfirst, rfl⟩ := exists_of_mem_combinations hkey
  exact agree_joined (hrows row hmem) hagree (hkept first hfirst)

/-- A column of the name of the lists comes back nowhere. -/
theorem kept_of_recovers (hrows : ∀ row ∈ rows, (Json.obj row).Everywhere Regular)
    (h : Recovers name ((combinations fields rows).map (collapsed fields rows name)) rows) :
    ∀ row ∈ rows, ∀ column ∈ others fields row, column.1 ≠ name := by
  rintro row hrow column hcolumn rfl
  obtain ⟨found, hperm, hfound⟩ := h
  obtain ⟨back, hback, hagree⟩ := exists_of_forall₂ hfound (hperm.mem_iff.mpr hrow)
  obtain ⟨key, hkey, hjoined⟩ := List.mem_flatMap.mp (List.flatMap_map .. ▸ hback)
  rw [joined_collapsed] at hjoined
  obtain ⟨source, hsource, rfl⟩ := List.mem_map.mp hjoined
  have hregular := regular_joined column.1 (regular_of_mem_combinations hrows hkey)
    (hrows source (List.mem_of_mem_filter hsource)) fun c hc => others_of_mem_combinations hkey hc
  have hname := (Json.names_perm (Json.everywhere_obj.mp hregular).1 hagree).mem_iff.mpr
    (List.mem_map_of_mem (List.mem_of_mem_filter hcolumn))
  obtain ⟨other, hother, heq⟩ := List.mem_map.mp hname
  rcases List.mem_append.mp hother with hleft | hright
  · exact absurd heq (bne_iff_ne.mp (List.mem_filter.mp hleft).2)
  · exact not_mem_fields_of_mem_others hcolumn (heq ▸ mem_fields_of_mem_aggregated hright)

theorem aggregation_without_parameters (p : Prepared) {hint : Hint}
    (h : hint.parameter "aggs-name" = [] ∨ hint.parameter "aggs-field-names" = []) :
    aggregation p hint rows = .ok rows := by
  unfold aggregation
  rcases h with hnone | hnone
  · rw [hnone]
  · rw [hnone]
    cases hint.parameter "aggs-name" <;> rfl

/-- Aggregation loses nothing but the columns that have the name of its lists. The rows can be
joined again exactly if there is no such column besides the aggregated ones. -/
theorem aggregation_loses_named_columns_only (p : Prepared) (hint : Hint)
    (hrows : ∀ row ∈ rows, (Json.obj row).Everywhere Regular) :
    ((hint.parameter "aggs-name" = [] ∨ hint.parameter "aggs-field-names" = []) →
      aggregation p hint rows = .ok rows) ∧
    ∀ name fields, (hint.parameter "aggs-name").head? = some name →
      hint.parameter "aggs-field-names" = fields → fields ≠ [] →
      aggregation p hint rows =
          .ok ((combinations fields rows).map (collapsed fields rows name)) ∧
        (∀ row ∈ rows, ∃ key ∈ combinations fields rows, agree key (others fields row) = true ∧
          ∀ column ∈ others fields row, column.1 ≠ name →
            ∃ v, (collapsed fields rows name key).get? column.1 = some v ∧
              (column.2 == v) = true) ∧
        (Recovers name ((combinations fields rows).map (collapsed fields rows name)) rows ↔
          ∀ row ∈ rows, ∀ column ∈ others fields row, column.1 ≠ name) := by
  constructor
  · exact aggregation_without_parameters p
  · rintro name fields hname rfl hne
    refine ⟨?_, fun row hrow => ?_, kept_of_recovers hrows, recovers_of_kept hrows⟩
    · rw [aggregation_eq p hname hne, group_eq hrows, List.map_map]
      rfl
    · obtain ⟨key, hkey, hagree⟩ := exists_combination _ hrows hrow
      exact ⟨key, hkey, hagree, fun column =>
        column_kept (regular_of_mem_combinations hrows hkey) (hrows row hrow) hagree⟩

theorem article_rows_are_joined_again :
    aggregation (articlePrepared "tags") (articleHint "tags") articleRows =
        .ok ((combinations ["tag"] articleRows).map (collapsed ["tag"] articleRows "tags")) ∧
      Recovers "tags"
        ((combinations ["tag"] articleRows).map (collapsed ["tag"] articleRows "tags"))
        articleRows := by
  obtain ⟨-, hnamed⟩ := aggregation_loses_named_columns_only (articlePrepared "tags")
    (articleHint "tags") articleRows_regular
  obtain ⟨hanswer, -, hrecovers⟩ := hnamed "tags" ["tag"] rfl rfl (List.cons_ne_nil "tag" [])
  exact ⟨hanswer, hrecovers.mpr (by decide)⟩

/-- The ids of articles whose tags are listed as their ids are overwritten. -/
theorem article_ids_are_lost :
    (Draft.add {} "articles.toml" (articles "id")).problems.isEmpty = true ∧
      (articlePrepared "id").query.hints = [articleHint "id"] ∧
      HintHandlers.standard.applyHint {} (articlePrepared "id") (articleHint "id") articleRows =
        .ok [[("id", .arr [.obj [("tag", .str "a")], .obj [("tag", .str "b")]]),
            ("year", .int 2020)],
          [("id", .arr [.obj [("tag", .str "c")]])]] ∧
      ¬ Recovers "id"
        [[("id", .arr [.obj [("tag", .str "a")], .obj [("tag", .str "b")]]), ("year", .int 2020)],
          [("id", .arr [.obj [("tag", .str "c")]])]] articleRows := by
  refine ⟨by decide +kernel, rfl, rfl, fun h => ?_⟩
  have hrecovers : Recovers "id"
      ((combinations ["tag"] articleRows).map (collapsed ["tag"] articleRows "id")) articleRows := h
  have hkept := kept_of_recovers articleRows_regular hrecovers
  exact hkept _ List.mem_cons_self ("id", .int 1) List.mem_cons_self rfl

end QueryCatalog.HintHandler
