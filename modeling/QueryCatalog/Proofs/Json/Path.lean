import QueryCatalog.Json.Path

/-!
Paths of a single segment: they read and write the fields of a row by their names.
-/
namespace QueryCatalog

/-- A name without dots, which is a path of one segment. -/
def PlainName (name : String) : Prop := '.' ∉ name.toList

instance (name : String) : Decidable (PlainName name) :=
  inferInstanceAs (Decidable ('.' ∉ name.toList))

theorem Path.splitDots_plain (current text : List Char) (h : '.' ∉ text) :
    splitDots current text = [String.ofList (current.reverse ++ text)] := by
  induction text generalizing current with
  | nil => simp [splitDots]
  | cons c rest ih =>
    have hc : c ≠ '.' := fun heq => h (by simp [heq])
    have hrest : '.' ∉ rest := fun hin => h (List.mem_cons_of_mem c hin)
    have hfalse : (c == '.') = false := by simpa using hc
    rw [splitDots, hfalse]
    simpa using ih (c :: current) hrest

theorem Path.ofString_plain {name : String} (h : PlainName name) : ofString name = [name] := by
  rw [ofString, splitDots_plain [] _ h]
  simp

theorem Path.splitDots_dot (current text rest : List Char) (h : '.' ∉ text) :
    splitDots current (text ++ '.' :: rest) =
      String.ofList (current.reverse ++ text) :: splitDots [] rest := by
  induction text generalizing current with
  | nil => simp [splitDots]
  | cons c text ih =>
    rw [List.mem_cons, not_or] at h
    have hc : (c == '.') = false := by simpa using Ne.symm h.1
    rw [List.cons_append, splitDots, hc]
    simpa using ih (c :: current) h.2

/-- A name and a dot before a path are one more segment. -/
theorem Path.ofString_dot {name : String} (h : PlainName name) (rest : String) :
    ofString (name ++ "." ++ rest) = name :: ofString rest := by
  have htext : (name ++ "." ++ rest).toList = name.toList ++ '.' :: rest.toList := by simp
  rw [ofString, htext, splitDots_dot [] _ _ h]
  simp [ofString]

namespace Row

theorem path?_plain {name : String} (h : PlainName name) (row : Row) :
    row.path? name = row.get? name := by
  rw [path?, Path.ofString_plain h, at?]
  cases row.get? name <;> rfl

theorem setPath_plain {name : String} (h : PlainName name) (row : Row) (value : Json) :
    row.setPath name value = row.put name value := by
  rw [setPath, Path.ofString_plain h, putAt]

/-- A new field is written behind the others. -/
theorem put_of_new {name : String} {row : Row} (h : name ∉ row.map (·.1)) (value : Json) :
    row.put name value = row ++ [(name, value)] := by
  induction row with
  | nil => rfl
  | cons field rest ih =>
    have hfield : (field.1 == name) = false := by
      simp only [List.map_cons, List.mem_cons, not_or] at h
      simpa using fun heq : field.1 = name => h.1 heq.symm
    have hrest : name ∉ rest.map (·.1) := fun hin => h (List.mem_cons_of_mem _ hin)
    rw [put, hfield]
    simp [ih hrest]

theorem foldl_put_of_nodup {row fields : Row} (h : ((row ++ fields).map (·.1)).Nodup) :
    fields.foldl (fun row field => row.put field.1 field.2) row = row ++ fields := by
  induction fields generalizing row with
  | nil => exact (List.append_nil row).symm
  | cons field rest ih =>
    have hsplit : row ++ field :: rest = row ++ [field] ++ rest := by simp
    have hnew : field.1 ∉ row.map (·.1) := by
      rw [List.map_append, List.nodup_append] at h
      exact fun hmem => h.2.2 _ hmem _ List.mem_cons_self rfl
    rw [List.foldl_cons, put_of_new hnew, ih (by rwa [← hsplit]), hsplit]

/-- Fields that are all different are taken as they are. -/
theorem ofList_of_nodup {fields : List (String × Json)} (h : (fields.map (·.1)).Nodup) :
    ofList fields = fields := foldl_put_of_nodup  h

end Row

theorem Json.field_plain {name : String} (h : PlainName name) (fields : Row) :
    (Json.obj fields).field name = Json.orNull (fields.get? name) := by
  rw [field, get?, Path.ofString_plain h, at?, step?]
  cases fields.get? name <;> rfl

/-- Fields of fields are what a path of their names leads to. -/
theorem Json.foldl_field {names : Path} (h : ∀ name ∈ names, PlainName name) (value : Json) :
    names.foldl field value = orNull (value.at? names) := by
  induction names generalizing value with
  | nil => rfl
  | cons name names ih =>
    rw [List.forall_mem_cons] at h
    have hfield : value.field name = orNull (value.step? name) := by
      rw [field, get?, Path.ofString_plain h.1, at?]
      cases value.step? name <;> rfl
    rw [List.foldl_cons, ih h.2, hfield, at?]
    cases value.step? name with
    | none => cases names <;> rfl
    | some next => rfl

end QueryCatalog
