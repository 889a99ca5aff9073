import QueryCatalog.Proofs.Json.Path
import QueryCatalog.Proofs.Json.Writing

/-!
What a write at a path leaves of a row. Only the last write at a path counts. What stands beside
the path stays, unless the path leads through an array, which gives way to an object; and fields
that are there keep their places.
-/
namespace QueryCatalog

open QueryCatalog.Path (Apart)

namespace Row

def names (row : Row) : List String := row.map (·.1)

/-- No array stands on the way to the end of the path. -/
def Unblocked (p : Path) (row : Row) : Prop :=
  ∀ q items, q <+: p → q ≠ p → row.at? q ≠ some (.arr items)

variable {key : String} {rest p q : Path}

theorem inner_put (key : String) (fields row : Row) :
    (row.put key (.obj fields)).inner key = fields := by
  rw [inner, get?_put_self]
  rfl

theorem put_put (key : String) (v w : Json) (row : Row) :
    (row.put key v).put key w = row.put key w := by
  induction row with
  | nil => simp [put]
  | cons field rest ih =>
    obtain ⟨name, old⟩ := field
    by_cases h : name = key
    · simp [put, h]
    · have hne : (name == key) = false := by simpa using h
      simp only [put, hne, Bool.false_eq_true, if_false, ih]

/-- Of two writes at one path only the second one counts. -/
theorem putAt_putAt (p : Path) (v w : Json) (row : Row) :
    putAt w p (putAt v p row) = putAt w p row := by
  induction p generalizing row with
  | nil => rfl
  | cons key rest ih =>
    by_cases hrest : rest = []
    · subst hrest
      exact put_put key v w row
    · rw [putAt_cons hrest, putAt_cons hrest, putAt_cons hrest, inner_put, put_put, ih]

theorem names_put (key : String) (value : Json) (row : Row) :
    row.names <+: (row.put key value).names := by
  induction row with
  | nil => exact List.nil_prefix
  | cons field rest ih =>
    obtain ⟨name, old⟩ := field
    by_cases h : name = key
    · simp [put, names, h]
    · have hne : (name == key) = false := by simpa using h
      simp only [put, hne, Bool.false_eq_true, if_false, names, List.map_cons]
      exact List.prefix_cons_inj name |>.mpr ih

theorem names_putAt (p : Path) (value : Json) (row : Row) :
    row.names <+: (putAt value p row).names := by
  cases p with
  | nil => exact List.prefix_rfl
  | cons key rest =>
    obtain ⟨written, hput⟩ := putAt_eq_put value key rest row
    rw [hput]
    exact names_put key written row

/-- Below a key without an array, paths are read in the fields that a write there goes into. -/
theorem at?_inner (hq : q ≠ []) {row : Row} (harray : ∀ items, row.get? key ≠ some (.arr items)) :
    row.at? (key :: q) = (row.inner key).at? q := by
  obtain ⟨next, q, rfl⟩ := List.exists_cons_of_ne_nil hq
  rw [at?, inner]
  cases hvalue : row.get? key with
  | none => rfl
  | some value =>
    cases value with
    | arr items => exact absurd hvalue (harray items)
    | _ => rfl

namespace Unblocked

variable {row : Row}

theorem no_array (h : Unblocked (key :: rest) row) (hrest : rest ≠ []) (items : List Json) :
    row.get? key ≠ some (.arr items) := by
  intro hvalue
  have hread : row.at? [key] = some (.arr items) := by
    rw [at?, hvalue]
    rfl
  refine h [key] items ⟨rest, rfl⟩ (fun hsame => hrest ?_) hread
  exact (List.cons.inj hsame).2.symm

theorem inner (h : Unblocked (key :: rest) row) (hrest : rest ≠ []) :
    Unblocked rest (row.inner key) := by
  intro q items hleads hproper hread
  have hq : q ≠ [] := by
    rintro rfl
    cases hread
  rw [← at?_inner hq (h.no_array hrest)] at hread
  exact h (key :: q) items (List.cons_prefix_cons.mpr ⟨rfl, hleads⟩)
    (fun hsame => hproper (List.cons.inj hsame).2) hread

end Unblocked

/-- Beside the path everything is read as before. -/
theorem at?_putAt_beside {row : Row} (hopen : Unblocked p row) (hapart : Apart p q)
    (value : Json) : (putAt value p row).at? q = row.at? q := by
  induction p generalizing q row with
  | nil => exact absurd List.nil_prefix hapart.1
  | cons key rest ih =>
    cases q with
    | nil => exact absurd List.nil_prefix hapart.2
    | cons other others =>
      by_cases hkey : other = key
      · subst hkey
        rw [Path.apart_cons_iff] at hapart
        have hrest : rest ≠ [] := by
          rintro rfl
          exact hapart.1 List.nil_prefix
        have hothers : others ≠ [] := by
          rintro rfl
          exact hapart.2 List.nil_prefix
        rw [putAt_cons hrest, at?_put_obj hothers, ih (hopen.inner hrest) hapart,
          at?_inner hothers (hopen.no_array hrest)]
      · obtain ⟨written, hput⟩ := putAt_eq_put value key rest row
        rw [hput, at?, at?, get?_put_of_ne hkey]

/-- Every object on the way to the end of the path keeps its fields at their places. -/
theorem names_at?_putAt {row fields : Row} (hopen : Unblocked p row) (hleads : q <+: p)
    (hproper : q ≠ p) (hread : row.at? q = some (.obj fields)) (value : Json) :
    ∃ after : Row, (putAt value p row).at? q = some (.obj after) ∧
      fields.names <+: after.names := by
  induction q generalizing p row with
  | nil => cases hread
  | cons key others ih =>
    obtain ⟨rest, rfl, hothers⟩ := List.cons_prefix_iff.mp hleads
    have hrest : rest ≠ [] := by
      rintro rfl
      exact hproper (by rw [List.prefix_nil.mp hothers])
    rw [putAt_cons hrest]
    by_cases hlast : others = []
    · subst hlast
      refine ⟨putAt value rest (row.inner key), ?_, ?_⟩
      · rw [at?, get?_put_self]
        rfl
      · have hvalue : row.get? key = some (.obj fields) := by
          rw [at?] at hread
          cases hkey : row.get? key with
          | none => rw [hkey] at hread; cases hread
          | some found => rw [hkey] at hread; exact hread
        have hinner : row.inner key = fields := by
          rw [inner, hvalue]
          rfl
        rw [hinner]
        exact names_putAt rest value fields
    · rw [at?_inner hlast (hopen.no_array hrest)] at hread
      rw [at?_put_obj hlast]
      exact ih (hopen.inner hrest) hothers (fun hsame => hproper (by rw [hsame])) hread

/-- A row is read head first, and the rest of the path in the value there; together that is how the
row is read as an object. -/
structure ReadLaws (row : Row) : Prop where
  plain : ∀ name, PlainName name → row.path? name = row.get? name
  dotted : ∀ head rest, PlainName head →
    row.path? (head ++ "." ++ rest) = (row.get? head).bind fun value => value.get? rest
  as_object : ∀ q, row.path? q = (Json.obj row).get? q

/-- What a write at a path does to what is read. -/
structure WriteLaws (row : Row) (p : String) (v : Json) : Prop where
  row_reads : (row.setPath p v).path? p = some v
  object_reads : (Json.obj (row.setPath p v)).get? p = some v
  last_wins : ∀ w, (row.setPath p v).setPath p w = row.setPath p w
  beside : row.Unblocked (.ofString p) → ∀ q, Apart (.ofString p) (.ofString q) →
    (row.setPath p v).path? q = row.path? q
  places : row.names <+: (row.setPath p v).names
  /-- The same within the objects that the path leads through. -/
  inner_places : row.Unblocked (.ofString p) → ∀ (q : Path) (fields : Row), q <+: Path.ofString p →
    q ≠ Path.ofString p → row.at? q = some (.obj fields) → ∃ after : Row,
      (row.setPath p v).at? q = some (.obj after) ∧ fields.names <+: after.names

theorem get?_obj (row : Row) (p : String) : (Json.obj row).get? p = row.path? p :=
  at?_obj row (Path.ofString_ne_nil p)

theorem path?_dot {head : String} (h : PlainName head) (row : Row) (rest : String) :
    row.path? (head ++ "." ++ rest) = (row.get? head).bind fun value => value.get? rest := by
  rw [path?, Path.ofString_dot h, at?]
  cases row.get? head <;> rfl

/-- Reading and writing at paths agree, for every row, path and value. -/
theorem paths_lawful (row : Row) (p : String) (v : Json) : row.ReadLaws ∧ row.WriteLaws p v := by
  constructor
  · exact ⟨fun name h => path?_plain h row, fun head rest h => path?_dot h row rest,
      fun q => (row.get?_obj q).symm⟩
  · have hread : (row.setPath p v).path? p = some v := path?_setPath_self row p v
    refine ⟨hread, ?_, ?_, ?_, ?_, ?_⟩
    · rw [get?_obj]
      exact hread
    · exact fun w => putAt_putAt _ v w row
    · exact fun hopen q hapart => at?_putAt_beside hopen hapart v
    · exact names_putAt _ v row
    · exact fun hopen q fields hleads hproper hfields =>
        names_at?_putAt hopen hleads hproper hfields v

end Row

end QueryCatalog
