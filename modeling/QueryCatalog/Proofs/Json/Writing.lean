import Mathlib.Tactic.Common
import QueryCatalog.Json.Path

/-!
What is read from a row after a value is written at a path. The value itself is read where it was
written, and what was written there before stays readable exactly where the paths part.
-/
namespace QueryCatalog

namespace Path

/-- Neither path leads through the other. -/
def Apart (p q : Path) : Prop := ¬p <+: q ∧ ¬q <+: p

instance (p q : Path) : Decidable (Apart p q) :=
  inferInstanceAs (Decidable (¬p <+: q ∧ ¬q <+: p))

theorem splitDots_ne_nil (current text : List Char) : splitDots current text ≠ [] := by
  induction text generalizing current with
  | nil => simp [splitDots]
  | cons c rest ih =>
    unfold splitDots
    split
    · simp
    · exact ih _

theorem ofString_ne_nil (text : String) : ofString text ≠ [] := splitDots_ne_nil [] _

theorem apart_cons_iff {key : String} {p q : Path} :
    Apart (key :: p) (key :: q) ↔ Apart p q := by
  simp only [Apart, List.prefix_cons_inj]

end Path

open QueryCatalog.Path (Apart)

namespace Row

theorem get?_put_self (key : String) (value : Json) (row : Row) :
    (row.put key value).get? key = some value := by
  induction row with
  | nil => simp [put, get?]
  | cons field rest ih =>
    by_cases h : field.1 = key
    · simp [put, get?, h]
    · have hne : (field.1 == key) = false := by simpa using h
      have hne' : (key == field.1) = false := by simpa using Ne.symm h
      simp only [put, hne, Bool.false_eq_true, if_false, get?, List.lookup_cons, hne']
      exact ih

theorem get?_put_of_ne {key other : String} (h : other ≠ key) (value : Json) (row : Row) :
    (row.put key value).get? other = row.get? other := by
  have hother : (other == key) = false := by simpa using h
  induction row with
  | nil => simp [put, get?, List.lookup_cons, hother]
  | cons field rest ih =>
    obtain ⟨name, old⟩ := field
    by_cases hkey : name = key
    · subst hkey
      simp [put, get?, List.lookup_cons, hother]
    · have hne : (name == key) = false := by simpa using hkey
      simp only [put, hne, Bool.false_eq_true, if_false, get?, List.lookup_cons]
      cases other == name with
      | true => rfl
      | false => exact ih

/-- Within an object a path goes on as within a row. -/
theorem at?_obj (fields : Row) {p : Path} (hp : p ≠ []) :
    (Json.obj fields).at? p = fields.at? p := by
  cases p with
  | nil => exact absurd rfl hp
  | cons key rest => rfl

/-! Writing one segment after the other. -/

/-- The fields that a write below the key goes into. -/
def inner (row : Row) (key : String) : Row := (Json.orNull (row.get? key)).fieldsOrEmpty

theorem putAt_cons {rest : Path} (hrest : rest ≠ []) (key : String) (value : Json) (row : Row) :
    putAt value (key :: rest) row = row.put key (.obj (putAt value rest (row.inner key))) := by
  obtain ⟨next, rest, rfl⟩ := List.exists_cons_of_ne_nil hrest
  rfl

/-- A write at a path is a write to the field of its first segment. -/
theorem putAt_eq_put (value : Json) (key : String) (rest : Path) (row : Row) :
    ∃ written, putAt value (key :: rest) row = row.put key written := by
  by_cases hrest : rest = []
  · subst hrest
    exact ⟨value, rfl⟩
  · exact ⟨_, putAt_cons hrest key value row⟩

theorem at?_singleton (key : String) (row : Row) : row.at? [key] = row.get? key := by
  rw [at?]
  cases row.get? key <;> rfl

/-- After a write below a key, paths are read in the fields that it has left there. -/
theorem at?_put_obj {q : Path} (hq : q ≠ []) (key : String) (fields row : Row) :
    (row.put key (.obj fields)).at? (key :: q) = fields.at? q := by
  rw [at?, get?_put_self]
  exact at?_obj fields hq

/-- What is written at a path is read there. -/
theorem at?_putAt_self {p : Path} (hp : p ≠ []) (value : Json) (row : Row) :
    (putAt value p row).at? p = some value := by
  induction p generalizing row with
  | nil => exact absurd rfl hp
  | cons key rest ih =>
    by_cases hrest : rest = []
    · subst hrest
      rw [putAt, at?_singleton, get?_put_self]
    · rw [putAt_cons hrest, at?_put_obj hrest, ih hrest]

theorem path?_setPath_self (row : Row) (path : String) (value : Json) :
    (row.setPath path value).path? path = some value :=
  at?_putAt_self (Path.ofString_ne_nil path) value row

/-- A path that leads through objects up to its last segment. -/
def Open : Path → Row → Prop
  | [], _ => True
  | [_], _ => True
  | key :: rest, row => ∃ fields, row.get? key = some (.obj fields) ∧ Open rest fields

/-- Writing opens the path. -/
theorem open_putAt (p : Path) (value : Json) (row : Row) : Open p (putAt value p row) := by
  induction p generalizing row with
  | nil => trivial
  | cons key rest ih =>
    cases rest with
    | nil => trivial
    | cons next rest => exact ⟨_, get?_put_self _ _ _, ih _⟩

/-- Writing apart from an open path changes nothing on it. -/
theorem at?_putAt_of_apart {p q : Path} (hapart : Apart p q) (value : Json) {row : Row}
    (hopen : Open p row) :
    (putAt value q row).at? p = row.at? p ∧ Open p (putAt value q row) := by
  induction p generalizing q row with
  | nil => exact absurd List.nil_prefix hapart.1
  | cons key rest ih =>
    cases q with
    | nil => exact absurd List.nil_prefix hapart.2
    | cons other others =>
      by_cases hkey : key = other
      · subst hkey
        rw [Path.apart_cons_iff] at hapart
        have hrest : rest ≠ [] := by
          rintro rfl
          exact hapart.1 List.nil_prefix
        have hothers : others ≠ [] := by
          rintro rfl
          exact hapart.2 List.nil_prefix
        obtain ⟨next, rest, rfl⟩ := List.exists_cons_of_ne_nil hrest
        obtain ⟨fields, hfields, hinner⟩ := hopen
        -- both paths go through the object under the key, and part inside it
        have hunder : row.inner key = fields := by
          rw [inner, hfields]
          rfl
        have hrow : row.at? (key :: next :: rest) = at? fields (next :: rest) := by
          rw [at?, hfields]
          exact at?_obj fields hrest
        obtain ⟨hread, hopen'⟩ := ih hapart hinner
        rw [putAt_cons hothers, hunder]
        constructor
        · rw [at?_put_obj hrest, hread, hrow]
        · exact ⟨_, get?_put_self _ _ _, hopen'⟩
      · obtain ⟨written, hput⟩ := putAt_eq_put value other others row
        have hsame : (putAt value (other :: others) row).get? key = row.get? key := by
          rw [hput, get?_put_of_ne hkey]
        constructor
        · rw [at?, at?, hsame]
        · cases rest with
          | nil => trivial
          | cons next rest =>
            obtain ⟨fields, hfields, hinner⟩ := hopen
            exact ⟨fields, hsame.trans hfields, hinner⟩

/-- Writing behind a path leaves an object there. -/
theorem at?_putAt_extension {p : Path} (hp : p ≠ []) {rest : Path} (hrest : rest ≠ [])
    (value : Json) (row : Row) :
    ∃ fields, (putAt value (p ++ rest) row).at? p = some (.obj fields) := by
  induction p generalizing row with
  | nil => exact absurd rfl hp
  | cons key others ih =>
    have hne : others ++ rest ≠ [] := by simp [hrest]
    rw [List.cons_append, putAt_cons hne]
    by_cases hothers : others = []
    · subst hothers
      exact ⟨_, by rw [at?_singleton, get?_put_self]⟩
    · rw [at?_put_obj hothers]
      exact ih hothers _

/-- Behind a path where a value was written, the value itself is read. -/
theorem at?_putAt_prefix {p : Path} (hp : p ≠ []) (rest : Path) (value : Json) (row : Row) :
    (putAt value p row).at? (p ++ rest) = value.at? rest := by
  induction p generalizing row with
  | nil => exact absurd rfl hp
  | cons key others ih =>
    rw [List.cons_append]
    by_cases hothers : others = []
    · subst hothers
      rw [putAt, List.nil_append, at?, get?_put_self]
    · have hne : others ++ rest ≠ [] := by simp [hothers]
      rw [putAt_cons hothers, at?_put_obj hne, ih hothers]

end Row

end QueryCatalog
