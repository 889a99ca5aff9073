import QueryCatalog.Proofs.Lua.Loading

/-!
Reading and storing in a table. Under a key that is text there is what was stored last; what is
stored under a key that is not this text does not matter.
-/
namespace QueryCatalog.Lua

namespace Table

theorem same_text_iff {v : Value} {name : String} :
    v.same (.text name) = true ↔ v = .text name := by
  cases v with
  | str bytes => simp [Value.same, Value.text, Data.bytes_beq_iff]
  | _ => simp [Value.same, Value.text]

theorem find?_putEntry_self {name : String} {v : Value} (hv : v.isNil = false)
    (entries : List (Value × Value)) :
    ((putEntry (.text name) v entries).find? fun entry => entry.1.same (.text name)).map (·.2) =
      some v := by
  induction entries with
  | nil =>
    have hself : (Value.text name).same (.text name) = true := same_text_iff.mpr rfl
    simp [putEntry, hv, hself]
  | cons entry rest ih =>
    obtain ⟨k, old⟩ := entry
    cases hsame : k.same (.text name) with
    | true => simp [putEntry, hsame, hv]
    | false =>
      rw [putEntry, hsame, if_neg Bool.false_ne_true, List.find?_cons_of_neg (by simp [hsame])]
      exact ih

theorem text_same_iff {v : Value} {name : String} :
    (Value.text name).same v = true ↔ v = .text name := by
  cases v with
  | str bytes =>
    exact (Data.bytes_beq_iff.trans eq_comm).trans (Value.str.injEq _ _).symm.to_iff
  | _ => simp [Value.same, Value.text]

theorem find?_putEntry_of_differ {key : Value} {other : String}
    (hdiffer : key.same (.text other) = false) (v : Value) (entries : List (Value × Value)) :
    (putEntry key v entries).find? (fun entry => entry.1.same (.text other)) =
      entries.find? fun entry => entry.1.same (.text other) := by
  induction entries with
  | nil =>
    rw [putEntry]
    cases v.isNil with
    | true => rfl
    | false => simp [hdiffer]
  | cons entry rest ih =>
    obtain ⟨k, old⟩ := entry
    cases hsame : k.same key with
    | true =>
      have hk : k.same (.text other) = false := by
        refine Bool.eq_false_iff.mpr fun htext => ?_
        rw [same_text_iff.mp htext, text_same_iff] at hsame
        rw [hsame, same_text_iff.mpr rfl] at hdiffer
        cases hdiffer
      rw [putEntry, hsame, if_pos rfl, List.find?_cons_of_neg (by simp [hk])]
      cases v.isNil with
      | true => rfl
      | false => simp [hk]
    | false =>
      rw [putEntry, hsame, if_neg Bool.false_ne_true, List.find?_cons, List.find?_cons, ih]

theorem get_of_entries (t : Table) (key : Value) :
    t.get key = Table.get { entries := t.entries } key := rfl

theorem get_cons (k v key : Value) (rest : List (Value × Value)) :
    Table.get { entries := (k, v) :: rest } key =
      if k.same key.asKey then v else Table.get { entries := rest } key := by
  rw [get]
  dsimp only
  rw [List.find?_cons]
  cases k.same key.asKey <;> rfl

/-- Storing under a key that is not there adds to the end, unless it is nil. -/
theorem putEntry_absent {key v : Value} {entries : List (Value × Value)}
    (h : ∀ entry ∈ entries, entry.1.same key = false) :
    putEntry key v entries = entries ++ if v.isNil then [] else [(key, v)] := by
  by_cases hnil : v.isNil = true
  · rw [if_pos hnil, List.append_nil]
    induction entries with
    | nil => rw [putEntry, if_pos hnil]
    | cons entry rest ih =>
      rw [List.forall_mem_cons] at h
      rw [putEntry, h.1, ih h.2]
      rfl
  · rw [if_neg hnil]
    exact State.putEntry_of_new (Bool.eq_false_iff.mpr hnil) h

theorem get_text (t : Table) (name : String) : t.get (.text name) =
    ((t.entries.find? fun entry => entry.1.same (.text name)).map (·.2)).getD .nil := rfl

theorem set_text (t : Table) (name : String) (v : Value) :
    (t.set (.text name) v).entries = putEntry (.text name) v t.entries := rfl

theorem get_set_text_self {v : Value} (hv : v.isNil = false) (t : Table) (name : String) :
    (t.set (.text name) v).get (.text name) = v := by
  rw [get_text, set_text, find?_putEntry_self hv]
  rfl

theorem get_set_text_nil {t : Table} {name : String}
    (h : (t.entries.find? fun entry => entry.1.same (.text name)) = none) :
    (t.set (.text name) .nil).get (.text name) = .nil := by
  have habsent : ∀ entry ∈ t.entries, entry.1.same (.text name) = false :=
    fun entry hentry => Bool.eq_false_iff.mpr (List.find?_eq_none.mp h entry hentry)
  rw [get_text, set_text, putEntry_absent habsent, List.find?_append, h]
  rfl

theorem text_inj {name other : String} (h : Value.text name = .text other) : name = other :=
  String.toByteArray_inj.mp (Value.str.inj h)

theorem get_set_of_differ {key : Value} {name : String}
    (hdiffer : key.asKey.same (.text name) = false) (t : Table) (v : Value) :
    (t.set key v).get (.text name) = t.get (.text name) := by
  rw [get_text, set, find?_putEntry_of_differ hdiffer, get_text]

theorem get_set_text_of_ne {name other : String} (hne : name ≠ other) (t : Table) (v : Value) :
    (t.set (.text name) v).get (.text other) = t.get (.text other) := by
  refine get_set_of_differ (Bool.eq_false_iff.mpr fun hsame => hne ?_) t v
  exact text_inj (same_text_iff.mp hsame)

end Table

end QueryCatalog.Lua
