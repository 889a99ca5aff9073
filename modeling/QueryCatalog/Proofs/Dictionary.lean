import QueryCatalog.Dictionary
import Mathlib.Tactic.Common

/-! Reading a dictionary after a name is written, and what is in it when all names are new. -/
namespace QueryCatalog.Dictionary

variable {α : Type}

theorem find?_cons (n : String) (v : α) (d : Dictionary α) (name : String) :
    find? ((n, v) :: d) name = if name == n then some v else find? d name := by
  simp only [find?, List.lookup_cons]
  split <;> simp_all

theorem find?_of_mem {d : Dictionary α} (hnames : d.names.Nodup) {entry : String × α}
    (h : entry ∈ d) : d.find? entry.1 = some entry.2 := by
  induction d with
  | nil => cases h
  | cons first rest ih =>
    rw [names, List.map_cons, List.nodup_cons] at hnames
    rw [find?_cons]
    rcases List.mem_cons.mp h with rfl | hmem
    · rw [if_pos (beq_self_eq_true _)]
    · have hne : (entry.1 == first.1) = false := by
        refine beq_eq_false_iff_ne.mpr fun hsame => hnames.1 ?_
        exact List.mem_map.mpr ⟨entry, hmem, hsame⟩
      rw [hne]
      exact ih hnames.2 hmem

theorem mem_of_find? {d : Dictionary α} {name : String} {value : α}
    (h : d.find? name = some value) : (name, value) ∈ d := by
  obtain ⟨before, after, heq, -⟩ := List.lookup_eq_some_iff.mp h
  rw [heq]
  simp

/-- Under a name stand the value and what it is mapped to, or nothing in both. -/
theorem rel_find?_map {R : α → α → Prop} {f : α → α} (hf : ∀ a, R a (f a)) (d : Dictionary α)
    (name : String) : Option.Rel R (find? d name)
      (find? (d.map fun entry => (entry.1, f entry.2)) name) := by
  induction d with
  | nil => exact .none
  | cons entry rest ih =>
    obtain ⟨n, v⟩ := entry
    rw [List.map_cons, find?_cons, find?_cons]
    split_ifs
    · exact .some (hf v)
    · exact ih

theorem find?_insert (d : Dictionary α) (name other : String) (value : α) :
    (d.insert name value).find? other = if other == name then some value else d.find? other := by
  induction d with
  | nil => exact find?_cons name value [] other
  | cons entry rest ih =>
    obtain ⟨n, v⟩ := entry
    by_cases hsame : name = n
    · subst hsame
      have hinsert : insert name value ((name, v) :: rest) = (name, value) :: rest := by
        simp [insert]
      rw [hinsert, find?_cons, find?_cons]
      split <;> rfl
    · by_cases hless : name < n
      · have hinsert : insert name value ((n, v) :: rest) = (name, value) :: (n, v) :: rest := by
          simp [insert, hsame, hless]
        rw [hinsert, find?_cons]
      · have hinsert : insert name value ((n, v) :: rest) = (n, v) :: insert name value rest := by
          simp [insert, hsame, hless]
        rw [hinsert, find?_cons, find?_cons, ih]
        by_cases ho : other = name
        · subst ho; simp [hsame]
        · simp [ho]

/-- A new name is put between the others. -/
theorem insert_perm {d : Dictionary α} {name : String} (hnew : name ∉ d.names) (value : α) :
    (d.insert name value).Perm ((name, value) :: d) := by
  induction d with
  | nil => exact .refl _
  | cons entry rest ih =>
    obtain ⟨n, v⟩ := entry
    have hne : (name == n) = false := by
      refine beq_eq_false_iff_ne.mpr ?_
      rintro rfl
      exact hnew (by simp [names])
    by_cases hless : name < n
    · have hinsert : insert name value ((n, v) :: rest) = (name, value) :: (n, v) :: rest := by
        simp [insert, hne, hless]
      rw [hinsert]
    · have hinsert : insert name value ((n, v) :: rest) = (n, v) :: insert name value rest := by
        simp [insert, hne, hless]
      have hrest : name ∉ names rest := fun hmem => hnew (List.mem_cons_of_mem _ hmem)
      rw [hinsert]
      exact ((ih hrest).cons (n, v)).trans (.swap _ _ _)

theorem foldl_insert_perm (entries : List (String × α)) (d : Dictionary α)
    (hnodup : (entries.map (·.1)).Nodup) (hnew : ∀ entry ∈ entries, entry.1 ∉ d.names) :
    (entries.foldl (fun d entry => d.insert entry.1 entry.2) d).Perm (entries ++ d) := by
  induction entries generalizing d with
  | nil => exact .refl _
  | cons entry rest ih =>
    rw [List.map_cons, List.nodup_cons] at hnodup
    have hinsert := insert_perm (hnew entry List.mem_cons_self) entry.2
    have hnames := hinsert.map (·.1)
    have hrest : ∀ other ∈ rest, other.1 ∉ (d.insert entry.1 entry.2).names := by
      intro other hother hmem
      rcases List.mem_cons.mp (hnames.mem_iff.mp hmem) with hsame | hmem
      · exact hnodup.1 (List.mem_map.mpr ⟨other, hother, hsame⟩)
      · exact hnew other (List.mem_cons_of_mem _ hother) hmem
    rw [List.foldl_cons]
    calc rest.foldl (fun d entry => d.insert entry.1 entry.2) (d.insert entry.1 entry.2)
      _ |>.Perm (rest ++ d.insert entry.1 entry.2) := ih _ hnodup.2 hrest
      _ |>.Perm (rest ++ entry :: d) := hinsert.append_left rest
      _ |>.Perm (entry :: rest ++ d) := List.perm_middle

/-- Different names keep all their entries. -/
theorem ofList_perm {entries : List (String × α)} (hnodup : (entries.map (·.1)).Nodup) :
    (ofList entries).Perm entries := by
  have hall := foldl_insert_perm entries [] hnodup (fun _ _ => List.not_mem_nil)
  rwa [List.append_nil] at hall

end QueryCatalog.Dictionary
