import Mathlib.Data.List.DropRight
import QueryCatalog.Text.Blank

/-! Trimming takes away all blanks at both ends, and it is done after one time. -/
namespace QueryCatalog.Text

theorem trimChars_eq (cs : List Char) :
    trimChars cs = (cs.dropWhile isBlank).rdropWhile isBlank := rfl

/-- What is left after trimming does not start with a blank. -/
theorem dropWhile_trimChars (cs : List Char) :
    (trimChars cs).dropWhile isBlank = trimChars cs := by
  rw [trimChars_eq, List.dropWhile_eq_self_iff]
  intro hlength hblank
  have hstart : ((cs.dropWhile isBlank).rdropWhile isBlank) <+: cs.dropWhile isBlank :=
    List.rdropWhile_prefix _ _
  have hbefore : 0 < (cs.dropWhile isBlank).length := Nat.lt_of_lt_of_le hlength hstart.length_le
  have hhead := List.dropWhile_eq_self_iff.mp (List.dropWhile_idempotent isBlank cs) hbefore
  rw [hstart.getElem hlength] at hblank
  exact hhead hblank

theorem trimStart_cons {c : Char} {rest : List Char} (h : isBlank c = false) :
    trimStart (c :: rest) = c :: rest :=
  List.dropWhile_cons_of_neg (by rw [h]; exact Bool.false_ne_true)

/-- Text without blanks is not trimmed. -/
theorem trimChars_eq_self {cs : List Char} (h : ∀ c ∈ cs, isBlank c = false) :
    trimChars cs = cs := by
  have hstart : cs.dropWhile isBlank = cs := by
    cases cs with
    | nil => rfl
    | cons c rest => exact trimStart_cons (h c List.mem_cons_self)
  rw [trimChars_eq, hstart, List.rdropWhile_eq_self_iff]
  intro hne
  rw [h _ (List.getLast_mem hne)]
  exact Bool.false_ne_true

/-- Text without a blank at either end is not trimmed. -/
theorem trimChars_between {c d : Char} (hc : isBlank c = false) (hd : isBlank d = false)
    (cs : List Char) : trimChars (c :: (cs ++ [d])) = c :: (cs ++ [d]) := by
  have hend : ¬ isBlank d = true := by rw [hd]; exact Bool.false_ne_true
  rw [trimChars_eq, List.dropWhile_cons_of_neg (by rw [hc]; exact Bool.false_ne_true),
    ← List.cons_append, List.rdropWhile_concat_neg _ _ _ hend]

theorem trimChars_idempotent (cs : List Char) : trimChars (trimChars cs) = trimChars cs := by
  have hstart := dropWhile_trimChars cs
  rw [trimChars_eq (trimChars cs), hstart, trimChars_eq, List.rdropWhile_idempotent]

theorem trim_idempotent (s : String) : trim (trim s) = trim s := by
  simp only [trim, String.toList_ofList, trimChars_idempotent]

theorem allBlank_iff (s : String) : allBlank s = true ↔ trimChars s.toList = [] := by
  rw [allBlank, List.all_eq_true, trimChars_eq, List.rdropWhile_eq_nil_iff]
  constructor
  · intro hall c hc
    exact hall c ((List.dropWhile_sublist _).mem hc)
  · intro hall
    rw [← List.dropWhile_eq_nil_iff]
    by_contra hne
    have hpos : 0 < (s.toList.dropWhile isBlank).length := List.length_pos_iff.mpr hne
    have hhead := List.dropWhile_eq_self_iff.mp (List.dropWhile_idempotent isBlank s.toList) hpos
    exact hhead (hall _ (List.getElem_mem hpos))

theorem allBlank_trim (s : String) : allBlank (trim s) = allBlank s := by
  have hiff : allBlank (trim s) = true ↔ allBlank s = true := by
    rw [allBlank_iff, allBlank_iff, trim, String.toList_ofList, trimChars_idempotent]
  exact Bool.eq_iff_iff.mpr hiff

/-- Blanks around a text without blanks at its ends are taken away. -/
theorem trimChars_surrounded {cs : List Char} (h : trimChars cs = cs) :
    trimChars (' ' :: (cs ++ [' '])) = cs := by
  cases cs with
  | nil => rfl
  | cons c rest =>
    have hstart := dropWhile_trimChars (c :: rest)
    rw [h] at hstart
    have hc : isBlank c = false := by
      simpa using List.dropWhile_eq_self_iff.mp hstart (Nat.zero_lt_succ _)
    have hall : (c :: rest).rdropWhile isBlank = c :: rest := by
      rw [trimChars_eq, hstart] at h
      exact h
    have hfirst : (' ' :: (c :: rest ++ [' '])).dropWhile isBlank = c :: rest ++ [' '] := by
      rw [List.dropWhile_cons_of_pos rfl, List.cons_append,
        List.dropWhile_cons_of_neg (by rw [hc]; exact Bool.false_ne_true)]
    rw [trimChars_eq, hfirst, List.rdropWhile_concat_pos _ _ _ rfl, hall]

end QueryCatalog.Text
