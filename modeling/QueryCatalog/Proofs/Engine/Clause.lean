import Mathlib.Data.List.DropRight
import QueryCatalog.Engine.Dialect
import QueryCatalog.Proofs.Statement.Tail

/-!
What the dialect adds to a statement. It is read as code exactly if the statement, without the
blanks and semicolons at its end, does not end in a line comment. The end of the line that would
close the comment is among those blanks.
-/
namespace QueryCatalog.Dialect

open Statement

theorem dropWhileEnd_split {p : Char → Bool} (hp : ∀ c, p c = true → isBreak c = true)
    (cs : List Char) :
    ∃ after, cs = Text.dropWhileEnd p cs ++ after ∧ after.all isBreak = true := by
  refine ⟨cs.rtakeWhile p, List.rdropWhile_append_rtakeWhile.symm, ?_⟩
  rw [List.all_eq_true]
  exact fun c hc => hp c (List.mem_rtakeWhile_imp hc)

/-- A statement is its bare text with blanks before it, and blanks and semicolons after it. -/
theorem bare_split (s : String) :
    ∃ before after, s.toList = before ++ ((bare s).toList ++ after) ∧
      before.all Text.isBlank = true ∧ after.all isBreak = true := by
  have hblank : ∀ c, Text.isBlank c = true → isBreak c = true := by
    intro c hc
    simp [isBreak, hc]
  have hsemicolon : ∀ c, (c == ';') = true → isBreak c = true := by
    intro c hc
    simp [isBreak, hc]
  let text := s.toList.dropWhile Text.isBlank
  let unended := Text.dropWhileEnd (· == ';') (Text.trimEnd text)
  have hbare : (bare s).toList = Text.trimEnd unended := String.toList_ofList
  obtain ⟨last, hlast, hlasts⟩ := dropWhileEnd_split hblank text
  obtain ⟨ends, hends, hendings⟩ := dropWhileEnd_split hsemicolon (Text.trimEnd text)
  obtain ⟨inner, hinner, hinners⟩ := dropWhileEnd_split hblank unended
  refine ⟨s.toList.takeWhile Text.isBlank, inner ++ (ends ++ last), ?_, ?_, ?_⟩
  · calc s.toList
      _ = s.toList.takeWhile Text.isBlank ++ text := List.takeWhile_append_dropWhile.symm
      _ = s.toList.takeWhile Text.isBlank ++ (Text.trimEnd text ++ last) :=
        congrArg (_ ++ ·) hlast
      _ = s.toList.takeWhile Text.isBlank ++ ((unended ++ ends) ++ last) :=
        congrArg (fun cs => _ ++ (cs ++ _)) hends
      _ = s.toList.takeWhile Text.isBlank ++ (((Text.trimEnd unended ++ inner) ++ ends) ++ last) :=
        congrArg (fun cs => _ ++ ((cs ++ _) ++ _)) hinner
      _ = _ := by rw [hbare]; simp only [List.append_assoc]
  · rw [List.all_eq_true]
    exact fun c hc => List.mem_takeWhile_imp hc
  · simp [hlasts, hendings, hinners]

/-- The bare text of an accepted statement is accepted, with the same placeholders. -/
theorem parse_bare {s : String} {ps : List Piece} (h : parse s = .ok ps) :
    ∃ qs, pieces (bare s).toList = .ok qs ∧ placeholders qs = placeholders ps := by
  obtain ⟨before, after, hsplit, hbefore, hafter⟩ := bare_split s
  have hordinary : before.all isOrdinary = true := by
    rw [List.all_eq_true] at hbefore ⊢
    intro c hc
    exact isOrdinary_of_isBreak (by simp [isBreak, hbefore c hc])
  rw [parse, hsplit] at h
  obtain ⟨rest, hrest, rfl⟩ := pieces_of_after_ordinary hordinary h
  obtain ⟨qs, hqs, hsame⟩ := pieces_without_breaks hrest hafter
  refine ⟨qs, hqs, ?_⟩
  rw [placeholders_append, placeholders_plainChars, List.nil_append, hsame]

/-- A ` ?` behind the text is one more placeholder after those of the pieces. -/
def MarkerFound (ps : List Piece) (text : String) : Prop :=
  ∃ qs, parse (text ++ " ?") = .ok (qs ++ [questionMark]) ∧ placeholders qs = placeholders ps

/-- A ` ?` behind the text goes unnoticed. -/
def MarkerHidden (ps : List Piece) (text : String) : Prop :=
  ∃ qs, parse (text ++ " ?") = .ok qs ∧ placeholders qs = placeholders ps

theorem MarkerHidden.not_found {ps : List Piece} {text : String} (h : MarkerHidden ps text) :
    ¬ MarkerFound ps text := by
  rintro ⟨qs, hqs, hsame⟩
  obtain ⟨rs, hrs, hrest⟩ := h
  rw [hqs] at hrs
  cases hrs
  rw [placeholders_append, hsame] at hrest
  simp [questionMark] at hrest

/-- What a clause is written in: characters that are read alone and do not end the line. -/
def isInline (c : Char) : Bool := isOrdinary c && c != '\n'

theorem ordinary_of_inline {cs : List Char} (h : cs.all isInline = true) :
    cs.all isOrdinary = true := by
  rw [List.all_eq_true] at h ⊢
  intro c hc
  exact (Bool.and_eq_true_iff.mp (h c hc)).1

theorem no_line_of_inline {cs : List Char} (h : cs.all isInline = true) : '\n' ∉ cs := by
  rw [List.all_eq_true] at h
  intro hline
  have hnone : isInline '\n' = false := by decide
  rw [h _ hline] at hnone
  cases hnone

/-- A statement with ordinary text before it, and a clause behind it whose first character ends
what the statement holds back. -/
theorem marker_found_iff_of_clause {head text clause : List Char} {first : Char} {t : String}
    (ht : t.toList = head ++ (text ++ first :: clause)) (hhead : head.all isOrdinary = true)
    (hfirst : isBreak first = true) (hclause : (first :: clause).all isInline = true)
    {ps qs : List Piece} (hqs : pieces text = .ok qs) (hsame : placeholders qs = placeholders ps) :
    (MarkerFound ps t ↔ ¬ EndsInLineComment text) ∧
      (EndsInLineComment text → MarkerHidden ps t) := by
  have hall := pieces_after_ordinary hhead hqs
  have hends : EndsInLineComment (head ++ text) ↔ EndsInLineComment text :=
    endsInLineComment_after_ordinary hhead
  have htext : (t ++ " ?").toList = (head ++ text) ++ first :: ((clause ++ [' ']) ++ ['?']) := by
    simp [ht]
  have hhidden : EndsInLineComment text → MarkerHidden ps t := by
    intro hend
    have hline : '\n' ∉ first :: ((clause ++ [' ']) ++ ['?']) := by
      simpa using no_line_of_inline hclause
    have happend := pieces_append_comment hall (hends.mpr hend) hline
    rw [← htext] at happend
    exact ⟨_, happend, by simp [hsame]⟩
  refine ⟨⟨fun hfound hend => (hhidden hend).not_found hfound, fun hend => ?_⟩, hhidden⟩
  have hrest : (clause ++ [' ']).all isOrdinary = true := by
    rw [List.all_cons, Bool.and_eq_true] at hclause
    rw [List.all_append, ordinary_of_inline hclause.2]
    decide
  have happend := pieces_append_mark hall (fun h => hend (hends.mp h)) hfirst hrest
  rw [← htext] at happend
  exact ⟨_, happend, by simp [hsame]⟩

theorem inline_digits (n : Nat) : (toString n).toList.all isInline = true := by
  rw [List.all_eq_true]
  intro c hc
  rw [Nat.toString_eq_repr, Nat.toList_repr] at hc
  have hdigit : c.isDigit = true := Nat.isDigit_of_mem_toDigits (by decide) (by decide) hc
  have hline : c ≠ '\n' := by
    rintro rfl
    cases hdigit
  simp [isInline, isOrdinary_of_isDigit hdigit, hline]

/-- The clause of a window begins with a blank and is one line. -/
theorem limitClause_eq (offset limit : Nat) :
    ∃ clause, (limitClause offset limit).toList = ' ' :: clause ∧
      (' ' :: clause).all isInline = true := by
  have hword : (' ' :: "LIMIT ".toList).all isInline = true := by decide
  by_cases hoffset : (offset == 0) = true
  · have htext : limitClause offset limit = " LIMIT " ++ toString limit := by
      rw [limitClause, if_pos hoffset]
      rfl
    refine ⟨"LIMIT ".toList ++ (toString limit).toList, ?_, ?_⟩
    · rw [htext]
      simp
    · rw [← List.cons_append, List.all_append, hword, inline_digits]
      rfl
  · have htext : limitClause offset limit =
        " LIMIT " ++ toString limit ++ " OFFSET " ++ toString offset := by
      rw [limitClause, if_neg hoffset]
      rfl
    refine ⟨"LIMIT ".toList ++ (toString limit).toList ++ " OFFSET ".toList ++
      (toString offset).toList, ?_, ?_⟩
    · rw [htext]
      simp
    · have hoffsets : " OFFSET ".toList.all isInline = true := by decide
      simp only [← List.cons_append, List.all_append, hword, hoffsets, inline_digits,
        Bool.and_self]

/-- The window and the count of a statement are its bare text with ordinary text before it and one
line behind it, which begins with a break. -/
theorem ansi_around (s : String) (offset limit : Nat) (hints : List Hint) :
    ∀ t ∈ [ansi.limit s offset limit hints, ansi.count s hints], ∃ head first clause,
      t.toList = head ++ ((bare s).toList ++ first :: clause) ∧ head.all isOrdinary = true ∧
        isBreak first = true ∧ (first :: clause).all isInline = true := by
  intro t ht
  simp only [List.mem_cons, List.not_mem_nil, or_false] at ht
  rcases ht with rfl | rfl
  · obtain ⟨clause, hclause, hinline⟩ := limitClause_eq offset limit
    refine ⟨[], ' ', clause, ?_, rfl, by decide, hinline⟩
    simp only [ansi, String.toList_append, hclause, List.nil_append]
  · refine ⟨"SELECT COUNT(*) AS total_ FROM (".toList, ')', " AS count_".toList, ?_, by decide,
      by decide, by decide⟩
    simp only [ansi, String.toList_append, List.append_assoc]
    rfl

/-- Behind the window and behind the count of an accepted statement, a marker is found exactly if
the bare statement does not end in a line comment. Otherwise the clause is part of the comment, and
nothing fails. -/
theorem marker_found_iff {s : String} {ps : List Piece} (h : parse s = .ok ps)
    (offset limit : Nat) (hints : List Hint) :
    ∀ t ∈ [ansi.limit s offset limit hints, ansi.count s hints],
      (MarkerFound ps t ↔ ¬ EndsInLineComment (bare s).toList) ∧
        (EndsInLineComment (bare s).toList → MarkerHidden ps t) := by
  obtain ⟨qs, hqs, hsame⟩ := parse_bare h
  intro t ht
  obtain ⟨head, first, clause, htext, hhead, hfirst, hclause⟩ := ansi_around s offset limit hints t ht
  exact marker_found_iff_of_clause htext hhead hfirst hclause hqs hsame

/-- The comment ends with its line, and the end of the line is cut off. -/
def commentedLast : String := "SELECT x FROM t -- all\n"

/-- A marker behind the statement itself is found, and behind its window and its count it is not. -/
theorem last_comment_hides_clause :
    parse commentedLast = .ok (plainChars commentedLast.toList) ∧
      MarkerFound (plainChars commentedLast.toList) commentedLast ∧
      ansi.limit commentedLast 0 10 [] = "SELECT x FROM t -- all LIMIT 10" ∧
      ¬ MarkerFound (plainChars commentedLast.toList) (ansi.limit commentedLast 0 10 []) ∧
      ansi.count commentedLast [] =
        "SELECT COUNT(*) AS total_ FROM (SELECT x FROM t -- all) AS count_" ∧
      ¬ MarkerFound (plainChars commentedLast.toList) (ansi.count commentedLast []) := by
  have hlimit : MarkerHidden (plainChars commentedLast.toList)
      (ansi.limit commentedLast 0 10 []) := ⟨_, rfl, rfl⟩
  have hcount : MarkerHidden (plainChars commentedLast.toList) (ansi.count commentedLast []) :=
    ⟨_, rfl, rfl⟩
  refine ⟨rfl, ⟨plainChars commentedLast.toList ++ [.plain ' '], rfl, rfl⟩, rfl,
    hlimit.not_found, rfl, hcount.not_found⟩

/-- A comment that ends before the last line hides nothing, nor do dashes within quotes. -/
def commentedBefore : String := "SELECT '--' FROM t -- all :x\nWHERE id = ? ;\n"

theorem marker_found_iff_commentedBefore :
    ∃ ps, parse commentedBefore = .ok ps ∧ placeholders ps = [.positional] ∧
      (MarkerFound ps (ansi.limit commentedBefore 20 10 []) ↔
        ¬ EndsInLineComment (bare commentedBefore).toList) ∧
      (MarkerFound ps (ansi.count commentedBefore []) ↔
        ¬ EndsInLineComment (bare commentedBefore).toList) := by
  have hlimit := marker_found_iff (s := commentedBefore) rfl 20 10 [] _ List.mem_cons_self
  have hcount := marker_found_iff (s := commentedBefore) rfl 20 10 [] _
    (List.mem_cons_of_mem _ List.mem_cons_self)
  exact ⟨_, rfl, rfl, hlimit.1, hcount.1⟩

end QueryCatalog.Dialect
