import QueryCatalog.Proofs.Template.Printing
import QueryCatalog.Proofs.Template.Splitting
import QueryCatalog.Template.Render

/-!
Templates that are one string in quotes. Every string can be written so and comes out as it is,
unless it has two closing braces in a row: the splitting ends the output there, within the quotes.
-/
namespace QueryCatalog.Template

/-- What ends an output, wherever it stands. -/
def closing : List Char := ['}', '}']

/-- The text between double quotes, with a backslash before each quote and each backslash. -/
def quotedText (text : List Char) : List Char := '"' :: (escape '"' text ++ ['"'])

/-- The template that puts out the string. -/
def literalTemplate (s : String) : String :=
  String.ofList ('{' :: '{' :: ' ' :: (quotedText s.toList ++ ' ' :: closing))

/-! Where an output ends. -/

theorem closing_infix_cons {c : Char} (hc : c ≠ '}') (cs : List Char) :
    closing <:+: c :: cs ↔ closing <:+: cs := by
  rw [List.infix_cons_iff, closing, List.cons_prefix_cons]
  exact or_iff_right fun h => hc h.1.symm

theorem closing_prefix_escape (cs : List Char) :
    closing <+: '}' :: escape '"' cs ↔ closing <+: '}' :: cs := by
  cases cs with
  | nil => rfl
  | cons c cs =>
    simp only [closing, List.cons_prefix_cons, true_and, escape]
    split_ifs with hspecial
    · have hne : '}' ≠ c := by
        rintro rfl
        exact absurd hspecial (by decide)
      simp [hne]
    · simp [List.cons_prefix_cons]

/-- Backslashes neither part two braces nor bring two together. -/
theorem closing_infix_escape (cs : List Char) : closing <:+: escape '"' cs ↔ closing <:+: cs := by
  induction cs with
  | nil => rfl
  | cons c cs ih =>
    by_cases hc : c = '}'
    · subst hc
      have hescape : escape '"' ('}' :: cs) = '}' :: escape '"' cs := rfl
      rw [hescape, List.infix_cons_iff, List.infix_cons_iff, ih, closing_prefix_escape]
    · rw [closing_infix_cons hc, ← ih, escape]
      split_ifs
      · rw [closing_infix_cons (by decide), closing_infix_cons hc]
      · rw [closing_infix_cons hc]

theorem closing_infix_concat {c : Char} (hc : c ≠ '}') (cs : List Char) :
    closing <:+: cs ++ [c] ↔ closing <:+: cs := by
  rw [List.infix_concat_iff]
  refine or_iff_right fun ⟨before, hend⟩ => hc ?_
  have hlast := congrArg List.getLast? hend
  rw [List.getLast?_append, List.getLast?_concat] at hlast
  exact (Option.some.inj hlast).symm

theorem closing_infix_quotedText (text : List Char) :
    closing <:+: quotedText text ↔ closing <:+: text := by
  rw [quotedText, closing_infix_cons (by decide), closing_infix_concat (by decide),
    closing_infix_escape]

/-- The first place where two braces stand. -/
theorem first_closing {cs : List Char} (h : closing <:+: cs) :
    ∃ front back, cs = front ++ (closing ++ back) ∧ ¬ closing <:+: front ++ ['}'] := by
  induction cs with
  | nil => exact absurd (List.infix_nil.mp h) (by decide)
  | cons c cs ih =>
    by_cases hstart : closing <+: c :: cs
    · obtain ⟨back, hback⟩ := hstart
      exact ⟨[], back, hback.symm, by decide⟩
    · obtain ⟨front, back, hcs, hopen⟩ := ih ((List.infix_cons_iff.mp h).resolve_left hstart)
      refine ⟨c :: front, back, by rw [hcs]; rfl, ?_⟩
      rw [List.cons_append, List.infix_cons_iff, not_or]
      refine ⟨fun hin => hstart (hin.trans ?_), hopen⟩
      exact List.cons_prefix_cons.mpr ⟨rfl, '}' :: back, by rw [hcs, closing]; simp⟩

/-! Strings without two braces in a row. -/

/-- The quoted string between its delimiters. -/
def literalOutput (s : String) (h : ¬ closing <:+: s.toList) : Enclosed where
  kind := .output
  body := quotedText s.toList
  trimsBefore := false
  trimsAfter := false
  trimmed := Text.trimChars_between (by decide) (by decide) _
  unclosed := mt (closing_infix_quotedText s.toList).mp h

theorem split_literal {s : String} (h : ¬ closing <:+: s.toList) :
    split (literalTemplate s) = .ok [.output (String.ofList (quotedText s.toList))] := by
  have hchars : (literalTemplate s).toList =
      [Fragment.enclosed (literalOutput s h)].flatMap Fragment.chars := by
    simp [literalTemplate, closing, Fragment.chars, Enclosed.chars, Enclosed.inner, hyphen,
      literalOutput, Delimiter.char, Delimiter.close]
  refine split_of_yields ?_
  rw [hchars]
  exact (yields_fragments (List.isChain_singleton _)).1 false

theorem parseExpr_literal (s : String) :
    parseExpr (String.ofList (quotedText s.toList)) = .ok (.literal (.str s)) := by
  have hlex : tokenize (String.ofList (quotedText s.toList)) = .ok [.string s] :=
    tokenize_of_reads (reads_string .double s)
  have hparse : parseTokens (String.ofList (quotedText s.toList)) [.string s] =
      .ok (.literal (.str s)) := parseTokens_tokens (e := .literal (.str s)) _ rfl
  rw [parseExpr, hlex]
  exact hparse

theorem compile_literal {s : String} (h : ¬ closing <:+: s.toList) :
    compile (literalTemplate s) = .ok [.output (.literal (.str s))] := by
  rw [compile, split_literal h]
  simp only [Except.bind, ofSegments, Builder.run, Builder.step, parseExpr_literal]
  rfl

theorem render_literal (s : String) (criteria : Json) :
    render [.output (.literal (.str s))] criteria = .ok (s, []) := by
  have hnodes : renderNodes criteria [.output (.literal (.str s))] {} =
      (.ok (), { text := "" ++ s }) := rfl
  rw [render, hnodes, String.empty_append]

/-! Strings with two braces in a row. -/

theorem trimChars_quote (text : List Char) :
    ∃ part, part <+: text ∧ Text.trimChars (' ' :: '"' :: text) = '"' :: part := by
  have hquote : ¬ Text.isBlank '"' = true := by decide
  have hstart : (' ' :: '"' :: text).dropWhile Text.isBlank = '"' :: text := by
    rw [List.dropWhile_cons_of_pos (by decide), List.dropWhile_cons_of_neg hquote]
  have hprefix := List.rdropWhile_prefix Text.isBlank (l := '"' :: text)
  rw [Text.trimChars_eq, hstart]
  cases hleft : ('"' :: text).rdropWhile Text.isBlank with
  | nil => exact absurd (List.rdropWhile_eq_nil_iff.mp hleft '"' List.mem_cons_self) hquote
  | cons c part =>
    rw [hleft] at hprefix
    obtain ⟨rfl, hpart⟩ := List.cons_prefix_cons.mp hprefix
    exact ⟨part, hpart, rfl⟩

theorem cutHyphens_quote (front : List Char) :
    ∃ text trims, text <+: front ∧
      cutHyphens (' ' :: '"' :: front) = (false, ' ' :: '"' :: text, trims) := by
  by_cases hlast : front.getLast? = some '-'
  · have hne : front ≠ [] := by
      rintro rfl
      cases hlast
    refine ⟨front.dropLast, true, List.dropLast_prefix front, ?_⟩
    simp [cutHyphens, List.getLast?_cons, hlast, List.dropLast_cons_of_ne_nil hne]
  · refine ⟨front, false, List.prefix_rfl, ?_⟩
    have hquote : ¬ (front.getLast?.getD '"') = '-' := by
      cases hend : front.getLast? with
      | none => decide
      | some c =>
        rw [hend] at hlast
        exact fun heq => hlast (congrArg some heq)
    simp [cutHyphens, List.getLast?_cons, hquote]

/-- What the splitting leaves of a string that it cuts: the quote and some part of the text. -/
theorem closeBody_cut (front : List Char) :
    ∃ part trims, part <+: front ∧ closeBody .output [] false (' ' :: '"' :: front).reverse =
      (.text [] trims, [.output (String.ofList ('"' :: part))]) := by
  obtain ⟨text, trims, htext, hcut⟩ := cutHyphens_quote front
  obtain ⟨part, hpart, htrimmed⟩ := trimChars_quote text
  refine ⟨part, trims, hpart.trans htext, ?_⟩
  simp only [closeBody, List.reverse_reverse, hcut, bodySegment, htrimmed]
  rfl

/-- No step of the splitting fails. -/
theorem splitter_runs (m : SplitMode) (cs : List Char) :
    ∃ last out, splitter.run m cs = .ok (last, out) := by
  induction cs generalizing m with
  | nil => exact ⟨m, [], rfl⟩
  | cons c cs ih =>
    obtain ⟨last, out, hrest⟩ := ih (splitStep m c).1
    exact ⟨last, _, run_split_step rfl hrest⟩

theorem splitFinish_cases (m : SplitMode) :
    (∃ out, splitFinish m = .ok out) ∨ ∃ opener, splitFinish m = .error (.unclosed opener) := by
  cases m with
  | text | brace => exact .inl ⟨_, rfl⟩
  | body | closing => exact .inr ⟨_, rfl⟩

theorem split_cut {s : String} (h : closing <:+: s.toList) :
    (∃ opener, split (literalTemplate s) = .error (.unclosed opener)) ∨
      ∃ part rest, part <+: escape '"' s.toList ∧
        split (literalTemplate s) = .ok (.output (String.ofList ('"' :: part)) :: rest) := by
  obtain ⟨front, back, hescape, hopen⟩ :=
    first_closing ((closing_infix_escape s.toList).mpr h)
  have hbody : ¬ [Delimiter.output.close, '}'] <:+:
      (' ' :: '"' :: front) ++ [Delimiter.output.close] := by
    have hfront : ¬ closing <:+: ' ' :: '"' :: (front ++ ['}']) := by
      rwa [closing_infix_cons (by decide), closing_infix_cons (by decide)]
    exact hfront
  obtain ⟨part, trims, hpart, hclose⟩ := closeBody_cut front
  have hread := run_body [] false hbody
  rw [hclose] at hread
  have hsource : (literalTemplate s).toList = '{' :: '{' ::
      ((' ' :: '"' :: front) ++ ['}', '}'] ++ (back ++ '"' :: ' ' :: closing)) := by
    simp [literalTemplate, quotedText, hescape, closing]
  obtain ⟨last, out, htail⟩ := splitter_runs (.text [] trims) (back ++ '"' :: ' ' :: closing)
  have hbrace : splitStep (.text [] false) '{' = (.brace [] false, []) := rfl
  have hstart : splitStep (.brace [] false) '{' = (.body .output [] false [], []) := rfl
  have hall : splitter.run splitter.start (literalTemplate s).toList =
      .ok (last, .output (String.ofList ('"' :: part)) :: out) := by
    rw [hsource]
    exact run_split_step hbrace (run_split_step hstart (Scanner.run_joined hread htail))
  rcases splitFinish_cases last with ⟨rest, hfinish⟩ | ⟨opener, hfinish⟩
  · have hend : splitter.finish last = .ok rest := hfinish
    refine .inr ⟨part, out ++ rest, ?_, ?_⟩
    · rw [hescape]
      exact hpart.trans (List.prefix_append _ _)
    · rw [split, Scanner.scan, hall]
      dsimp only
      rw [hend]
      rfl
  · have hend : splitter.finish last = .error (.unclosed opener) := hfinish
    refine .inl ⟨opener, ?_⟩
    rw [split, Scanner.scan, hall]
    dsimp only
    rw [hend]

theorem parseExpr_open {part text : List Char} (h : part <+: escape '"' text) :
    parseExpr (String.ofList ('"' :: part)) = .error .openString := by
  have hquote : lexStep .idle '"' = .ok (.string '"' [], []) := rfl
  obtain ⟨mode, hrun, hfinish⟩ := run_string_open .double text [] h
  have hlex : tokenize (String.ofList ('"' :: part)) = .error .openString := by
    have hread : lexer.run lexer.start ('"' :: part) = .ok (mode, []) :=
      (lexer_run_silent hquote part).trans hrun
    have hend : lexer.finish mode = .error .openString := hfinish
    rw [tokenize, String.toList_ofList, Scanner.scan, hread]
    dsimp only
    rw [hend]
  rw [parseExpr, hlex]
  rfl

theorem compile_cut {s : String} (h : closing <:+: s.toList) :
    compile (literalTemplate s) = .error .openString ∨
      ∃ opener, compile (literalTemplate s) = .error (.unclosed opener) := by
  rcases split_cut h with ⟨opener, hsplit⟩ | ⟨part, rest, hpart, hsplit⟩
  · exact .inr ⟨opener, by rw [compile, hsplit]; rfl⟩
  · refine .inl ?_
    rw [compile, hsplit]
    simp only [Except.bind, ofSegments, Builder.run, Builder.step, parseExpr_open hpart]
    rfl

/-- A string in quotes is put out as it is, whatever the criteria are, exactly if it has no two
closing braces in a row. Otherwise its template does not compile: the string is not closed where the
output ends, or what stands behind the braces opens a delimiter that nothing closes. -/
theorem literal_renders_iff (s : String) :
    ((∃ nodes, compile (literalTemplate s) = .ok nodes ∧
      ∀ criteria, render nodes criteria = .ok (s, [])) ↔ ¬ closing <:+: s.toList) ∧
    (closing <:+: s.toList → compile (literalTemplate s) = .error .openString ∨
      ∃ opener, compile (literalTemplate s) = .error (.unclosed opener)) := by
  refine ⟨⟨?_, fun h => ⟨_, compile_literal h, render_literal s⟩⟩, compile_cut⟩
  rintro ⟨nodes, hnodes, -⟩ hclosing
  rcases compile_cut hclosing with hopen | ⟨opener, hunclosed⟩
  · rw [hopen] at hnodes
    cases hnodes
  · rw [hunclosed] at hnodes
    cases hnodes

/-- Quotes, backslashes, the end of a line, single braces and a hyphen at the end. -/
def noteText : String := "say \"\\n\"\n%\x7d \x7d-"

theorem literal_renders_iff_note :
    literalTemplate noteText = "\x7b\x7b \"say \\\"\\\\n\\\"\n%\x7d \x7d-\" \x7d\x7d" ∧
      (∃ nodes, compile (literalTemplate noteText) = .ok nodes ∧
        ∀ criteria, render nodes criteria = .ok (noteText, [])) ∧
      closing <:+: "a\x7d\x7d\x7b%".toList ∧
      (compile (literalTemplate "a\x7d\x7d\x7b%") = .error .openString ∨
        ∃ opener, compile (literalTemplate "a\x7d\x7d\x7b%") = .error (.unclosed opener)) := by
  have hbraces : closing <:+: "a\x7d\x7d\x7b%".toList := by decide
  exact ⟨by decide, (literal_renders_iff noteText).1.mpr (by decide), hbraces,
    (literal_renders_iff _).2 hbraces⟩

/-- Two closing braces in quotes end the output before the quote that closes the string. -/
theorem two_braces_are_not_put_out :
    literalTemplate "\x7d\x7d" = "\x7b\x7b \"\x7d\x7d\" \x7d\x7d" ∧
      compile (literalTemplate "\x7d\x7d") = .error .openString :=
  ⟨by decide, rfl⟩

end QueryCatalog.Template
