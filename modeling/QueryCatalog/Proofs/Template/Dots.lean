import Mathlib.Data.List.TakeWhile
import QueryCatalog.Proofs.Template.Printing

/-!
Names and numbers with dots between them, as tokens. A dot is a token of its own, unless digits
stand on both sides of it: there it is a decimal point, and two numbers are read as one.
-/
namespace QueryCatalog

/-- Digits around a point are a float. -/
theorem Decimal.float?_point {whole places : List Char} (hne : whole ≠ [])
    (hwhole : ∀ c ∈ whole, c.isDigit = true) (hplaces : ∀ c ∈ places, c.isDigit = true) :
    ∃ x, float? (whole ++ '.' :: places) = some x := by
  have hunsigned : ∃ x, unsigned? (whole ++ '.' :: places) = some x := by
    have hdot : ('.').isDigit = false := by decide
    have hbefore : (whole ++ '.' :: places).takeWhile Char.isDigit = whole := by
      simp [List.takeWhile_append_of_pos hwhole, hdot]
    have hafter : (whole ++ '.' :: places).dropWhile Char.isDigit = '.' :: places := by
      simp [List.dropWhile_append_of_pos hwhole, hdot]
    have hall : places.takeWhile Char.isDigit = places := List.takeWhile_eq_self_iff.mpr hplaces
    have hnone : places.dropWhile Char.isDigit = [] := List.dropWhile_eq_nil_iff.mpr hplaces
    have hsome : whole.isEmpty = false := by simpa using hne
    simp [unsigned?, numeral?, hbefore, hafter, hall, hnone, hsome]
  obtain ⟨x, hx⟩ := hunsigned
  -- no word for an infinity or for no number has a point in it
  have hword : '.' ∈ (String.ofList ((whole ++ '.' :: places).map Char.toLower)).toList := by
    rw [String.toList_ofList]
    exact List.mem_map.mpr ⟨'.', by simp, by decide⟩
  have hinfinity : infinityWords.contains
      (String.ofList ((whole ++ '.' :: places).map Char.toLower)) = false := by
    rw [List.contains_eq_mem, decide_eq_false_iff_not]
    intro hin
    simp only [infinityWords, List.mem_cons, List.not_mem_nil, or_false] at hin
    rcases hin with heq | heq <;>
      · rw [heq] at hword
        exact absurd hword (by decide)
  have hnan : (String.ofList ((whole ++ '.' :: places).map Char.toLower) == "nan") = false := by
    rw [beq_eq_false_iff_ne]
    intro heq
    rw [heq] at hword
    exact absurd hword (by decide)
  obtain ⟨c, cs, rfl⟩ := List.exists_cons_of_ne_nil hne
  have hdigit := hwhole c List.mem_cons_self
  unfold float?
  split
  rename_i negative body heq
  split at heq
  · rename_i hminus
    obtain ⟨rfl, -⟩ := List.cons.inj hminus
    cases hdigit
  · rename_i hplus
    obtain ⟨rfl, -⟩ := List.cons.inj hplus
    cases hdigit
  · cases heq
    exact ⟨_, by simp only [hinfinity, hnan, hx]; rfl⟩

namespace Template

/-- Whether a field is written in digits. -/
def isNumber (name : String) : Bool := (Text.int64? name.toList).isSome

/-- A field is a name, or the digits of a number. -/
theorem isFieldName_cases {s : String} (h : isFieldName s = true) :
    (isName s = true ∧ isNumber s = false ∧ fieldToken s = .identifier s) ∨
      ∃ n : Nat, s.toList = Nat.toDigits 10 n ∧ (n : Int) ≤ Text.maxInt64 ∧
        isNumber s = true ∧ fieldToken s = .integer n := by
  by_cases hname : isName s = true
  · have hnone := int64?_of_name hname
    exact .inl ⟨hname, by rw [isNumber, hnone]; rfl, by rw [fieldToken, hnone]⟩
  · simp only [isFieldName, hname, Bool.false_or, Option.any_eq_true, Bool.and_eq_true,
      decide_eq_true_eq, beq_iff_eq] at h
    obtain ⟨n, hn, hpos, htext⟩ := h
    obtain ⟨m, rfl⟩ := Int.eq_ofNat_of_zero_le hpos
    refine .inr ⟨m, ?_, Text.int64?_le hn, by rw [isNumber, hn]; rfl, by rw [fieldToken, hn]⟩
    rw [← htext]
    exact Nat.toList_repr

theorem digits_of_isNumber {s : String} (h : isFieldName s = true) (hnumber : isNumber s = true) :
    s.toList ≠ [] ∧ ∀ c ∈ s.toList, c.isDigit = true := by
  rcases isFieldName_cases h with ⟨-, hnot, -⟩ | ⟨n, hdigits, -, -, -⟩
  · rw [hnot] at hnumber
    cases hnumber
  · rw [hdigits]
    exact ⟨Nat.toDigits_ne_nil, fun c hc => Text.isDigit_of_mem_toDigits hc⟩

/-! What is held back behind a field. -/

/-- Where the reading stands behind a field. -/
def fieldMode (s : String) : LexMode :=
  if isNumber s then .number s.toList.reverse else .word s.toList.reverse

/-- The number that two fields make with a point between them. -/
def pointed (s t : String) : Float := (Decimal.float? (s.toList ++ '.' :: t.toList)).getD 0

/-- A token is held back. It is given out before a parenthesis and before a dot, but before a dot
and a number only where one may follow. -/
structure Holds (m : LexMode) (token : Token) (next : Bool) : Prop where
  close : lexStep m ')' = .ok (.idle, [token, .rightParen])
  name : ∀ c, (c.isAlpha || c == '_') = true →
    lexer.run m ['.', c] = .ok (.word [c], [token, .dot])
  number : next = true → ∀ c, c.isDigit = true →
    lexer.run m ['.', c] = .ok (.number [c], [token, .dot])

theorem lexer_run_two {m n last : LexMode} {c d : Char} {out rest : List Token}
    (hfirst : lexStep m c = .ok (n, out)) (hsecond : lexStep n d = .ok (last, rest)) :
    lexer.run m [c, d] = .ok (last, out ++ rest) := by
  have hnothing : lexer.run last [] = .ok (last, []) := rfl
  have hread := lexer_run_step hfirst (lexer_run_step hsecond hnothing)
  rwa [List.append_nil] at hread

theorem holds_word (held : List Char) (next : Bool) :
    Holds (.word held) (wordToken held) next := by
  have hparen : Text.isIdentifier ')' = false := by decide
  have hpart : Text.isIdentifier '.' = false := by decide
  have hdot : lexStep (.word held) '.' = .ok (.idle, [wordToken held, .dot]) := by
    rw [lexStep, hpart]
    rfl
  refine ⟨?_, fun c hc => ?_, fun _ c hc => ?_⟩
  · rw [lexStep, hparen]
    rfl
  · exact lexer_run_two hdot (enter_name hc)
  · exact lexer_run_two hdot (enter_digit hc)

theorem lexStep_idle (c : Char) : lexStep .idle c = enter c := by rw [lexStep]

theorem release_of_idle {c : Char} {next : LexMode} {out : List Token}
    (h : lexStep .idle c = .ok (next, out)) (tokens : List Token) :
    release tokens c = .ok (next, tokens ++ out) := by
  rw [lexStep_idle] at h
  unfold release
  simp only [h]

theorem holds_number {held : List Char} {token : Token} (h : integerToken held = .ok token) :
    Holds (.number held) token false := by
  refine ⟨?_, fun c hc => ?_, nofun⟩
  · have hparen : (')').isDigit = false := by decide
    have hdot : (')' == '.') = false := by decide
    rw [lexStep, hparen, hdot, h]
    rfl
  · have hpoint : ('.').isDigit = false := by decide
    have hdot : lexStep (.number held) '.' = .ok (.numberDot held, []) := by
      rw [lexStep, hpoint]
      rfl
    have hdigit := (name_start hc).2.2.1
    have hstep : lexStep (.numberDot held) c = .ok (.word [c], [token, .dot]) := by
      simp only [lexStep, hdigit, h, Bool.false_eq_true, if_false,
        release_of_idle (enter_name hc), List.append_nil]
    exact lexer_run_two hdot hstep

theorem holds_fraction {held : List Char} {token : Token} (h : fractionToken held = .ok token)
    (next : Bool) : Holds (.fraction held) token next := by
  have hparen : (')').isDigit = false := by decide
  have hpoint : ('.').isDigit = false := by decide
  have hdot : lexStep (.fraction held) '.' = .ok (.idle, [token, .dot]) := by
    rw [lexStep, hpoint, h]
    rfl
  refine ⟨?_, fun c hc => ?_, fun _ c hc => ?_⟩
  · rw [lexStep, hparen, h]
    rfl
  · exact lexer_run_two hdot (enter_name hc)
  · exact lexer_run_two hdot (enter_digit hc)

/-- Behind a field its token is held back; only a number may not be followed by a number. -/
theorem holds_field {s : String} (h : isFieldName s = true) {next : Bool}
    (hnext : isNumber s = true → next = false) : Holds (fieldMode s) (fieldToken s) next := by
  rcases isFieldName_cases h with ⟨hname, hword, htoken⟩ | ⟨n, hdigits, hmax, hnumber, htoken⟩
  · rw [fieldMode, hword, htoken, ← wordToken_of_name hname]
    exact holds_word _ next
  · rw [fieldMode, hnumber, htoken, hnext hnumber]
    refine holds_number ?_
    rw [integerToken, List.reverse_reverse, hdigits, Text.int64?_toDigits hmax]

theorem run_field {m : LexMode} {token : Token} {s : String} (hm : Holds m token (isNumber s))
    (h : isFieldName s = true) :
    lexer.run m ('.' :: s.toList) = .ok (fieldMode s, [token, .dot]) := by
  rcases isFieldName_cases h with ⟨hname, hword, -⟩ | ⟨-, -, -, hnumber, -⟩
  · obtain ⟨c, cs, hs, hfirst, hrest, -⟩ := isName_cases hname
    have hread := Scanner.run_joined (hm.name c hfirst) (run_word hrest [c])
    rw [fieldMode, hword, hs]
    simpa using hread
  · obtain ⟨hne, hdigits⟩ := digits_of_isNumber h hnumber
    obtain ⟨c, cs, hs⟩ := List.exists_cons_of_ne_nil hne
    rw [hs, List.forall_mem_cons] at hdigits
    have hread := Scanner.run_joined (hm.number hnumber c hdigits.1) (run_digits hdigits.2 [c])
    rw [fieldMode, hnumber, hs]
    simpa using hread

theorem run_places {cs : List Char} (h : ∀ c ∈ cs, c.isDigit = true) :
    ∀ held, lexer.run (.fraction held) cs = .ok (.fraction (cs.reverse ++ held), []) := by
  refine run_holding (fun held c hc => ?_) h
  rw [lexStep, if_pos hc]

/-- A number behind a number and a dot is read as its decimal places. -/
theorem run_point {s t : String} (hs : isNumber s = true) (ht : isFieldName t = true)
    (hnumber : isNumber t = true) : lexer.run (fieldMode s) ('.' :: t.toList) =
      .ok (.fraction (s.toList ++ '.' :: t.toList).reverse, []) := by
  obtain ⟨hne, hdigits⟩ := digits_of_isNumber ht hnumber
  obtain ⟨c, cs, hcs⟩ := List.exists_cons_of_ne_nil hne
  rw [hcs, List.forall_mem_cons] at hdigits
  have hpoint : ('.').isDigit = false := by decide
  have hdot : lexStep (.number s.toList.reverse) '.' = .ok (.numberDot s.toList.reverse, []) := by
    rw [lexStep, hpoint]
    rfl
  have hstep : lexStep (.numberDot s.toList.reverse) c =
      .ok (.fraction (c :: '.' :: s.toList.reverse), []) := by
    rw [lexStep, if_pos hdigits.1]
  have hread := Scanner.run_joined (lexer_run_two hdot hstep)
    (run_places hdigits.2 (c :: '.' :: s.toList.reverse))
  rw [fieldMode, hs, hcs]
  simpa using hread

theorem holds_pointed {s t : String} (hs : isFieldName s = true) (hsnumber : isNumber s = true)
    (ht : isFieldName t = true) (htnumber : isNumber t = true) (next : Bool) :
    Holds (.fraction (s.toList ++ '.' :: t.toList).reverse) (.float (pointed s t)) next := by
  obtain ⟨hne, hwhole⟩ := digits_of_isNumber hs hsnumber
  obtain ⟨-, hplaces⟩ := digits_of_isNumber ht htnumber
  obtain ⟨x, hx⟩ := Decimal.float?_point hne hwhole hplaces
  refine holds_fraction ?_ next
  rw [fractionToken, List.reverse_reverse, pointed, hx]
  rfl

/-! Fields one after the other. -/

/-- Fields with a dot before each of them. -/
def dotted (names : List String) : List Char := names.flatMap fun s => '.' :: s.toList

/-- Of two numbers next to each other the second one is taken for the decimal places of the
first. -/
def chainTokens : List String → List Token
  | [] => []
  | [s] => [.dot, fieldToken s]
  | s :: t :: rest =>
    if isNumber s && isNumber t then .dot :: .float (pointed s t) :: chainTokens rest
    else .dot :: fieldToken s :: chainTokens (t :: rest)

/-- Behind a token that is held back, fields are read up to the parenthesis after them. -/
theorem run_chain {names : List String} (hnames : ∀ s ∈ names, isFieldName s = true) :
    ∀ {m : LexMode} {token : Token}, Holds m token (names.head?.any isNumber) →
      lexer.run m (dotted names ++ [')']) =
        .ok (.idle, token :: (chainTokens names ++ [.rightParen])) := by
  induction names using chainTokens.induct with
  | case1 =>
    intro m token hm
    exact lexer_run_step hm.close rfl
  | case2 s =>
    intro m token hm
    have hs := hnames s List.mem_cons_self
    have hnothing : lexer.run .idle [] = .ok (.idle, []) := rfl
    have hend := lexer_run_step (holds_field hs fun _ => rfl).close hnothing
    simpa [dotted, chainTokens] using Scanner.run_joined (run_field hm hs) hend
  | case3 s t rest hnumbers ih =>
    intro m token hm
    rw [Bool.and_eq_true] at hnumbers
    obtain ⟨hs, ht, hrest⟩ := List.forall_mem_cons.mp hnames |>.imp_right List.forall_mem_cons.mp
    have hboth := Scanner.run_joined (run_field hm hs) (run_point hnumbers.1 ht hnumbers.2)
    have hread := Scanner.run_joined hboth
      (ih hrest (holds_pointed hs hnumbers.1 ht hnumbers.2 _))
    simpa [dotted, chainTokens, hnumbers] using hread
  | case4 s t rest hnumbers ih =>
    intro m token hm
    obtain ⟨hs, hrest⟩ := List.forall_mem_cons.mp hnames
    have hnext : isNumber s = true → isNumber t = false := by simpa using hnumbers
    have hread := Scanner.run_joined (run_field hm hs) (ih hrest (holds_field hs hnext))
    rw [chainTokens, if_neg hnumbers]
    simpa [dotted] using hread

/-- A call with a single path in its parentheses. -/
theorem reads_call {name first : String} {rest : List String} (hname : isName name = true)
    (hfirst : isName first = true) (hrest : ∀ s ∈ rest, isFieldName s = true) :
    Reads (name.toList ++ '(' :: (first.toList ++ (dotted rest ++ [')'])))
      (.identifier name :: .leftParen :: .identifier first ::
        (chainTokens rest ++ [.rightParen])) := by
  have hpart : Text.isIdentifier '(' = false := by decide
  have hopen : lexStep (.word name.toList.reverse) '(' =
      .ok (.idle, [.identifier name, .leftParen]) := by
    rw [lexStep, hpart, wordToken_of_name hname]
    rfl
  have hheld := holds_word first.toList.reverse (rest.head?.any isNumber)
  rw [wordToken_of_name hfirst] at hheld
  have hargument := Scanner.run_joined (run_name hfirst) (run_chain hrest hheld)
  have hcall := lexer_run_step hopen hargument
  have hrun := Scanner.run_joined (run_name hname) hcall
  exact ⟨.idle, _, [], hrun, rfl, rfl, by simp⟩

end Template

end QueryCatalog
