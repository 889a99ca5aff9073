import QueryCatalog.Proofs.Statement.Tail
import QueryCatalog.Proofs.Template.Pieces
import QueryCatalog.Proofs.Template.Dots
import QueryCatalog.Proofs.Template.Appending
import QueryCatalog.Template.Tree

/-!
Names of loop variables. The header of a loop asks for letters, digits and underscores only. An
expression asks for more of a name, so that some loops have a variable that nothing can refer to: in
the body its text is a constant or no expression at all.
-/
namespace QueryCatalog.Template

open Statement (isNameStart)

/-- The text is read as a name: it starts as one, and it is no reserved word. -/
def namesVariable (name : String) : Bool :=
  (name.toList.head?.any isNameStart) && (keyword? name).isNone

/-! Characters of names. -/

theorem isBlank_of_isIdentifier {c : Char} (h : Text.isIdentifier c = true) :
    Text.isBlank c = false := by
  by_contra hblank
  have hbreak : Statement.isBreak c = true := by
    rw [Statement.isBreak, (Bool.not_eq_false _).mp hblank]
    rfl
  have hpart := Statement.isNamePart_of_isBreak hbreak
  rw [Statement.isNamePart, h] at hpart
  cases hpart

theorem ne_of_isIdentifier {c d : Char} (h : Text.isIdentifier c = true)
    (hd : Text.isIdentifier d = false) : c ≠ d := by
  rintro rfl
  rw [h] at hd
  cases hd

/-- A character of names that no name starts with is an ASCII digit or stands beyond ASCII. -/
theorem nonAscii_of_isIdentifier {c : Char} (h : Text.isIdentifier c = true)
    (hstart : isNameStart c = false) (hdigit : c.isDigit = false) : 0x80 ≤ c.toNat := by
  by_contra hcode
  have hascii : c.toNat < 0x80 := Nat.lt_of_not_le hcode
  rw [isNameStart, Text.isAlphabetic_ascii hascii, Bool.or_eq_false_iff] at hstart
  rw [Text.isIdentifier, Text.isAlphanumeric_ascii hascii, Char.isAlphanum, hstart.1, hstart.2,
    hdigit] at h
  cases h

theorem enter_nameStart {c : Char} (h : isNameStart c = true) :
    enter c = .ok (.word [c], []) := by
  have hpart : Text.isIdentifier c = true := by
    rw [isNameStart, Bool.or_eq_true] at h
    rw [Text.isIdentifier, Text.isAlphanumeric]
    rcases h with h | h <;> simp [h]
  have hdigit : c.isDigit = false := by
    by_contra hdigit
    have hascii : c.toNat < 0x80 :=
      Nat.lt_of_le_of_lt (Text.toNat_of_isDigit ((Bool.not_eq_false _).mp hdigit)).2 (by decide)
    rw [isNameStart, Text.isAlphabetic_ascii hascii] at h
    exact hdigit (name_start h).2.2.1
  have hsingle : c ≠ '\'' := ne_of_isIdentifier hpart (by decide)
  have hdouble : c ≠ '"' := ne_of_isIdentifier hpart (by decide)
  rw [isNameStart] at h
  simp [enter, isBlank_of_isIdentifier hpart, hdigit, hsingle, hdouble, h]

/-- Digits of other scripts, superscripts and the like start nothing. -/
theorem enter_other {c : Char} (h : Text.isIdentifier c = true) (hstart : isNameStart c = false)
    (hdigit : c.isDigit = false) : enter c = .error (.unexpectedChar c) := by
  have hcode := nonAscii_of_isIdentifier h hstart hdigit
  have hne : ∀ d : Char, d.toNat < 0x80 → c ≠ d := by
    rintro d hd rfl
    omega
  have hoperator : operator? c = none := by
    unfold operator?
    split <;> first | rfl | exact absurd rfl (hne _ (by decide))
  have hpunctuation : punctuation? c = none := by
    unfold punctuation?
    split <;> first | rfl | exact absurd rfl (hne _ (by decide))
  have hsingle : c ≠ '\'' := hne _ (by decide)
  have hdouble : c ≠ '"' := hne _ (by decide)
  rw [isNameStart] at hstart
  simp [enter, isBlank_of_isIdentifier h, hdigit, hsingle, hdouble, hstart, hoperator,
    hpunctuation]

/-! The tokens of a text that consists of such characters. -/

theorem tokenize_nameStart {c : Char} {cs : List Char} (hstart : isNameStart c = true)
    (h : ∀ c ∈ cs, Text.isIdentifier c = true) :
    tokenize (String.ofList (c :: cs)) = .ok [wordToken (c :: cs).reverse] := by
  have henter : lexStep .idle c = .ok (.word [c], []) := enter_nameStart hstart
  have hrun : lexer.run lexer.start (c :: cs) = .ok (.word (c :: cs).reverse, []) := by
    rw [List.reverse_cons]
    exact (lexer_run_silent henter cs).trans (run_identifier h [c])
  rw [tokenize, String.toList_ofList, Scanner.scan, hrun]
  rfl

theorem tokenize_other {c : Char} (h : Text.isIdentifier c = true) (hstart : isNameStart c = false)
    (hdigit : c.isDigit = false) (cs : List Char) :
    tokenize (String.ofList (c :: cs)) = .error (.unexpectedChar c) := by
  have henter : lexer.step lexer.start c = .error (.unexpectedChar c) :=
    enter_other h hstart hdigit
  rw [tokenize, String.toList_ofList, Scanner.scan, Scanner.run, henter]

theorem release_of_error {c : Char} {e : TemplateError} (h : enter c = .error e)
    (tokens : List Token) : release tokens c = .error e := by
  unfold release
  rw [h]

theorem integerToken_eq_ok {held : List Char} {token : Token}
    (h : integerToken held = .ok token) : ∃ n, token = .integer n := by
  unfold integerToken at h
  split at h
  · exact ⟨_, (Except.ok.inj h).symm⟩
  · cases h

/-- Behind the digits that it starts with, such a text has at most one word. -/
theorem run_number {cs : List Char} (h : ∀ c ∈ cs, Text.isIdentifier c = true) :
    ∀ held, (∃ e, lexer.run (.number held) cs = .error e) ∨
      (∃ held', lexer.run (.number held) cs = .ok (.number held', [])) ∨
      ∃ n held', lexer.run (.number held) cs = .ok (.word held', [.integer n]) := by
  induction cs with
  | nil => exact fun held => .inr (.inl ⟨held, rfl⟩)
  | cons c cs ih =>
    intro held
    rw [List.forall_mem_cons] at h
    by_cases hdigit : c.isDigit = true
    · have hstep : lexStep (.number held) c = .ok (.number (c :: held), []) := by
        rw [lexStep, if_pos hdigit]
      rw [lexer_run_silent hstep cs]
      exact ih h.2 (c :: held)
    · have hdot : (c == '.') = false :=
        beq_eq_false_iff_ne.mpr (ne_of_isIdentifier h.1 (by decide))
      cases hread : integerToken held with
      | error e =>
        have hstep : lexer.step (.number held) c = .error e := by
          change lexStep (.number held) c = _
          simp only [lexStep, if_neg hdigit, hdot, hread, Bool.false_eq_true, if_false]
        refine .inl ⟨e, ?_⟩
        rw [Scanner.run, hstep]
      | ok token =>
        obtain ⟨n, rfl⟩ := integerToken_eq_ok hread
        have hstep : lexer.step (.number held) c = release [.integer n] c := by
          change lexStep (.number held) c = _
          simp only [lexStep, if_neg hdigit, hdot, hread, Bool.false_eq_true, if_false]
        by_cases hstart : isNameStart c = true
        · rw [release_of_idle (enter_nameStart hstart)] at hstep
          exact .inr (.inr ⟨n, cs.reverse ++ [c],
            Scanner.run_stepped hstep (run_identifier h.2 [c])⟩)
        · rw [release_of_error (enter_other h.1 (Bool.eq_false_iff.mpr hstart)
            (Bool.eq_false_iff.mpr hdigit))] at hstep
          refine .inl ⟨.unexpectedChar c, ?_⟩
          rw [Scanner.run, hstep]

theorem tokenize_digit {c : Char} {cs : List Char} (hdigit : c.isDigit = true)
    (h : ∀ c ∈ cs, Text.isIdentifier c = true) {ts : List Token}
    (hts : tokenize (String.ofList (c :: cs)) = .ok ts) :
    ∃ n, ts = [.integer n] ∨ ∃ held, ts = [.integer n, wordToken held] := by
  rw [tokenize, String.toList_ofList, Scanner.scan] at hts
  have hstart : lexer.run lexer.start (c :: cs) = lexer.run (.number [c]) cs :=
    lexer_run_silent (enter_digit hdigit) cs
  rw [hstart] at hts
  rcases run_number h [c] with ⟨e, hrun⟩ | ⟨held, hrun⟩ | ⟨n, held, hrun⟩
  · rw [hrun] at hts
    cases hts
  · cases hread : integerToken held with
    | error e =>
      have hfinish : lexer.finish (.number held) = .error e := by
        change (integerToken held).map _ = _
        rw [hread]
        rfl
      simp only [hrun, hfinish] at hts
      cases hts
    | ok token =>
      obtain ⟨n, rfl⟩ := integerToken_eq_ok hread
      have hfinish : lexer.finish (.number held) = .ok [.integer n] := by
        change (integerToken held).map _ = _
        rw [hread]
        rfl
      simp only [hrun, hfinish] at hts
      exact ⟨n, .inl (Except.ok.inj hts).symm⟩
  · rw [hrun] at hts
    exact ⟨n, .inr ⟨held, (Except.ok.inj hts).symm⟩⟩

/-! What the tokens mean. -/

theorem wordToken_cases (held : List Char) :
    keyword? (String.ofList held.reverse) = none ∧
        wordToken held = .identifier (String.ofList held.reverse) ∨
      ∃ t, keyword? (String.ofList held.reverse) = some t ∧ wordToken held = t ∧
        t ∈ [.true, .false, .null, .and, .or, .not, Token.in] := by
  unfold wordToken
  dsimp only
  cases hword : keyword? (String.ofList held.reverse) with
  | none => exact .inl ⟨rfl, rfl⟩
  | some t =>
    refine .inr ⟨t, rfl, rfl, ?_⟩
    unfold keyword? at hword
    split at hword <;> cases hword <;> simp

/-- A reserved word by itself is a constant or no expression. -/
theorem parseTokens_reserved {t : Token}
    (h : t ∈ [.true, .false, .null, .and, .or, .not, Token.in]) (source : String) :
    (∃ v, parseTokens source [t] = .ok (.literal v)) ∨ ∃ e, parseTokens source [t] = .error e := by
  simp only [List.mem_cons, List.not_mem_nil, or_false] at h
  rcases h with rfl | rfl | rfl | rfl | rfl | rfl | rfl
  · exact .inl ⟨.bool true, rfl⟩
  · exact .inl ⟨.bool false, rfl⟩
  · exact .inl ⟨.null, rfl⟩
  all_goals exact .inr ⟨_, rfl⟩

/-- A word does not go on with an expression that a number has begun. -/
theorem parseTokens_number_word (source : String) (n : Int) (held : List Char) :
    ∃ e, parseTokens source [.integer n, wordToken held] = .error e := by
  rcases wordToken_cases held with ⟨-, hword⟩ | ⟨t, -, hword, ht⟩
  · rw [hword]
    exact ⟨_, rfl⟩
  · rw [hword]
    simp only [List.mem_cons, List.not_mem_nil, or_false] at ht
    rcases ht with rfl | rfl | rfl | rfl | rfl | rfl | rfl <;> exact ⟨_, rfl⟩

/-! Names as expressions. -/

variable {name : String}

theorem parseExpr_of_namesVariable (h : namesVariable name = true)
    (hall : ∀ c ∈ name.toList, Text.isIdentifier c = true) :
    parseExpr name = .ok (.variable name) := by
  rw [namesVariable, Bool.and_eq_true, Option.isNone_iff_eq_none] at h
  obtain ⟨hfirst, hword⟩ := h
  cases hname : name.toList with
  | nil =>
    rw [hname] at hfirst
    cases hfirst
  | cons c cs =>
    rw [hname] at hfirst hall
    rw [List.forall_mem_cons] at hall
    have hlex := tokenize_nameStart hfirst hall.2
    rw [← hname, String.ofList_toList, wordToken, List.reverse_reverse, String.ofList_toList,
      hword] at hlex
    rw [parseExpr, hlex]
    rfl

theorem constant_of_not_namesVariable (h : namesVariable name = false)
    (hall : ∀ c ∈ name.toList, Text.isIdentifier c = true) (hne : name.toList ≠ []) {e : Expr}
    (he : parseExpr name = .ok e) : ∃ v, e = .literal v := by
  cases hname : name.toList with
  | nil => exact absurd hname hne
  | cons c cs =>
    have htext : name = String.ofList (c :: cs) := by rw [← hname, String.ofList_toList]
    rw [hname, List.forall_mem_cons] at hall
    rw [parseExpr] at he
    -- a letter begins a word, an ASCII digit a number, and the other characters begin nothing
    by_cases hstart : isNameStart c = true
    · have hlex := tokenize_nameStart hstart hall.2
      rw [← htext] at hlex
      rw [hlex] at he
      rw [namesVariable, hname, List.head?_cons, Option.any_some, hstart, Bool.true_and] at h
      rcases wordToken_cases (c :: cs).reverse with ⟨hnone, -⟩ | ⟨t, -, hword, ht⟩
      · rw [List.reverse_reverse, ← htext] at hnone
        rw [hnone] at h
        cases h
      · rw [hword] at he
        change parseTokens name [t] = .ok e at he
        rcases parseTokens_reserved ht name with ⟨v, hv⟩ | ⟨failure, hfailure⟩
        · exact ⟨v, Except.ok.inj (he.symm.trans hv)⟩
        · rw [hfailure] at he
          cases he
    · by_cases hdigit : c.isDigit = true
      · cases hlex : tokenize name with
        | error failure =>
          rw [hlex] at he
          cases he
        | ok ts =>
          rw [hlex] at he
          change parseTokens name ts = .ok e at he
          rw [htext] at hlex
          obtain ⟨n, rfl | ⟨held, rfl⟩⟩ := tokenize_digit hdigit hall.2 hlex
          · exact ⟨_, (Except.ok.inj he).symm⟩
          · obtain ⟨failure, hfailure⟩ := parseTokens_number_word name n held
            rw [hfailure] at he
            cases he
      · have hlex := tokenize_other hall.1 (Bool.eq_false_iff.mpr hstart)
          (Bool.eq_false_iff.mpr hdigit) cs
        rw [← htext] at hlex
        rw [hlex] at he
        cases he

theorem identifier_of_parseHeader {header : String} {source : Expr}
    (h : parseHeader header = .ok (name, source)) :
    (∀ c ∈ name.toList, Text.isIdentifier c = true) ∧ name.toList ≠ [] := by
  unfold parseHeader at h
  cases hheader : loopHeader? header with
  | none =>
    rw [hheader] at h
    cases h
  | some found =>
    obtain ⟨found, iterable⟩ := found
    rw [hheader] at h
    dsimp only at h
    obtain rfl : found = name := by
      cases hsource : parseExpr iterable with
      | error e =>
        rw [hsource] at h
        cases h
      | ok e =>
        rw [hsource] at h
        exact congrArg Prod.fst (Except.ok.inj h)
    unfold loopHeader? at hheader
    split at hheader
    · dsimp only at hheader
      split_ifs at hheader with hallowed
      cases hheader
      rw [Bool.and_eq_true, List.all_eq_true, Bool.not_eq_true', List.isEmpty_eq_false_iff]
        at hallowed
      rw [String.toList_ofList]
      exact ⟨hallowed.2, hallowed.1⟩
    · cases hheader

/-! Rendering a loop that puts out its variable. -/

theorem evaluate_variable_of_scope {criteria item : Json} {scopes : List (String × Json)}
    {r : Rendering} (h : r.scopes = (name, item) :: scopes) :
    evaluate criteria (.variable name) r = (.ok item, r) := by
  have hlookup : lookupIn criteria r.scopes name = item := by
    rw [h, lookupIn, List.lookup_cons_self]
  rw [← hlookup]
  rfl

theorem renderNodes_variable_of_scope {criteria item : Json} {scopes : List (String × Json)}
    {r : Rendering} (h : r.scopes = (name, item) :: scopes) :
    renderNodes criteria [.output (.variable name)] r =
      (.ok (), { r with text := r.text ++ item.toText }) := by
  have houtput : renderNode criteria (.output (.variable name)) r =
      (.ok (), { r with text := r.text ++ item.toText }) := by
    rw [renderNode, Render.bind_of_ok (evaluate_variable_of_scope h)]
    rfl
  rw [renderNodes, Render.bind_of_ok houtput]
  rfl

/-- What is rendered before it in the same turn does not change what the variable is. -/
theorem evaluate_variable_behind {criteria item : Json} {scopes : List (String × Json)}
    {before : List Node} {r r' : Rendering}
    (h : renderNodes criteria before { r with scopes := (name, item) :: scopes } = (.ok (), r')) :
    evaluate criteria (.variable name) r' = (.ok item, r') := by
  have hscopes := (renderNodes_appends criteria before).fresh_after
    { r with scopes := (name, item) :: scopes }
  rw [h] at hscopes
  exact evaluate_variable_of_scope (congrArg Rendering.scopes hscopes)

/-- Whatever scopes there are outside of the loop, its own hides them. -/
theorem eachItem_variable (criteria : Json) (name : String) (count : Nat) (items : List Json) :
    ∀ index r, eachItem name count (renderNodes criteria [.output (.variable name)]) index items r =
      (.ok (), { r with text := r.text ++ String.join (items.map Json.toText) }) := by
  induction items with
  | nil =>
    intro index r
    rw [List.map_nil, String.join_nil, String.append_empty]
    rfl
  | cons item rest ih =>
    intro index r
    have hbody : withScopes [(name, item), ("loop", loopInfo index count)]
        (renderNodes criteria [.output (.variable name)]) r =
          (.ok (), { r with text := r.text ++ item.toText }) := by
      unfold withScopes
      rw [renderNodes_variable_of_scope rfl]
      rfl
    rw [eachItem, Render.bind_of_ok hbody, ih, List.map_cons, String.join_cons,
      ← String.append_assoc]

theorem renderNode_loop_variable (name : String) {criteria v : Json} {source : Expr}
    {r r' : Rendering} (h : evaluate criteria source r = (.ok v, r')) :
    renderNode criteria (.loop name source [.output (.variable name)]) r =
      (.ok (), { r' with
        text := r'.text ++ String.join ((iterationItems v).map Json.toText) }) := by
  rw [renderNode, Render.bind_of_ok h]
  exact eachItem_variable criteria name _ (iterationItems v) 0 r'

/-- In a loop over a source, an expression reads the current item: under the scope of the item, with
any part of the body rendered before it, and turn by turn where the body puts it out. -/
structure ReadsItem (name : String) (source e : Expr) : Prop where
  behind : ∀ {criteria item : Json} {scopes : List (String × Json)} {before : List Node}
    {r r' : Rendering},
    renderNodes criteria before { r with scopes := (name, item) :: scopes } = (.ok (), r') →
      evaluate criteria e r' = (.ok item, r')
  turns : ∀ {criteria v : Json} {r r' : Rendering}, evaluate criteria source r = (.ok v, r') →
    renderNode criteria (.loop name source [.output e]) r =
      (.ok (), { r' with text := r'.text ++ String.join ((iterationItems v).map Json.toText) })

/-- The variable of a loop can be referred to exactly if its text starts as a name does and is no
reserved word. Then its text reads the current item; otherwise it stands for a constant or for
nothing. -/
theorem loop_variable_read_iff {header : String} {source : Expr}
    (h : parseHeader header = .ok (name, source)) :
    (parseExpr name = .ok (.variable name) ↔ namesVariable name = true) ∧
    (namesVariable name = true → ∃ e, parseExpr name = .ok e ∧ ReadsItem name source e) ∧
    (namesVariable name = false → ∀ e, parseExpr name = .ok e → ∃ v, e = .literal v) := by
  obtain ⟨hall, hne⟩ := identifier_of_parseHeader h
  refine ⟨⟨?_, fun hnames => parseExpr_of_namesVariable hnames hall⟩, ?_, ?_⟩
  · intro hread
    by_contra hnames
    obtain ⟨v, hv⟩ :=
      constant_of_not_namesVariable (Bool.eq_false_iff.mpr hnames) hall hne hread
    cases hv
  · intro hnames
    exact ⟨.variable name, parseExpr_of_namesVariable hnames hall,
      evaluate_variable_behind, renderNode_loop_variable name⟩
  · intro hnames e he
    exact constant_of_not_namesVariable hnames hall hne he

theorem parseHeader_of_parts {header iterable : String} {source : Expr}
    (h : loopHeader? header = some (name, iterable)) (hsource : parseExpr iterable = .ok source) :
    parseHeader header = .ok (name, source) := by
  unfold parseHeader
  rw [h]
  dsimp only
  rw [hsource]
  rfl

theorem parseExpr_xs : parseExpr "xs" = .ok (.variable "xs") := rfl

/-- A name that is not of ASCII letters only, and a reserved word. -/
theorem loop_variable_read_iff_samples :
    parseHeader "größe_2 in xs" = .ok ("größe_2", .variable "xs") ∧
      (∃ e, parseExpr "größe_2" = .ok e ∧ ReadsItem "größe_2" (.variable "xs") e) ∧
      parseHeader "none in xs" = .ok ("none", .variable "xs") ∧
      parseExpr "none" ≠ .ok (.variable "none") := by
  have hsize : parseHeader "größe_2 in xs" = .ok ("größe_2", .variable "xs") :=
    parseHeader_of_parts (by decide +kernel) parseExpr_xs
  have hnone : parseHeader "none in xs" = .ok ("none", .variable "xs") :=
    parseHeader_of_parts (by decide +kernel) parseExpr_xs
  refine ⟨hsize, (loop_variable_read_iff hsize).2.1 (by decide +kernel), hnone, ?_⟩
  intro hread
  have hnames : namesVariable "none" = true := (loop_variable_read_iff hnone).1.mp hread
  have hreserved : namesVariable "none" = false := by decide +kernel
  rw [hreserved] at hnames
  cases hnames

def countedSource : String :=
  "\x7b% for 1 in xs %\x7d\x7b\x7b 1 \x7d\x7d\x7b% endfor %\x7d"

def countedLoop : Node := .loop "1" (.variable "xs") [.output (.literal (.num (.int 1)))]

/-- The header takes a number for the name of its variable; the body reads the number. -/
theorem number_is_no_loop_variable :
    parseHeader "1 in xs" = .ok ("1", .variable "xs") ∧
      parseExpr "1" = .ok (.literal (.num (.int 1))) ∧ compile countedSource = .ok [countedLoop] ∧
      render [countedLoop] (.obj [("xs", .arr [.str "a", .str "b"])]) = .ok ("11", []) := by
  have hheader : parseHeader "1 in xs" = .ok ("1", .variable "xs") :=
    parseHeader_of_parts (by decide +kernel) parseExpr_xs
  have hone : parseExpr "1" = .ok (.literal (.num (.int 1))) := rfl
  have hsplit : split countedSource = .ok [.tag "for 1 in xs", .output "1", .tag "endfor"] := rfl
  have hopen : Builder.tag ⟨[], []⟩ "for 1 in xs" =
      .ok ⟨[], [([], .loop "1" (.variable "xs"))]⟩ := by
    have hparts : splitKeyword "for 1 in xs" = ("for", "1 in xs") := rfl
    have hif : ("for" == "if") = false := rfl
    have hfor : ("for" == "for") = true := rfl
    unfold Builder.tag
    rw [hparts]
    simp only [Builder.continue?, hif, hfor, hheader, Except.map, Builder.openFrame, if_true,
      Bool.false_eq_true, if_false]
  refine ⟨hheader, hone, ?_, rfl⟩
  simp only [compile, hsplit, Except.bind, ofSegments, Builder.run, Builder.step, hopen, hone]
  rfl

end QueryCatalog.Template
