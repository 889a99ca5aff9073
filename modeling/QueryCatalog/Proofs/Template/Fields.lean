import QueryCatalog.Proofs.Json.Path
import QueryCatalog.Proofs.Statement.Lexemes
import QueryCatalog.Proofs.Template.Dots
import QueryCatalog.Proofs.Template.Pieces
import QueryCatalog.Proofs.Template.Splitting

/-!
A path that a template binds and the same path as a placeholder. They give the same value, as long
as no two numbers stand next to each other in the path: with their dot they are read as a decimal
number, and a template with such a path does not compile.
-/
namespace QueryCatalog.Template

/-! Fields are read one after the other, up to the first decimal number. -/

/-- The decimal number that the first two numbers next to each other make. -/
def decimalIn? : List String → Option Float
  | [] => none
  | [_] => none
  | s :: t :: rest =>
    if isNumber s && isNumber t then some (pointed s t) else decimalIn? (t :: rest)

/-- An outcome unless there is a decimal number where a field is expected. -/
def orDecimal {α : Type} (names : List String) (outcome : α) : Except TemplateError α :=
  match decimalIn? names with
  | none => .ok outcome
  | some x => .error (.expectedField (some (.float x)))

def fieldsOf (base : Expr) (names : List String) : Expr := names.foldl .field base

theorem parsePostfixMore_chain {names : List String} (hnames : ∀ s ∈ names, isFieldName s = true)
    {rest : List Token} (hrest : grip rest < 5) : ∀ base fuel, names.length < fuel →
      parsePostfixMore fuel base (chainTokens names ++ rest) =
        orDecimal names (fieldsOf base names, rest) := by
  induction names using chainTokens.induct with
  | case1 =>
    intro base fuel hfuel
    obtain ⟨f, rfl⟩ : ∃ f, fuel = f + 1 := ⟨fuel - 1, by omega⟩
    exact postfixMore_done hrest
  | case2 s =>
    intro base fuel hfuel
    rw [List.length_singleton] at hfuel
    obtain ⟨f, rfl⟩ : ∃ f, fuel = f + 2 := ⟨fuel - 2, by omega⟩
    rw [chainTokens, List.cons_append, List.singleton_append, parsePostfixMore,
      fieldName_fieldToken (hnames s List.mem_cons_self)]
    exact postfixMore_done hrest
  | case3 s t names hnumbers ih =>
    intro base fuel hfuel
    obtain ⟨f, rfl⟩ : ∃ f, fuel = f + 1 := ⟨fuel - 1, by omega⟩
    rw [chainTokens, if_pos hnumbers, orDecimal, decimalIn?, if_pos hnumbers]
    rfl
  | case4 s t names hnumbers ih =>
    intro base fuel hfuel
    rw [List.length_cons] at hfuel
    obtain ⟨f, rfl⟩ : ∃ f, fuel = f + 1 := ⟨fuel - 1, by omega⟩
    obtain ⟨hs, hnames⟩ := List.forall_mem_cons.mp hnames
    rw [chainTokens, if_neg hnumbers, List.cons_append, List.cons_append, parsePostfixMore,
      fieldName_fieldToken hs]
    simp only [bind, Except.bind]
    rw [ih hnames (base.field s) f (by omega), orDecimal, orDecimal, decimalIn?, if_neg hnumbers]
    rfl

theorem chainTokens_cons (s : String) (names : List String) :
    ∃ tail, chainTokens (s :: names) = .dot :: tail := by
  cases names with
  | nil => exact ⟨_, rfl⟩
  | cons t names =>
    rw [chainTokens]
    split_ifs
    · exact ⟨_, rfl⟩
    · exact ⟨_, rfl⟩

theorem length_le_chainTokens (names : List String) :
    names.length ≤ (chainTokens names).length := by
  induction names using chainTokens.induct with
  | case1 => exact Nat.le_refl 0
  | case2 s => simp [chainTokens]
  | case3 s t names hnumbers ih =>
    rw [chainTokens, if_pos hnumbers]
    simpa using ih
  | case4 s t names hnumbers ih =>
    rw [chainTokens, if_neg hnumbers]
    simp only [List.length_cons] at ih ⊢
    omega

section Path

variable {first : String} {names : List String} {rest : List Token} {fuel : Nat}

theorem parsePostfix_path (hnames : ∀ s ∈ names, isFieldName s = true) (hrest : grip rest < 5)
    (hfuel : names.length + 1 < fuel) :
    parsePostfix fuel (.identifier first :: (chainTokens names ++ rest)) =
      orDecimal names (fieldsOf (.variable first) names, rest) := by
  obtain ⟨f, rfl⟩ : ∃ f, fuel = f + 2 := ⟨fuel - 2, by omega⟩
  have hprimary : parsePrimary (f + 1) (.identifier first :: (chainTokens names ++ rest)) =
      .ok (.variable first, chainTokens names ++ rest) := by
    cases names with
    | nil =>
      -- with an opening parenthesis behind it the name would be the name of a call
      cases rest with
      | nil => rfl
      | cons t rest => cases t <;> first | rfl | simp [grip] at hrest
    | cons s names =>
      obtain ⟨tail, htail⟩ := chainTokens_cons s names
      rw [htail]
      rfl
  rw [parsePostfix, hprimary]
  exact parsePostfixMore_chain hnames hrest _ (f + 1) (by omega)

theorem readsOperand_path (hnames : ∀ s ∈ names, isFieldName s = true)
    (hapart : decimalIn? names = none) :
    ReadsOperand (.identifier first :: chainTokens names) (fieldsOf (.variable first) names) := by
  refine ⟨⟨_, _, rfl, rfl, by simp⟩, fun rest fuel hrest hfuel => ?_⟩
  have hlength := length_le_chainTokens names
  rw [List.length_cons] at hfuel
  rw [List.cons_append, parsePostfix_path hnames hrest (by omega), orDecimal, hapart]

end Path

/-! A call with one argument. -/

section Call

variable {ts : List Token} {e : Expr} {fuel : Nat} {error : TemplateError}

theorem readsOperand_call_one (name : String) (h : ReadsWhole ts e) :
    ReadsOperand (.identifier name :: .leftParen :: (ts ++ [.rightParen])) (.call name [e]) := by
  refine readsOperand_of_primary ⟨_, _, rfl, rfl, by simp⟩ fun rest fuel _ hfuel => ?_
  simp only [List.length_cons, List.length_append, List.length_nil] at hfuel
  obtain ⟨f, rfl⟩ : ∃ f, fuel = f + 3 := ⟨fuel - 3, by omega⟩
  have hlist : parseList (f + 2) .rightParen (ts ++ .rightParen :: rest) = .ok ([e], rest) := by
    have hitem : parseItems (f + 1) .rightParen (ts ++ .rightParen :: rest) = .ok ([e], rest) :=
      h.item rfl rest (by omega)
    obtain ⟨t, tail, hts, hcloses⟩ := h.begins
    rw [hts, List.cons_append] at hitem ⊢
    rw [parseList_of_begins hcloses rfl]
    exact hitem
  rw [List.cons_append, List.cons_append, List.append_assoc, List.singleton_append, parsePrimary,
    hlist]
  rfl

/-- An error in an operand is the error of the expression that begins with it. -/
theorem parseOr_error (h : parsePostfix fuel ts = .error error)
    (hnot : ∀ tail, ts ≠ .not :: tail) : parseOr (fuel + 5) ts = .error error := by
  have hsum : parseSum (fuel + 1) ts = .error error := by
    rw [parseSum, h]
    rfl
  have hcomparison : parseComparison (fuel + 2) ts = .error error := by
    rw [parseComparison, hsum]
    rfl
  have hnegation : parseNot (fuel + 3) ts = .error error := by
    unfold parseNot
    split
    · rename_i tail
      exact absurd rfl (hnot tail)
    · exact hcomparison
  have hconjunction : parseAnd (fuel + 4) ts = .error error := by
    rw [parseAnd, hnegation]
    rfl
  rw [parseOr, hconjunction]
  rfl

theorem parsePostfix_call_error (name : String) {t : Token} (ht : t.closes = false)
    (h : parseOr fuel (t :: ts) = .error error) :
    parsePostfix (fuel + 4) (.identifier name :: .leftParen :: t :: ts) = .error error := by
  have hlist : parseList (fuel + 2) .rightParen (t :: ts) = .error error := by
    rw [parseList_of_begins ht rfl, parseItems, h]
    rfl
  have hprimary : parsePrimary (fuel + 3) (.identifier name :: .leftParen :: t :: ts) =
      .error error := by
    rw [parsePrimary, hlist]
    rfl
  rw [parsePostfix, hprimary]
  rfl

end Call

/-- The tokens of a call with a path in its parentheses. -/
def callTokens (name first : String) (names : List String) : List Token :=
  .identifier name :: .leftParen :: .identifier first :: (chainTokens names ++ [.rightParen])

theorem parseTokens_callTokens (source name first : String) {names : List String}
    (hnames : ∀ s ∈ names, isFieldName s = true) :
    parseTokens source (callTokens name first names) =
      orDecimal names (.call name [fieldsOf (.variable first) names]) := by
  rw [parseTokens]
  cases hdecimal : decimalIn? names with
  | none =>
    have hpath : ReadsOperand (.identifier first :: chainTokens names)
        (fieldsOf (.variable first) names) := readsOperand_path hnames hdecimal
    have hcall : ReadsWhole (callTokens name first names)
        (.call name [fieldsOf (.variable first) names]) :=
      (readsOperand_call_one name hpath.whole).whole
    have hread := hcall.read [] (fuelFor (callTokens name first names)) rfl (by rw [fuelFor]; omega)
    rw [List.append_nil] at hread
    rw [hread, orDecimal, hdecimal]
  | some x =>
    -- five levels down to the call, four calls to its argument, and five levels within that
    have hlength := length_le_chainTokens names
    obtain ⟨f, hf, hfuel⟩ : ∃ f, fuelFor (callTokens name first names) = f + 14 ∧
        names.length + 1 < f := by
      refine ⟨fuelFor (callTokens name first names) - 14, ?_⟩
      simp only [fuelFor, callTokens, List.length_cons, List.length_append]
      omega
    have hpath : parsePostfix f (.identifier first :: (chainTokens names ++ [.rightParen])) =
        .error (.expectedField (some (.float x))) := by
      rw [parsePostfix_path hnames (by simp [grip]) hfuel, orDecimal, hdecimal]
    have hargument := parseOr_error hpath (by simp)
    have hcall := parseOr_error (parsePostfix_call_error name rfl hargument) (by simp)
    rw [hf, orDecimal, hdecimal, callTokens, hcall]

/-! Paths. -/

/-- A path of names, and of numbers that are written as numbers are and fit into 64 bits. Its first
segment is the name of a criterion. -/
structure FieldPath where
  first : String
  rest : List String
  first_name : isName first = true
  first_criterion : first ≠ "p"
  rest_fields : ∀ s ∈ rest, isFieldName s = true

namespace FieldPath

variable (x : FieldPath)

def text : String := ".".intercalate (x.first :: x.rest)

/-- The template that binds what stands at the path. -/
def template : String := "\x7b\x7b sp(" ++ x.text ++ ") \x7d\x7d"

/-- No two numbers stand next to each other. -/
def NumbersApart : Prop := x.rest.IsChain fun s t => ¬(isNumber s = true ∧ isNumber t = true)

end FieldPath

theorem decimalIn?_eq_none_iff (names : List String) : decimalIn? names = none ↔
    names.IsChain fun s t => ¬(isNumber s = true ∧ isNumber t = true) := by
  induction names using decimalIn?.induct with
  | case1 => simp [decimalIn?]
  | case2 s => simp [decimalIn?]
  | case3 s t rest hnumbers =>
    rw [Bool.and_eq_true] at hnumbers
    simp [decimalIn?, hnumbers]
  | case4 s t rest hnumbers ih =>
    rw [decimalIn?, if_neg hnumbers, ih, List.isChain_cons_cons]
    rw [Bool.and_eq_true] at hnumbers
    exact ⟨fun h => ⟨hnumbers, h⟩, fun h => h.2⟩

theorem intercalate_dot (first : List Char) (rest : List (List Char)) :
    ['.'].intercalate (first :: rest) = first ++ rest.flatMap fun segment => '.' :: segment := by
  induction rest generalizing first with
  | nil => simp
  | cons segment rest ih =>
    rw [List.intercalate_cons_cons, ih, List.flatMap_cons]
    simp

theorem FieldPath.toList_text (x : FieldPath) :
    x.text.toList = x.first.toList ++ dotted x.rest := by
  have hdot : (".").toList = ['.'] := rfl
  rw [text, String.toList_intercalate, hdot, List.map_cons, intercalate_dot, dotted,
    List.flatMap_map]

/-- A field consists of letters, digits and underscores. -/
theorem parts_of_isFieldName {s : String} (h : isFieldName s = true) :
    s.toList ≠ [] ∧ ∀ c ∈ s.toList, (c.isAlphanum || c == '_') = true := by
  rcases isFieldName_cases h with ⟨hname, -, -⟩ | ⟨n, hdigits, -, -, -⟩
  · obtain ⟨c, cs, hs, hfirst, hrest, -⟩ := isName_cases hname
    rw [hs, List.forall_mem_cons]
    refine ⟨List.cons_ne_nil c cs, ?_, List.all_eq_true.mp hrest⟩
    rw [Bool.or_eq_true] at hfirst ⊢
    exact hfirst.imp_left fun hletter => by rw [Char.isAlphanum, hletter, Bool.true_or]
  · rw [hdigits]
    refine ⟨Nat.toDigits_ne_nil, fun c hc => ?_⟩
    rw [Char.isAlphanum, Text.isDigit_of_mem_toDigits hc, Bool.or_true, Bool.true_or]

theorem isFieldName_of_isName {s : String} (h : isName s = true) : isFieldName s = true := by
  rw [isFieldName, h, Bool.true_or]

theorem plainName_of_isFieldName {s : String} (h : isFieldName s = true) : PlainName s := by
  intro hdot
  exact absurd ((parts_of_isFieldName h).2 '.' hdot) (by decide)

namespace FieldPath

variable (x : FieldPath)

theorem fields : ∀ s ∈ x.first :: x.rest, isFieldName s = true :=
  List.forall_mem_cons.mpr ⟨isFieldName_of_isName x.first_name, x.rest_fields⟩

/-! The template of a path. -/

def body : List Char := "sp".toList ++ '(' :: (x.first.toList ++ (dotted x.rest ++ [')']))

theorem brace_not_mem_body : '}' ∉ x.body := by
  have hfield : ∀ s ∈ x.first :: x.rest, '}' ∉ s.toList := fun s hs hbrace =>
    absurd ((parts_of_isFieldName (x.fields s hs)).2 _ hbrace) (by decide)
  rw [List.forall_mem_cons] at hfield
  have hrest : '}' ∉ dotted x.rest := by
    intro hbrace
    obtain ⟨s, hs, hin⟩ := List.mem_flatMap.mp hbrace
    rcases List.mem_cons.mp hin with hdot | hin
    · exact absurd hdot (by decide)
    · exact hfield.2 s hs hin
  simp [body, hfield.1, hrest]

theorem trimChars_body : Text.trimChars x.body = x.body := by
  have hbody : x.body = 's' :: ('p' :: '(' :: (x.first.toList ++ dotted x.rest) ++ [')']) := by
    simp [body]
  rw [hbody]
  exact Text.trimChars_between (by decide) (by decide) _

/-- The body between its delimiters. -/
def output : Enclosed where
  kind := .output
  body := x.body
  trimsBefore := false
  trimsAfter := false
  trimmed := x.trimChars_body
  unclosed := fun hclosed => x.brace_not_mem_body (hclosed.subset (by simp [Delimiter.close]))

theorem split_template : split x.template = .ok [.output (String.ofList x.body)] := by
  have hchars : x.template.toList = [Fragment.enclosed x.output].flatMap Fragment.chars := by
    simp [template, x.toList_text, Fragment.chars, Enclosed.chars, Enclosed.inner, hyphen, output,
      body, Delimiter.char, Delimiter.close]
  refine split_of_yields ?_
  rw [hchars]
  exact (yields_fragments (List.isChain_singleton _)).1 false

def nodes : List Node := [.output (.call "sp" [fieldsOf (.variable x.first) x.rest])]

/-- The template compiles unless there is a decimal number in the path. -/
theorem compile_template : compile x.template = orDecimal x.rest x.nodes := by
  have hname : isName "sp" = true := by decide
  have hread := tokenize_of_reads (reads_call hname x.first_name x.rest_fields)
  have hparse := parseTokens_callTokens (String.ofList x.body) "sp" x.first x.rest_fields
  have hexpr : parseExpr (String.ofList x.body) =
      orDecimal x.rest (.call "sp" [fieldsOf (.variable x.first) x.rest]) := by
    rw [parseExpr, body, hread]
    exact hparse
  rw [compile, x.split_template]
  simp only [Except.bind, ofSegments, Builder.run, Builder.step, hexpr]
  unfold orDecimal
  cases decimalIn? x.rest <;> rfl

end FieldPath

/-! The value of a path. -/

theorem binds_fieldsOf (base : Expr) (names : List String) :
    (fieldsOf base names).binds = base.binds := by
  induction names generalizing base with
  | nil => rfl
  | cons s names ih => exact ih (base.field s)

theorem evaluate_fieldsOf {criteria : Json} {base : Expr} {value : Json} {r : Rendering}
    (h : evaluate criteria base r = (.ok value, r)) (names : List String) :
    evaluate criteria (fieldsOf base names) r = (.ok (names.foldl Json.field value), r) := by
  induction names generalizing base value with
  | nil => exact h
  | cons s names ih =>
    have hfield : evaluate criteria (base.field s) r = (.ok (value.field s), r) := by
      simp only [evaluate]
      rw [Render.bind_of_ok h]
      rfl
    exact ih hfield

theorem splitDots_dotted {first : List Char} (hfirst : '.' ∉ first) {names : List String}
    (hnames : ∀ s ∈ names, PlainName s) :
    Path.splitDots [] (first ++ dotted names) = String.ofList first :: names := by
  induction names generalizing first with
  | nil =>
    rw [dotted, List.flatMap_nil, List.append_nil, Path.splitDots_plain [] _ hfirst]
    rfl
  | cons s names ih =>
    obtain ⟨hs, hnames⟩ := List.forall_mem_cons.mp hnames
    have hdotted : dotted (s :: names) = '.' :: (s.toList ++ dotted names) := by
      rw [dotted, List.flatMap_cons]
      rfl
    rw [hdotted, Path.splitDots_dot [] _ _ hfirst, ih hs hnames, String.ofList_toList]
    rfl

namespace FieldPath

variable (x : FieldPath)

theorem ofString_text : Path.ofString x.text = x.first :: x.rest := by
  have hplain := fun s hs => plainName_of_isFieldName (x.fields s hs)
  rw [List.forall_mem_cons] at hplain
  rw [Path.ofString, x.toList_text, splitDots_dotted hplain.1 hplain.2, String.ofList_toList]

theorem field_text (criteria : Json) :
    x.rest.foldl Json.field (criteria.field x.first) = criteria.field x.text := by
  have hplain := fun s hs => plainName_of_isFieldName (x.fields s hs)
  rw [← List.foldl_cons, Json.foldl_field hplain, Json.field, Json.get?, x.ofString_text]

theorem render_nodes (criteria : Json) :
    render x.nodes criteria = .ok ("?", [criteria.field x.text]) := by
  have hfirst : evaluate criteria (.variable x.first) {} = (.ok (criteria.field x.first), {}) := by
    have hlookup : lookupIn criteria [] x.first = criteria.field x.first := by
      simp [lookupIn, x.first_criterion]
    rw [← hlookup]
    rfl
  have hvalue := evaluate_fieldsOf hfirst x.rest
  rw [x.field_text] at hvalue
  have hbinds : (fieldsOf (.variable x.first) x.rest).binds = false := binds_fieldsOf _ _
  have hsp := evaluate_sp (r := {}) hbinds (congrArg Prod.fst hvalue)
  have hnode : renderNode criteria (.output (.call "sp" [fieldsOf (.variable x.first) x.rest])) {} =
      (.ok (), { text := "?", args := [criteria.field x.text] }) := by
    simp only [renderNode]
    rw [Render.bind_of_ok hsp]
    rfl
  have hnodes : renderNodes criteria x.nodes {} =
      (.ok (), { text := "?", args := [criteria.field x.text] }) := by
    simp only [nodes, renderNodes]
    rw [Render.bind_of_ok hnode]
    rfl
  rw [render, hnodes]

/-! The path as a placeholder. -/

theorem exists_dottedPath : ∃ p : Statement.DottedPath, p.chars = x.text.toList := by
  obtain ⟨c, cs, hfirst, hstart, hparts, -⟩ := isName_cases x.first_name
  have hcode := (name_start hstart).1
  refine ⟨⟨c, cs, x.rest.map String.toList, ?_, ?_, ?_⟩, ?_⟩
  · rw [Statement.isNameStart, Text.isAlphabetic_ascii hcode]
    exact hstart
  · rw [List.all_eq_true] at hparts ⊢
    exact fun c hc => isIdentifier_of_name (hparts c hc)
  · intro segment hsegment
    obtain ⟨s, hs, rfl⟩ := List.mem_map.mp hsegment
    obtain ⟨hne, hall⟩ := parts_of_isFieldName (x.rest_fields s hs)
    exact ⟨hne, List.all_eq_true.mpr fun c hc => isIdentifier_of_name (hall c hc)⟩
  · rw [x.toList_text, hfirst, Statement.DottedPath.chars, List.flatMap_map]
    rfl

/-- What the placeholders of the statement `:path` look up in the criteria. -/
theorem lookup_placeholder : ∃ ps, Statement.parse (":" ++ x.text) = .ok ps ∧
    ∀ criteria, (Statement.placeholders ps).map (Statement.lookup criteria) =
      [criteria.field x.text] := by
  obtain ⟨p, hp⟩ := x.exists_dottedPath
  obtain ⟨hlive, hpieces⟩ := Statement.readAs_named p
  have htext : (":" ++ x.text).toList = ':' :: p.chars := by
    rw [hp]
    simp
  refine ⟨[.marker (.named x.text) (':' :: p.chars)], ?_, fun criteria => rfl⟩
  rw [Statement.parse, Statement.pieces_eq_ok_iff, htext, hpieces]
  exact ⟨Statement.closed_of_live hlive, by rw [hp, String.ofList_toList]⟩

/-- The template compiles and, whatever the criteria are, binds what stands at the path. -/
def Binds : Prop :=
  ∃ nodes, compile x.template = .ok nodes ∧
    ∀ criteria, render nodes criteria = .ok ("?", [criteria.field x.text])

/-- A template binds what the placeholder of the same path looks up, exactly if no two numbers are
next to each other in the path. Otherwise it does not compile, because of the decimal number that
the first two of them make. -/
theorem binds_iff_numbersApart : (x.Binds ↔ x.NumbersApart) ∧
    (¬x.NumbersApart → ∃ y, decimalIn? x.rest = some y ∧
      compile x.template = .error (.expectedField (some (.float y)))) ∧
    ∃ ps, Statement.parse (":" ++ x.text) = .ok ps ∧
      ∀ criteria, (Statement.placeholders ps).map (Statement.lookup criteria) =
        [criteria.field x.text] := by
  have hcompile := x.compile_template
  have hapart : decimalIn? x.rest = none ↔ x.NumbersApart := decimalIn?_eq_none_iff x.rest
  refine ⟨⟨?_, ?_⟩, ?_, x.lookup_placeholder⟩
  · rintro ⟨nodes, hnodes, -⟩
    refine hapart.mp ?_
    cases hdecimal : decimalIn? x.rest with
    | none => rfl
    | some y =>
      rw [hcompile, orDecimal, hdecimal] at hnodes
      cases hnodes
  · intro h
    refine ⟨x.nodes, ?_, x.render_nodes⟩
    rw [hcompile, orDecimal, hapart.mpr h]
  · intro h
    cases hdecimal : decimalIn? x.rest with
    | none => exact absurd (hapart.mp hdecimal) h
    | some y => exact ⟨y, rfl, by rw [hcompile, orDecimal, hdecimal]⟩

/-- The second number in the first row of a matrix. -/
def matrixEntry : FieldPath where
  first := "m"
  rest := ["0", "1"]
  first_name := by decide
  first_criterion := by decide
  rest_fields := by decide

/-- The placeholder of the path finds the number, and the template does not compile. -/
theorem matrixEntry_not_bound : matrixEntry.template = "\x7b\x7b sp(m.0.1) \x7d\x7d" ∧
    ¬matrixEntry.Binds ∧
    (∃ y, compile matrixEntry.template = .error (.expectedField (some (.float y)))) ∧
    (Json.obj [("m", .arr [.arr [.int 1, .int 2]])]).field matrixEntry.text = .int 2 := by
  have hdecimal : decimalIn? matrixEntry.rest = some (pointed "0" "1") := by
    rw [matrixEntry, decimalIn?, if_pos (by decide)]
  have hfails : compile matrixEntry.template =
      .error (.expectedField (some (.float (pointed "0" "1")))) := by
    rw [matrixEntry.compile_template, orDecimal, hdecimal]
  refine ⟨by decide, ?_, ⟨_, hfails⟩, rfl⟩
  rintro ⟨nodes, hnodes, -⟩
  rw [hfails] at hnodes
  cases hnodes

end FieldPath

end QueryCatalog.Template
