import Mathlib.Tactic.Common
import QueryCatalog.Template.Token
import QueryCatalog.Proofs.Text.Digits

/-!
How tokens are written. A text in which tokens stand one after the other, with a blank between two
of them, is read as these tokens, whatever their texts are.
-/
namespace QueryCatalog.Template

inductive Quote where
  | single
  | double

def Quote.char : Quote → Char
  | .single => '\''
  | .double => '"'

/-- What the language leaves to the writer: the quotes, `&&`, `||` and `!` in place of the words,
and `none` in place of `null`. -/
structure Spelling where
  quote : Quote := .double
  signs : Bool := false
  none : Bool := false

/-- A quote and a backslash are written after a backslash. -/
def escape (quote : Char) : List Char → List Char
  | [] => []
  | c :: cs =>
    if c == quote || c == '\\' then '\\' :: c :: escape quote cs else c :: escape quote cs

def reservedWords : List String := ["true", "false", "null", "none", "and", "or", "not", "in"]

/-- ASCII letters, digits and underscores, with no digit at the start, that are no reserved word. -/
def isName (name : String) : Bool :=
  match name.toList with
  | [] => false
  | c :: cs => (c.isAlpha || c == '_') && cs.all (fun c => c.isAlphanum || c == '_') &&
      !reservedWords.contains name

namespace Token

def text (sp : Spelling) : Token → List Char
  | .identifier name => name.toList
  | .integer n => (toString n).toList
  | .float x => (Decimal.render x floatLayout).toList
  | .string s => sp.quote.char :: (escape sp.quote.char s.toList ++ [sp.quote.char])
  | .true => "true".toList
  | .false => "false".toList
  | .null => if sp.none then "none".toList else "null".toList
  | .and => if sp.signs then "&&".toList else "and".toList
  | .or => if sp.signs then "||".toList else "or".toList
  | .not => if sp.signs then "!".toList else "not".toList
  | .in => "in".toList
  | .equal => "==".toList
  | .notEqual => "!=".toList
  | .less => "<".toList
  | .lessEqual => "<=".toList
  | .greater => ">".toList
  | .greaterEqual => ">=".toList
  | .plus => "+".toList
  | .dot => ".".toList
  | .comma => ",".toList
  | .leftParen => "(".toList
  | .rightParen => ")".toList
  | .leftBracket => "[".toList
  | .rightBracket => "]".toList

/-- Names, integers that 64 bits hold and that need no sign, strings, and all fixed tokens. -/
def writable : Token → Bool
  | .identifier name => isName name
  | .integer n => 0 ≤ n && n ≤ Text.maxInt64
  | .float _ => Bool.false
  | _ => Bool.true

end Token

/-- The text is read as the tokens, and so it is with a blank behind it. -/
def Reads (cs : List Char) (ts : List Token) : Prop :=
  ∃ mode out held, lexer.run .idle cs = .ok (mode, out) ∧ lexFinish mode = .ok held ∧
    lexStep mode ' ' = .ok (.idle, held) ∧ out ++ held = ts

theorem lexer_run_step {m n last : LexMode} {c : Char} {cs : List Char} {out rest : List Token}
    (hstep : lexStep m c = .ok (n, out)) (hrest : lexer.run n cs = .ok (last, rest)) :
    lexer.run m (c :: cs) = .ok (last, out ++ rest) := Scanner.run_stepped hstep hrest

/-- A step that gives nothing out. -/
theorem lexer_run_silent {m next : LexMode} {c : Char} (h : lexStep m c = .ok (next, []))
    (cs : List Char) : lexer.run m (c :: cs) = lexer.run next cs := by
  have hstep : lexer.step m c = .ok (next, []) := h
  rw [Scanner.run, hstep]
  dsimp only
  rcases lexer.run next cs with error | ⟨last, rest⟩ <;> rfl

theorem Reads.append {as bs : List Char} {ts us : List Token} (ha : Reads as ts)
    (hb : Reads bs us) : Reads (as ++ ' ' :: bs) (ts ++ us) := by
  obtain ⟨mode, out, held, hrun, -, hblank, rfl⟩ := ha
  obtain ⟨last, out', held', hrun', hfinish, hblank', rfl⟩ := hb
  exact ⟨last, out ++ (held ++ out'), held', Scanner.run_joined hrun (lexer_run_step hblank hrun'),
    hfinish, hblank', by simp⟩

theorem tokenize_of_reads {cs : List Char} {ts : List Token} (h : Reads cs ts) :
    tokenize (String.ofList cs) = .ok ts := by
  obtain ⟨mode, out, held, hrun, hfinish, -, rfl⟩ := h
  have hstart : lexer.start = .idle := rfl
  have hfin : lexer.finish = lexFinish := rfl
  rw [tokenize, String.toList_ofList, Scanner.scan, hstart, hrun]
  dsimp only
  rw [hfin, hfinish]

/-! Names. -/

theorem lt_of_isAlphanum {c : Char} (h : c.isAlphanum = true) : c.toNat < 0x80 := by
  delta Char.isAlphanum Char.isAlpha Char.isUpper Char.isLower Char.isDigit at h
  simp only [Bool.or_eq_true, Bool.and_eq_true, decide_eq_true_eq] at h
  have hle : c.val.toNat ≤ 122 := by
    rcases h with (⟨_, h⟩ | ⟨_, h⟩) | ⟨_, h⟩ <;> exact Nat.le_trans h (by decide)
  exact Nat.lt_of_le_of_lt hle (by decide)

theorem isIdentifier_of_name {c : Char} (h : (c.isAlphanum || c == '_') = true) :
    Text.isIdentifier c = true := by
  rw [Bool.or_eq_true] at h
  rcases h with h | h
  · rw [Text.isIdentifier, Text.isAlphanumeric_ascii (lt_of_isAlphanum h), h]
    rfl
  · rw [Text.isIdentifier, h, Bool.or_true]

/-- The characters that a name begins with begin nothing else. -/
theorem name_start {c : Char} (h : (c.isAlpha || c == '_') = true) :
    c.toNat < 0x80 ∧ Text.isBlank c = false ∧ c.isDigit = false ∧
      (c == '\'' || c == '"') = false ∧ (c == '-' || c == '+') = false := by
  have hcode : c.toNat < 0x80 := by
    rw [Bool.or_eq_true, beq_iff_eq] at h
    rcases h with h | rfl
    · exact lt_of_isAlphanum (by rw [Char.isAlphanum, h, Bool.true_or])
    · decide
  have hothers : ∀ n < 0x80, ((Char.ofNat n).isAlpha || Char.ofNat n == '_') = true →
      Text.isBlank (Char.ofNat n) = false ∧ (Char.ofNat n).isDigit = false ∧
        (Char.ofNat n == '\'' || Char.ofNat n == '"') = false ∧
        (Char.ofNat n == '-' || Char.ofNat n == '+') = false := by
    decide +kernel
  have hc := hothers c.toNat hcode
  rw [Char.ofNat_toNat] at hc
  exact ⟨hcode, hc h⟩

theorem enter_name {c : Char} (h : (c.isAlpha || c == '_') = true) :
    lexStep .idle c = .ok (.word [c], []) := by
  obtain ⟨hcode, hblank, hdigit, hquote, -⟩ := name_start h
  simp only [lexStep, enter, hblank, hdigit, hquote, Text.isAlphabetic_ascii hcode, h, if_true,
    Bool.false_eq_true, if_false]

/-- Characters that a mode only adds to what it holds back. -/
theorem run_holding {mode : List Char → LexMode} {p : Char → Prop}
    (hstep : ∀ held c, p c → lexStep (mode held) c = .ok (mode (c :: held), [])) {cs : List Char}
    (h : ∀ c ∈ cs, p c) :
    ∀ held, lexer.run (mode held) cs = .ok (mode (cs.reverse ++ held), []) := by
  induction cs with
  | nil => exact fun held => rfl
  | cons c cs ih =>
    intro held
    rw [List.forall_mem_cons] at h
    rw [lexer_run_silent (hstep held c h.1), ih h.2, List.reverse_cons, List.append_assoc]
    rfl

theorem run_identifier {cs : List Char} (h : ∀ c ∈ cs, Text.isIdentifier c = true) :
    ∀ held, lexer.run (.word held) cs = .ok (.word (cs.reverse ++ held), []) := by
  refine run_holding (fun held c hc => ?_) h
  rw [lexStep, if_pos hc]

theorem run_word {cs : List Char} (h : cs.all (fun c => c.isAlphanum || c == '_') = true) :
    ∀ held, lexer.run (.word held) cs = .ok (.word (cs.reverse ++ held), []) :=
  run_identifier fun c hc => isIdentifier_of_name (List.all_eq_true.mp h c hc)

theorem keyword?_eq_none {word : String} (h : reservedWords.contains word = false) :
    keyword? word = none := by
  simp only [reservedWords, List.contains_eq_mem, List.mem_cons, List.not_mem_nil, or_false,
    decide_eq_false_iff_not, not_or] at h
  obtain ⟨htrue, hfalse, hnull, hnone, hand, hor, hnot, hin⟩ := h
  unfold keyword?
  split <;> first | contradiction | rfl

theorem isName_cases {name : String} (h : isName name = true) :
    ∃ c cs, name.toList = c :: cs ∧ (c.isAlpha || c == '_') = true ∧
      cs.all (fun c => c.isAlphanum || c == '_') = true ∧ reservedWords.contains name = false := by
  unfold isName at h
  cases hname : name.toList with
  | nil => rw [hname] at h; cases h
  | cons c cs =>
    rw [hname] at h
    simp only [Bool.and_eq_true, Bool.not_eq_true'] at h
    exact ⟨c, cs, rfl, h.1.1, h.1.2, h.2⟩

theorem wordToken_of_name {name : String} (h : isName name = true) :
    wordToken name.toList.reverse = .identifier name := by
  obtain ⟨-, -, -, -, -, hword⟩ := isName_cases h
  rw [wordToken, List.reverse_reverse, String.ofList_toList, keyword?_eq_none hword]
  rfl

theorem run_name {name : String} (h : isName name = true) :
    lexer.run .idle name.toList = .ok (.word name.toList.reverse, []) := by
  obtain ⟨c, cs, hname, hfirst, hrest, -⟩ := isName_cases h
  rw [hname, lexer_run_silent (enter_name hfirst), run_word hrest, List.reverse_cons]

theorem reads_name {name : String} (h : isName name = true) :
    Reads name.toList [.identifier name] := by
  have hpart : Text.isIdentifier ' ' = false := by decide
  refine ⟨.word name.toList.reverse, [], [.identifier name], run_name h, ?_, ?_, rfl⟩
  · rw [lexFinish, wordToken_of_name h]
  · rw [lexStep, hpart, wordToken_of_name h]
    rfl

/-! Integers. -/

theorem enter_digit {c : Char} (h : c.isDigit = true) :
    lexStep .idle c = .ok (.number [c], []) := by
  have hblank := Text.isBlank_of_isDigit h
  simp only [lexStep, enter, hblank, h, if_true, Bool.false_eq_true, if_false]

theorem run_digits {cs : List Char} (h : ∀ c ∈ cs, c.isDigit = true) :
    ∀ held, lexer.run (.number held) cs = .ok (.number (cs.reverse ++ held), []) := by
  refine run_holding (fun held c hc => ?_) h
  rw [lexStep, if_pos hc]

theorem int64?_of_name {name : String} (h : isName name = true) :
    Text.int64? name.toList = none := by
  obtain ⟨c, cs, hname, hfirst, -, -⟩ := isName_cases h
  obtain ⟨-, -, hdigit, -, hsign⟩ := name_start hfirst
  have hnat : Text.natOfDigits? (c :: cs) = none := by simp [Text.natOfDigits?, hdigit]
  rw [hname]
  unfold Text.int64?
  split
  · rename_i heq
    cases heq
    cases hsign
  · rename_i heq
    cases heq
    cases hsign
  · rw [hnat]
    rfl

theorem reads_integer {n : Int} (hpos : 0 ≤ n) (hmax : n ≤ Text.maxInt64) :
    Reads (toString n).toList [.integer n] := by
  obtain ⟨m, rfl⟩ := Int.eq_ofNat_of_zero_le hpos
  have htext : (toString (m : Int)).toList = Nat.toDigits 10 m := Nat.toList_repr
  have hdigit : ∀ c ∈ Nat.toDigits 10 m, c.isDigit = true :=
    fun c hc => Text.isDigit_of_mem_toDigits hc
  have htoken : integerToken (Nat.toDigits 10 m).reverse = .ok (.integer m) := by
    rw [integerToken, List.reverse_reverse, Text.int64?_toDigits hmax]
  rw [htext]
  cases hdigits : Nat.toDigits 10 m with
  | nil => exact absurd hdigits Nat.toDigits_ne_nil
  | cons c cs =>
    rw [hdigits] at hdigit htoken
    rw [List.forall_mem_cons] at hdigit
    rw [List.reverse_cons] at htoken
    refine ⟨.number (cs.reverse ++ [c]), [], [.integer m], ?_, ?_, ?_, rfl⟩
    · rw [lexer_run_silent (enter_digit hdigit.1), run_digits hdigit.2]
    · rw [lexFinish, htoken]
      rfl
    · have hblank : (' ').isDigit = false := by decide
      have hdot : (' ' == '.') = false := by decide
      rw [lexStep, hblank, hdot, htoken]
      rfl

/-! Strings. -/

theorem lexStep_backslash (quote : Quote) (held : List Char) :
    lexStep (.string quote.char held) '\\' = .ok (.stringEscape quote.char held, []) := by
  have hback : ('\\' == quote.char) = false := by cases quote <;> decide
  rw [lexStep, hback]
  rfl

/-- What is written after a backslash stands for itself. -/
theorem lexStep_escaped {quote : Quote} {c : Char} (h : (c == quote.char || c == '\\') = true)
    (held : List Char) :
    lexStep (.stringEscape quote.char held) c = .ok (.string quote.char (c :: held), []) := by
  have hkept : unescape c = c := by
    rw [Bool.or_eq_true, beq_iff_eq, beq_iff_eq] at h
    rcases h with rfl | rfl
    · cases quote <;> rfl
    · rfl
  rw [lexStep, hkept]

theorem lexStep_unescaped {quote : Quote} {c : Char} (h : (c == quote.char || c == '\\') = false)
    (held : List Char) :
    lexStep (.string quote.char held) c = .ok (.string quote.char (c :: held), []) := by
  rw [Bool.or_eq_false_iff] at h
  rw [lexStep, h.1, h.2]
  rfl

/-- A string is read up to its last quote, because those within it are written after backslashes. -/
theorem run_string (quote : Quote) (cs : List Char) : ∀ held,
    lexer.run (.string quote.char held) (escape quote.char cs ++ [quote.char]) =
      .ok (.idle, [.string (String.ofList (held.reverse ++ cs))]) := by
  induction cs with
  | nil =>
    intro held
    have hclose : lexStep (.string quote.char held) quote.char =
        .ok (.idle, [.string (String.ofList held.reverse)]) := by
      rw [lexStep, if_pos (beq_self_eq_true _)]
    rw [escape, List.nil_append, List.append_nil]
    exact lexer_run_step hclose rfl
  | cons c cs ih =>
    intro held
    have hrest := ih (c :: held)
    rw [List.reverse_cons, List.append_assoc, List.singleton_append] at hrest
    rw [escape]
    split_ifs with hspecial
    · rw [List.cons_append, List.cons_append, lexer_run_silent (lexStep_backslash quote held),
        lexer_run_silent (lexStep_escaped hspecial held), hrest]
    · rw [List.cons_append,
        lexer_run_silent (lexStep_unescaped (Bool.eq_false_iff.mpr hspecial) held), hrest]

/-- Whatever part of it has been read, the string is still open. -/
theorem run_string_open (quote : Quote) (cs : List Char) : ∀ held {part : List Char},
    part <+: escape quote.char cs →
    ∃ mode, lexer.run (.string quote.char held) part = .ok (mode, []) ∧
      lexFinish mode = .error .openString := by
  induction cs with
  | nil =>
    intro held part hpart
    rw [escape, List.prefix_nil] at hpart
    exact ⟨.string quote.char held, by rw [hpart]; rfl, rfl⟩
  | cons c cs ih =>
    intro held part hpart
    cases part with
    | nil => exact ⟨.string quote.char held, rfl, rfl⟩
    | cons first part =>
      rw [escape] at hpart
      split_ifs at hpart with hspecial
      · obtain ⟨rfl, hafter⟩ := List.cons_prefix_cons.mp hpart
        rw [lexer_run_silent (lexStep_backslash quote held)]
        cases part with
        | nil => exact ⟨.stringEscape quote.char held, rfl, rfl⟩
        | cons second part =>
          obtain ⟨rfl, hrest⟩ := List.cons_prefix_cons.mp hafter
          rw [lexer_run_silent (lexStep_escaped hspecial held)]
          exact ih (second :: held) hrest
      · obtain ⟨rfl, hrest⟩ := List.cons_prefix_cons.mp hpart
        rw [lexer_run_silent (lexStep_unescaped (Bool.eq_false_iff.mpr hspecial) held)]
        exact ih (first :: held) hrest

theorem reads_string (quote : Quote) (s : String) :
    Reads (quote.char :: (escape quote.char s.toList ++ [quote.char])) [.string s] := by
  have hopen : lexStep .idle quote.char = .ok (.string quote.char [], []) := by
    cases quote <;> rfl
  refine ⟨.idle, [.string s], [], ?_, rfl, rfl, rfl⟩
  rw [lexer_run_silent hopen, run_string, List.reverse_nil, List.nil_append, String.ofList_toList]

theorem reads_text (sp : Spelling) {t : Token} (h : t.writable = true) :
    Reads (t.text sp) [t] := by
  cases t with
  | identifier name => exact reads_name h
  | integer n =>
    simp only [Token.writable, Bool.and_eq_true, decide_eq_true_eq] at h
    exact reads_integer h.1 h.2
  | float x => cases h
  | string s => exact reads_string sp.quote s
  | null =>
    rw [Token.text]
    split_ifs <;> exact ⟨_, _, _, rfl, rfl, rfl, rfl⟩
  | and =>
    rw [Token.text]
    split_ifs <;> exact ⟨_, _, _, rfl, rfl, rfl, rfl⟩
  | or =>
    rw [Token.text]
    split_ifs <;> exact ⟨_, _, _, rfl, rfl, rfl, rfl⟩
  | not =>
    rw [Token.text]
    split_ifs <;> exact ⟨_, _, _, rfl, rfl, rfl, rfl⟩
  | _ => exact ⟨_, _, _, rfl, rfl, rfl, rfl⟩

/-- Texts of tokens with a blank between two of them. -/
def spaced (sp : Spelling) (ts : List Token) : List Char :=
  List.intercalate [' '] (ts.map (Token.text sp))

theorem reads_spaced (sp : Spelling) {ts : List Token} (hne : ts ≠ [])
    (h : ∀ t ∈ ts, t.writable = true) : Reads (spaced sp ts) ts := by
  induction ts with
  | nil => exact absurd rfl hne
  | cons t ts ih =>
    rw [List.forall_mem_cons] at h
    cases ts with
    | nil => simpa [spaced] using reads_text sp h.1
    | cons u ts =>
      have hrest := ih (List.cons_ne_nil u ts) h.2
      have hspaced : spaced sp (t :: u :: ts) = t.text sp ++ ' ' :: spaced sp (u :: ts) := by
        simp [spaced, List.intercalate_cons_cons]
      rw [hspaced]
      exact (reads_text sp h.1).append hrest

end QueryCatalog.Template
