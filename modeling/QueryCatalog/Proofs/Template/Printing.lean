import QueryCatalog.Template.Expr
import QueryCatalog.Proofs.Template.Spelling

/-!
Expressions printed and read again. An operand that is itself a `not` or a binary operation stands
in parentheses, and so does whatever a field or an index is taken of; with that, every tree is read
back as it was.
-/
namespace QueryCatalog.Template

def Operator.tokens : Operator → List Token
  | .and => [.and]
  | .or => [.or]
  | .equal => [.equal]
  | .notEqual => [.notEqual]
  | .less => [.less]
  | .lessEqual => [.lessEqual]
  | .greater => [.greater]
  | .greaterEqual => [.greaterEqual]
  | .in => [.in]
  | .notIn => [.not, .in]
  | .add => [.plus]

/-- The token of a value; arrays and objects have none. -/
def valueTokens : Json → List Token
  | .null => [.null]
  | .bool b => [if b then .true else .false]
  | .num (.int n) => [.integer n]
  | .num (.float x) => [.float x]
  | .str s => [.string s]
  | .arr _ => []
  | .obj _ => []

/-- A field is a name or a number. -/
def fieldToken (name : String) : Token :=
  match Text.int64? name.toList with
  | some n => .integer n
  | none => .identifier name

def parens (ts : List Token) : List Token := .leftParen :: (ts ++ [.rightParen])

/-- Whether parentheses are needed around an operand. -/
def Expr.isCompound : Expr → Bool
  | .not _ => true
  | .binary _ _ _ => true
  | _ => false

def operandTokens (compound : Bool) (ts : List Token) : List Token :=
  if compound then parens ts else ts

mutual

def Expr.tokens : Expr → List Token
  | .literal v => valueTokens v
  | .variable name => [.identifier name]
  | .field base name => parens base.tokens ++ [.dot, fieldToken name]
  | .index base position =>
    parens base.tokens ++ .leftBracket :: (position.tokens ++ [.rightBracket])
  | .array items => .leftBracket :: (Expr.listTokens items ++ [.rightBracket])
  | .not operand => .not :: operandTokens operand.isCompound operand.tokens
  | .binary left op right =>
    operandTokens left.isCompound left.tokens ++
      (op.tokens ++ operandTokens right.isCompound right.tokens)
  | .call name args => .identifier name :: .leftParen :: (Expr.listTokens args ++ [.rightParen])

/-- Expressions with commas between them. -/
def Expr.listTokens : List Expr → List Token
  | [] => []
  | [e] => e.tokens
  | e :: rest => e.tokens ++ .comma :: Expr.listTokens rest

end

def Expr.print (sp : Spelling) (e : Expr) : String := String.ofList (spaced sp e.tokens)

/-- Null, truth values, integers from zero to the largest of 64 bits, and strings. -/
def isPlainValue : Json → Bool
  | .null => true
  | .bool _ => true
  | .num (.int n) => 0 ≤ n && n ≤ Text.maxInt64
  | .str _ => true
  | _ => false

/-- A name, or an integer as it is written, below 2^63. -/
def isFieldName (name : String) : Bool :=
  isName name || (Text.int64? name.toList).any fun n => 0 ≤ n && toString n == name

mutual

/-- Whether all values and names of the tree can be written. -/
def Expr.printable : Expr → Bool
  | .literal v => isPlainValue v
  | .variable name => isName name
  | .field base name => base.printable && isFieldName name
  | .index base position => base.printable && position.printable
  | .array items => Expr.allPrintable items
  | .not operand => operand.printable
  | .binary left _ right => left.printable && right.printable
  | .call name args => isName name && Expr.allPrintable args

def Expr.allPrintable : List Expr → Bool
  | [] => true
  | e :: rest => e.printable && Expr.allPrintable rest

end

/-! What follows an expression, and how firmly it binds to it. -/

/-- From 5 for what continues a field or a call down to 0 for what continues nothing. -/
def grip : List Token → Nat
  | .dot :: _ => 5
  | .leftBracket :: _ => 5
  | .leftParen :: _ => 5
  | .plus :: _ => 4
  | .equal :: _ => 3
  | .notEqual :: _ => 3
  | .less :: _ => 3
  | .lessEqual :: _ => 3
  | .greater :: _ => 3
  | .greaterEqual :: _ => 3
  | .in :: _ => 3
  | .not :: _ => 3
  | .and :: _ => 2
  | .or :: _ => 1
  | _ => 0

variable {ts rest : List Token} {e : Expr} {fuel : Nat}

theorem postfixMore_done (h : grip rest < 5) :
    parsePostfixMore (fuel + 1) e rest = .ok (e, rest) := by
  unfold parsePostfixMore
  split
  · simp [grip] at h
  · simp [grip] at h
  · rfl

theorem sumMore_done (h : grip rest < 4) : parseSumMore (fuel + 1) e rest = .ok (e, rest) := by
  unfold parseSumMore
  split
  · simp [grip] at h
  · rfl

theorem comparison?_done (h : grip rest < 3) : comparison? rest = none := by
  unfold comparison?
  split <;> first | rfl | simp [grip] at h

theorem andMore_done (h : grip rest < 2) : parseAndMore (fuel + 1) e rest = .ok (e, rest) := by
  unfold parseAndMore
  split
  · simp [grip] at h
  · rfl

theorem orMore_done (h : grip rest < 1) : parseOrMore (fuel + 1) e rest = .ok (e, rest) := by
  unfold parseOrMore
  split
  · simp [grip] at h
  · rfl

/-! An expression that is read at one level is read at the next looser one. -/

theorem sum_of_postfix (h : parsePostfix (fuel + 1) ts = .ok (e, rest)) (hrest : grip rest < 4) :
    parseSum (fuel + 2) ts = .ok (e, rest) := by
  rw [parseSum, h]
  exact sumMore_done hrest

theorem comparison_of_sum (h : parseSum fuel ts = .ok (e, rest)) (hrest : grip rest < 3) :
    parseComparison (fuel + 1) ts = .ok (e, rest) := by
  rw [parseComparison, h]
  simp only [bind, Except.bind, comparison?_done hrest]
  rfl

theorem not_of_comparison (h : parseComparison fuel ts = .ok (e, rest))
    (hnot : ∀ tail, ts ≠ .not :: tail) : parseNot (fuel + 1) ts = .ok (e, rest) := by
  unfold parseNot
  split
  · rename_i tail
    exact absurd rfl (hnot tail)
  · exact h

theorem and_of_not (h : parseNot (fuel + 1) ts = .ok (e, rest)) (hrest : grip rest < 2) :
    parseAnd (fuel + 2) ts = .ok (e, rest) := by
  rw [parseAnd, h]
  exact andMore_done hrest

theorem or_of_and (h : parseAnd (fuel + 1) ts = .ok (e, rest)) (hrest : grip rest < 1) :
    parseOr (fuel + 2) ts = .ok (e, rest) := by
  rw [parseOr, h]
  exact orMore_done hrest

/-! Tokens that are read as one tree, whatever follows them. From `or` to an operand in parentheses
there are seven levels, and one more within a list, so eight calls for each token are enough. -/

/-- Whether a token closes a list or a pair of parentheses. -/
def Token.closes : Token → Bool
  | .rightParen => Bool.true
  | .rightBracket => Bool.true
  | _ => Bool.false

/-- An expression on its own: nothing that binds to it may follow. -/
structure ReadsWhole (ts : List Token) (e : Expr) : Prop where
  begins : ∃ t tail, ts = t :: tail ∧ t.closes = false
  read : ∀ rest fuel, grip rest = 0 → 8 * ts.length ≤ fuel →
    parseOr fuel (ts ++ rest) = .ok (e, rest)

/-- An operand: any operator may follow. -/
structure ReadsOperand (ts : List Token) (e : Expr) : Prop where
  begins : ∃ t tail, ts = t :: tail ∧ t.closes = false ∧ t ≠ .not
  read : ∀ rest fuel, grip rest < 5 → 8 * ts.length ≤ fuel + 5 →
    parsePostfix fuel (ts ++ rest) = .ok (e, rest)

namespace ReadsOperand

theorem length_pos (h : ReadsOperand ts e) : 0 < ts.length := by
  obtain ⟨t, tail, rfl, -⟩ := h.begins
  simp

theorem not_negated (h : ReadsOperand ts e) (rest : List Token) :
    ∀ tail, ts ++ rest ≠ .not :: tail := by
  obtain ⟨t, inner, rfl, -, hnot⟩ := h.begins
  intro tail heq
  exact hnot (List.cons.inj heq).1

theorem sum (h : ReadsOperand ts e) (rest : List Token) (fuel : Nat) (hrest : grip rest < 4)
    (hfuel : 8 * ts.length ≤ fuel + 4) : parseSum fuel (ts ++ rest) = .ok (e, rest) := by
  have hpos := h.length_pos
  obtain ⟨f, rfl⟩ : ∃ f, fuel = f + 2 := ⟨fuel - 2, by omega⟩
  exact sum_of_postfix (h.read rest _ (by omega) (by omega)) hrest

theorem comparison (h : ReadsOperand ts e) (rest : List Token) (fuel : Nat) (hrest : grip rest < 3)
    (hfuel : 8 * ts.length ≤ fuel + 3) : parseComparison fuel (ts ++ rest) = .ok (e, rest) := by
  have hpos := h.length_pos
  obtain ⟨f, rfl⟩ : ∃ f, fuel = f + 1 := ⟨fuel - 1, by omega⟩
  exact comparison_of_sum (h.sum rest f (by omega) (by omega)) hrest

theorem negation (h : ReadsOperand ts e) (rest : List Token) (fuel : Nat) (hrest : grip rest < 3)
    (hfuel : 8 * ts.length ≤ fuel + 2) : parseNot fuel (ts ++ rest) = .ok (e, rest) := by
  have hpos := h.length_pos
  obtain ⟨f, rfl⟩ : ∃ f, fuel = f + 1 := ⟨fuel - 1, by omega⟩
  exact not_of_comparison (h.comparison rest f hrest (by omega)) (h.not_negated rest)

theorem conjunction (h : ReadsOperand ts e) (rest : List Token) (fuel : Nat) (hrest : grip rest < 2)
    (hfuel : 8 * ts.length ≤ fuel + 1) : parseAnd fuel (ts ++ rest) = .ok (e, rest) := by
  have hpos := h.length_pos
  obtain ⟨f, rfl⟩ : ∃ f, fuel = f + 2 := ⟨fuel - 2, by omega⟩
  exact and_of_not (h.negation rest (f + 1) (by omega) (by omega)) hrest

theorem whole (h : ReadsOperand ts e) : ReadsWhole ts e := by
  obtain ⟨t, tail, hts, hcloses, -⟩ := h.begins
  refine ⟨⟨t, tail, hts, hcloses⟩, fun rest fuel hrest hfuel => ?_⟩
  have hpos := h.length_pos
  obtain ⟨f, rfl⟩ : ∃ f, fuel = f + 2 := ⟨fuel - 2, by omega⟩
  exact or_of_and (h.conjunction rest (f + 1) (by omega) (by omega)) (by omega)

end ReadsOperand

/-- Parentheses make an operand of an expression, and end on their own. -/
theorem ReadsWhole.primary (h : ReadsWhole ts e) (rest : List Token)
    (hfuel : 8 * ts.length + 1 ≤ fuel) :
    parsePrimary fuel (parens ts ++ rest) = .ok (e, rest) := by
  obtain ⟨f, rfl⟩ : ∃ f, fuel = f + 1 := ⟨fuel - 1, by omega⟩
  have hinner := h.read (.rightParen :: rest) f rfl (by omega)
  have htokens : parens ts ++ rest = .leftParen :: (ts ++ .rightParen :: rest) := by simp [parens]
  rw [htokens, parsePrimary, hinner]
  rfl

theorem length_parens (ts : List Token) : (parens ts).length = ts.length + 2 := by simp [parens]

theorem ReadsWhole.parens (h : ReadsWhole ts e) : ReadsOperand (parens ts) e := by
  refine ⟨⟨.leftParen, _, rfl, rfl, by simp⟩, fun rest fuel hrest hfuel => ?_⟩
  rw [length_parens] at hfuel
  obtain ⟨f, rfl⟩ : ∃ f, fuel = f + 2 := ⟨fuel - 2, by omega⟩
  rw [parsePostfix, h.primary rest (by omega)]
  exact postfixMore_done hrest

/-! The trees, one constructor at a time. -/

theorem readsWhole_not (h : ReadsOperand ts e) : ReadsWhole (.not :: ts) (.not e) := by
  refine ⟨⟨.not, ts, rfl, rfl⟩, fun rest fuel hrest hfuel => ?_⟩
  rw [List.length_cons] at hfuel
  obtain ⟨f, rfl⟩ : ∃ f, fuel = f + 4 := ⟨fuel - 4, by omega⟩
  have hnot : parseNot (f + 2) (.not :: ts ++ rest) = .ok (.not e, rest) := by
    rw [List.cons_append, parseNot, h.negation rest (f + 1) (by omega) (by omega)]
    rfl
  exact or_of_and (and_of_not hnot (by omega)) (by omega)

/-! One binary operation at the level its operator belongs to. -/

section Binary

variable {ls rs : List Token} {left right : Expr}

theorem ReadsOperand.addition (hl : ReadsOperand ls left) (hr : ReadsOperand rs right)
    (hrest : grip rest < 4) (hfuel : 8 * (ls.length + rs.length) ≤ fuel) :
    parseSum fuel (ls ++ .plus :: (rs ++ rest)) = .ok (.binary left .add right, rest) := by
  have hpos := hl.length_pos
  have hpos' := hr.length_pos
  obtain ⟨f, rfl⟩ : ∃ f, fuel = f + 3 := ⟨fuel - 3, by omega⟩
  rw [parseSum, hl.read (.plus :: (rs ++ rest)) (f + 2) (by simp [grip]) (by omega)]
  simp only [bind, Except.bind]
  rw [parseSumMore, hr.read rest (f + 1) (by omega) (by omega)]
  exact sumMore_done hrest

theorem comparison?_tokens {op : Operator} (hand : op ≠ .and) (hor : op ≠ .or) (hadd : op ≠ .add)
    (ts : List Token) :
    comparison? (op.tokens ++ ts) = some (op, ts) ∧ grip (op.tokens ++ ts) = 3 := by
  cases op <;> first | contradiction | exact ⟨rfl, rfl⟩

theorem ReadsOperand.comparing (hl : ReadsOperand ls left) (hr : ReadsOperand rs right)
    {op : Operator} (hand : op ≠ .and) (hor : op ≠ .or) (hadd : op ≠ .add) (hrest : grip rest < 3)
    (hfuel : 8 * (ls.length + rs.length) ≤ fuel) :
    parseComparison fuel (ls ++ (op.tokens ++ (rs ++ rest))) =
      .ok (.binary left op right, rest) := by
  have hpos := hl.length_pos
  obtain ⟨hop, hgrip⟩ := comparison?_tokens hand hor hadd (rs ++ rest)
  obtain ⟨f, rfl⟩ : ∃ f, fuel = f + 1 := ⟨fuel - 1, by omega⟩
  rw [parseComparison, hl.sum (op.tokens ++ (rs ++ rest)) f (by omega) (by omega)]
  simp only [bind, Except.bind, hop, hr.sum rest f (by omega) (by omega)]
  rfl

theorem ReadsOperand.both (hl : ReadsOperand ls left) (hr : ReadsOperand rs right)
    (hrest : grip rest < 2) (hfuel : 8 * (ls.length + rs.length) ≤ fuel) :
    parseAnd fuel (ls ++ .and :: (rs ++ rest)) = .ok (.binary left .and right, rest) := by
  have hpos := hl.length_pos
  have hpos' := hr.length_pos
  obtain ⟨f, rfl⟩ : ∃ f, fuel = f + 3 := ⟨fuel - 3, by omega⟩
  rw [parseAnd, hl.negation (.and :: (rs ++ rest)) (f + 2) (by simp [grip]) (by omega)]
  simp only [bind, Except.bind]
  rw [parseAndMore, hr.negation rest (f + 1) (by omega) (by omega)]
  exact andMore_done hrest

theorem ReadsOperand.either (hl : ReadsOperand ls left) (hr : ReadsOperand rs right)
    (hrest : grip rest < 1) (hfuel : 8 * (ls.length + rs.length) ≤ fuel) :
    parseOr fuel (ls ++ .or :: (rs ++ rest)) = .ok (.binary left .or right, rest) := by
  have hpos := hl.length_pos
  have hpos' := hr.length_pos
  obtain ⟨f, rfl⟩ : ∃ f, fuel = f + 3 := ⟨fuel - 3, by omega⟩
  rw [parseOr, hl.conjunction (.or :: (rs ++ rest)) (f + 2) (by simp [grip]) (by omega)]
  simp only [bind, Except.bind]
  rw [parseOrMore, hr.conjunction rest (f + 1) (by omega) (by omega)]
  exact orMore_done hrest

theorem Operator.tokens_length_pos (op : Operator) : 0 < op.tokens.length := by
  cases op <;> decide

theorem readsWhole_binary (hl : ReadsOperand ls left) (hr : ReadsOperand rs right)
    (op : Operator) : ReadsWhole (ls ++ (op.tokens ++ rs)) (.binary left op right) := by
  obtain ⟨t, tail, hls, hcloses, hnot⟩ := hl.begins
  refine ⟨⟨t, tail ++ (op.tokens ++ rs), by rw [hls, List.cons_append], hcloses⟩,
    fun rest fuel hrest hfuel => ?_⟩
  have hnegated : ∀ tail', ls ++ (op.tokens ++ (rs ++ rest)) ≠ .not :: tail' :=
    hl.not_negated _
  have hop := op.tokens_length_pos
  simp only [List.length_append] at hfuel
  obtain ⟨f, rfl⟩ : ∃ f, fuel = f + 5 := ⟨fuel - 5, by omega⟩
  -- From the level of the operator the lifts go out to `or`.
  have lift : parseComparison (f + 2) (ls ++ (op.tokens ++ (rs ++ rest))) =
        .ok (.binary left op right, rest) →
      parseOr (f + 5) (ls ++ (op.tokens ++ (rs ++ rest))) = .ok (.binary left op right, rest) :=
    fun h => or_of_and (and_of_not (not_of_comparison h hnegated) (by omega)) (by omega)
  rw [List.append_assoc, List.append_assoc]
  by_cases hor : op = .or
  · subst hor
    exact hl.either hr (by omega) (by omega)
  by_cases hand : op = .and
  · subst hand
    exact or_of_and (hl.both hr (by omega) (by omega)) (by omega)
  by_cases hadd : op = .add
  · subst hadd
    exact lift (comparison_of_sum (hl.addition hr (by omega) (by omega)) (by omega))
  · exact lift (hl.comparing hr hand hor hadd (by omega) (by omega))

end Binary

/-! Operands. -/

theorem readsOperand_of_primary (hbegins : ∃ t tail, ts = t :: tail ∧ t.closes = false ∧ t ≠ .not)
    (h : ∀ rest fuel, grip rest < 5 → 8 * ts.length ≤ fuel + 6 →
      parsePrimary fuel (ts ++ rest) = .ok (e, rest)) : ReadsOperand ts e := by
  refine ⟨hbegins, fun rest fuel hrest hfuel => ?_⟩
  obtain ⟨t, tail, rfl, -⟩ := hbegins
  rw [List.length_cons] at hfuel
  obtain ⟨f, rfl⟩ : ∃ f, fuel = f + 2 := ⟨fuel - 2, by omega⟩
  rw [parsePostfix, h rest (f + 1) hrest (by rw [List.length_cons]; omega)]
  exact postfixMore_done hrest

theorem readsOperand_literal {v : Json} (h : isPlainValue v = true) :
    ReadsOperand (Expr.literal v).tokens (.literal v) := by
  have hone : ∃ t, valueTokens v = [t] ∧ t.closes = false ∧ t ≠ .not ∧
      ∀ rest f, parsePrimary (f + 1) (t :: rest) = .ok (.literal v, rest) := by
    match v with
    | .null => exact ⟨.null, rfl, rfl, by simp, fun _ _ => rfl⟩
    | .bool true => exact ⟨.true, rfl, rfl, by simp, fun _ _ => rfl⟩
    | .bool false => exact ⟨.false, rfl, rfl, by simp, fun _ _ => rfl⟩
    | .num (.int n) => exact ⟨.integer n, rfl, rfl, by simp, fun _ _ => rfl⟩
    | .str s => exact ⟨.string s, rfl, rfl, by simp, fun _ _ => rfl⟩
  obtain ⟨t, ht, hcloses, hnot, hread⟩ := hone
  rw [Expr.tokens, ht]
  refine readsOperand_of_primary ⟨t, [], rfl, hcloses, hnot⟩ fun rest fuel _ hfuel => ?_
  simp only [List.length_singleton] at hfuel
  obtain ⟨f, rfl⟩ : ∃ f, fuel = f + 1 := ⟨fuel - 1, by omega⟩
  exact hread rest f

theorem readsOperand_variable (name : String) :
    ReadsOperand (Expr.variable name).tokens (.variable name) := by
  rw [Expr.tokens]
  refine readsOperand_of_primary ⟨_, [], rfl, rfl, by simp⟩ fun rest fuel hrest hfuel => ?_
  simp only [List.length_singleton] at hfuel
  obtain ⟨f, rfl⟩ : ∃ f, fuel = f + 1 := ⟨fuel - 1, by omega⟩
  -- With an opening parenthesis behind it the name would be the name of a call.
  cases rest with
  | nil => rfl
  | cons t rest => cases t <;> first | rfl | simp [grip] at hrest

theorem fieldName_fieldToken {name : String} (h : isFieldName name = true) (rest : List Token) :
    fieldName (fieldToken name :: rest) = .ok (name, rest) := by
  unfold fieldToken
  cases hn : Text.int64? name.toList with
  | none => rfl
  | some n =>
    simp only [isFieldName, hn, Option.any_some, Bool.or_eq_true, Bool.and_eq_true, beq_iff_eq] at h
    rcases h with h | h
    · rw [int64?_of_name h] at hn
      cases hn
    · exact congrArg (fun s => Except.ok (s, rest)) h.2

theorem readsOperand_field {name : String} (h : ReadsWhole e.tokens e)
    (hname : isFieldName name = true) : ReadsOperand (e.field name).tokens (e.field name) := by
  rw [Expr.tokens]
  refine ⟨⟨.leftParen, _, rfl, rfl, by simp⟩, fun rest fuel hrest hfuel => ?_⟩
  simp only [List.length_append, length_parens, List.length_cons, List.length_nil] at hfuel
  obtain ⟨f, rfl⟩ : ∃ f, fuel = f + 3 := ⟨fuel - 3, by omega⟩
  rw [List.append_assoc, parsePostfix, h.primary _ (by omega)]
  simp only [bind, Except.bind]
  rw [List.cons_append, List.cons_append, List.nil_append, parsePostfixMore,
    fieldName_fieldToken hname]
  exact postfixMore_done hrest

theorem readsOperand_index {position : Expr} (h : ReadsWhole e.tokens e)
    (hposition : ReadsWhole position.tokens position) :
    ReadsOperand (e.index position).tokens (e.index position) := by
  rw [Expr.tokens]
  refine ⟨⟨.leftParen, _, rfl, rfl, by simp⟩, fun rest fuel hrest hfuel => ?_⟩
  simp only [List.length_append, length_parens, List.length_cons, List.length_nil] at hfuel
  obtain ⟨f, rfl⟩ : ∃ f, fuel = f + 3 := ⟨fuel - 3, by omega⟩
  rw [List.append_assoc, parsePostfix, h.primary _ (by omega)]
  simp only [bind, Except.bind]
  rw [List.cons_append, List.append_assoc, List.singleton_append, parsePostfixMore,
    hposition.read (.rightBracket :: rest) (f + 1) rfl (by omega)]
  exact postfixMore_done hrest

/-! Lists of expressions. -/

section Lists

variable {es : List Expr} {close : Token}

theorem listTokens_cons_cons (e e' : Expr) (es : List Expr) :
    Expr.listTokens (e :: e' :: es) = e.tokens ++ .comma :: Expr.listTokens (e' :: es) := rfl

theorem grip_of_closes (h : close.closes = true) (rest : List Token) :
    grip (close :: rest) = 0 := by
  cases close <;> first | rfl | cases h

theorem beq_of_closes {t : Token} (h : t.closes = false) (hclose : close.closes = true) :
    (t == close) = false := by
  cases close
  case rightParen => cases t <;> first | rfl | cases h
  case rightBracket => cases t <;> first | rfl | cases h
  all_goals cases hclose

/-- The last expression of a list. -/
theorem ReadsWhole.item (h : ReadsWhole ts e) (hclose : close.closes = true) (rest : List Token)
    (hfuel : 8 * ts.length ≤ fuel) :
    parseItems (fuel + 1) close (ts ++ close :: rest) = .ok ([e], rest) := by
  rw [parseItems, h.read (close :: rest) fuel (grip_of_closes hclose rest) hfuel]
  cases close <;> first | rfl | cases hclose

theorem parseItems_listTokens (h : ∀ e ∈ es, ReadsWhole e.tokens e) (hne : es ≠ [])
    (hclose : close.closes = true) (rest : List Token) : ∀ fuel,
    8 * (Expr.listTokens es).length + 1 ≤ fuel →
      parseItems fuel close (Expr.listTokens es ++ close :: rest) = .ok (es, rest) := by
  induction es with
  | nil => exact absurd rfl hne
  | cons e es ih =>
    rw [List.forall_mem_cons] at h
    intro fuel hfuel
    cases es with
    | nil =>
      obtain ⟨f, rfl⟩ : ∃ f, fuel = f + 1 := ⟨fuel - 1, by omega⟩
      simp only [Expr.listTokens] at hfuel ⊢
      exact h.1.item hclose rest (by omega)
    | cons e' es =>
      rw [listTokens_cons_cons, List.length_append, List.length_cons] at hfuel
      obtain ⟨f, rfl⟩ : ∃ f, fuel = f + 1 := ⟨fuel - 1, by omega⟩
      have hmore := ih h.2 (List.cons_ne_nil e' es) f (by omega)
      rw [listTokens_cons_cons, List.append_assoc, List.cons_append, parseItems,
        h.1.read _ f rfl (by omega)]
      simp only [bind, Except.bind, hmore]
      rfl

theorem listTokens_begins (h : ∀ e ∈ es, ReadsWhole e.tokens e) (hne : es ≠ []) :
    ∃ t tail, Expr.listTokens es = t :: tail ∧ t.closes = false := by
  cases es with
  | nil => exact absurd rfl hne
  | cons e es =>
    obtain ⟨t, tail, ht, hcloses⟩ := (h e List.mem_cons_self).begins
    cases es with
    | nil => exact ⟨t, tail, by rw [Expr.listTokens, ht], hcloses⟩
    | cons e' es =>
      refine ⟨t, tail ++ .comma :: Expr.listTokens (e' :: es), ?_, hcloses⟩
      rw [listTokens_cons_cons, ht, List.cons_append]

theorem parseList_of_begins {t : Token} (h : t.closes = false) (hclose : close.closes = true)
    (ts : List Token) : parseList (fuel + 1) close (t :: ts) = parseItems fuel close (t :: ts) := by
  rw [parseList, List.head?_cons, Option.map_some, Option.getD_some, beq_of_closes h hclose,
    if_neg Bool.false_ne_true]

theorem parseList_listTokens (h : ∀ e ∈ es, ReadsWhole e.tokens e) (hclose : close.closes = true)
    (hfuel : 8 * (Expr.listTokens es).length + 2 ≤ fuel) (rest : List Token) :
    parseList fuel close (Expr.listTokens es ++ close :: rest) = .ok (es, rest) := by
  obtain ⟨f, rfl⟩ : ∃ f, fuel = f + 1 := ⟨fuel - 1, by omega⟩
  by_cases hes : es = []
  · subst hes
    cases close <;> first | rfl | cases hclose
  · have hitems := parseItems_listTokens h hes hclose rest f (by omega)
    obtain ⟨t, tail, ht, hcloses⟩ := listTokens_begins h hes
    rw [ht, List.cons_append] at hitems ⊢
    rw [parseList_of_begins hcloses hclose]
    exact hitems

theorem readsOperand_array (h : ∀ e ∈ es, ReadsWhole e.tokens e) :
    ReadsOperand (Expr.array es).tokens (.array es) := by
  rw [Expr.tokens]
  refine readsOperand_of_primary ⟨_, _, rfl, rfl, by simp⟩ fun rest fuel _ hfuel => ?_
  simp only [List.length_cons, List.length_append, List.length_nil] at hfuel
  obtain ⟨f, rfl⟩ : ∃ f, fuel = f + 1 := ⟨fuel - 1, by omega⟩
  rw [List.cons_append, List.append_assoc, List.singleton_append, parsePrimary,
    parseList_listTokens h rfl (by omega)]
  rfl

theorem readsOperand_call (name : String) (h : ∀ e ∈ es, ReadsWhole e.tokens e) :
    ReadsOperand (Expr.call name es).tokens (.call name es) := by
  rw [Expr.tokens]
  refine readsOperand_of_primary ⟨_, _, rfl, rfl, by simp⟩ fun rest fuel _ hfuel => ?_
  simp only [List.length_cons, List.length_append, List.length_nil] at hfuel
  obtain ⟨f, rfl⟩ : ∃ f, fuel = f + 1 := ⟨fuel - 1, by omega⟩
  rw [List.cons_append, List.cons_append, List.append_assoc, List.singleton_append, parsePrimary,
    parseList_listTokens h rfl (by omega)]
  rfl

end Lists

/-! Whole trees. -/

/-- A tree on its own, and an operand where the tree needs no parentheses. -/
structure Parses (e : Expr) : Prop where
  whole : ReadsWhole e.tokens e
  tight : e.isCompound = false → ReadsOperand e.tokens e

theorem ReadsOperand.parses (h : ReadsOperand e.tokens e) : Parses e := ⟨h.whole, fun _ => h⟩

theorem Parses.operand (h : Parses e) : ReadsOperand (operandTokens e.isCompound e.tokens) e := by
  cases hcompound : e.isCompound with
  | true => exact h.whole.parens
  | false => exact h.tight hcompound

mutual

theorem Expr.parses : (e : Expr) → e.printable = true → Parses e
  | .literal _, h => (readsOperand_literal h).parses
  | .variable name, _ => (readsOperand_variable name).parses
  | .field base _, h => by
    rw [Expr.printable, Bool.and_eq_true] at h
    exact (readsOperand_field (base.parses h.1).whole h.2).parses
  | .index base position, h => by
    rw [Expr.printable, Bool.and_eq_true] at h
    exact (readsOperand_index (base.parses h.1).whole (position.parses h.2).whole).parses
  | .array items, h => (readsOperand_array (Expr.all_parse items h)).parses
  | .not operand, h => ⟨readsWhole_not (operand.parses h).operand, nofun⟩
  | .binary left op right, h => by
    rw [Expr.printable, Bool.and_eq_true] at h
    exact ⟨readsWhole_binary (left.parses h.1).operand (right.parses h.2).operand op, nofun⟩
  | .call name args, h => by
    rw [Expr.printable, Bool.and_eq_true] at h
    exact (readsOperand_call name (Expr.all_parse args h.2)).parses

theorem Expr.all_parse : (es : List Expr) → Expr.allPrintable es = true →
    ∀ e ∈ es, ReadsWhole e.tokens e
  | [], _ => by simp
  | e :: es, h => by
    rw [Expr.allPrintable, Bool.and_eq_true] at h
    exact List.forall_mem_cons.mpr ⟨(e.parses h.1).whole, Expr.all_parse es h.2⟩

end

/-! What a printed tree consists of. -/

theorem fieldToken_writable {name : String} (h : isFieldName name = true) :
    (fieldToken name).writable = true := by
  unfold fieldToken
  cases hn : Text.int64? name.toList with
  | none =>
    simp only [isFieldName, hn, Option.any_none, Bool.or_false] at h
    exact h
  | some n =>
    simp only [isFieldName, hn, Option.any_some, Bool.or_eq_true, Bool.and_eq_true,
      decide_eq_true_eq] at h
    rcases h with h | h
    · rw [int64?_of_name h] at hn
      cases hn
    · simp only [Token.writable, h.1, Text.int64?_le hn, decide_true, Bool.and_true]

theorem valueTokens_writable {v : Json} (h : isPlainValue v = true) :
    (valueTokens v).all Token.writable = true := by
  match v with
  | .null => rfl
  | .bool true => rfl
  | .bool false => rfl
  | .num (.int n) =>
    rw [valueTokens, List.all_cons, List.all_nil, Bool.and_true]
    exact h
  | .str s => rfl

theorem operator_writable (op : Operator) : op.tokens.all Token.writable = true := by
  cases op <;> rfl

theorem all_writable_parens :
    (parens ts).all Token.writable = ts.all Token.writable := by
  simp [parens, Token.writable]

theorem all_writable_operand (compound : Bool) :
    (operandTokens compound ts).all Token.writable = ts.all Token.writable := by
  cases compound with
  | true => exact all_writable_parens
  | false => rfl

mutual

theorem Expr.tokens_writable : (e : Expr) → e.printable = true →
    e.tokens.all Token.writable = true
  | .literal _, h => valueTokens_writable h
  | .variable name, h => by
    rw [Expr.tokens, List.all_cons, List.all_nil, Bool.and_true]
    exact h
  | .field base name, h => by
    rw [Expr.printable, Bool.and_eq_true] at h
    simp only [Expr.tokens, List.all_append, all_writable_parens, base.tokens_writable h.1,
      List.all_cons, List.all_nil, fieldToken_writable h.2]
    rfl
  | .index base position, h => by
    rw [Expr.printable, Bool.and_eq_true] at h
    simp only [Expr.tokens, List.all_append, all_writable_parens, base.tokens_writable h.1,
      List.all_cons, List.all_nil, position.tokens_writable h.2]
    rfl
  | .array items, h => by
    simp only [Expr.tokens, List.all_append, List.all_cons, List.all_nil,
      Expr.listTokens_writable items h]
    rfl
  | .not operand, h => by
    simp only [Expr.tokens, List.all_cons, all_writable_operand, operand.tokens_writable h]
    rfl
  | .binary left op right, h => by
    rw [Expr.printable, Bool.and_eq_true] at h
    simp only [Expr.tokens, List.all_append, all_writable_operand, left.tokens_writable h.1,
      operator_writable, right.tokens_writable h.2, Bool.and_true]
  | .call name args, h => by
    rw [Expr.printable, Bool.and_eq_true] at h
    have hname : (Token.identifier name).writable = true := h.1
    simp only [Expr.tokens, List.all_append, List.all_cons, List.all_nil, hname,
      Expr.listTokens_writable args h.2]
    rfl

theorem Expr.listTokens_writable : (es : List Expr) → Expr.allPrintable es = true →
    (Expr.listTokens es).all Token.writable = true
  | [], _ => rfl
  | [e], h => by
    rw [Expr.allPrintable, Bool.and_eq_true] at h
    exact e.tokens_writable h.1
  | e :: e' :: es, h => by
    rw [Expr.allPrintable, Bool.and_eq_true] at h
    simp only [listTokens_cons_cons, List.all_append, List.all_cons, e.tokens_writable h.1,
      Expr.listTokens_writable (e' :: es) h.2]
    rfl

end

theorem parseTokens_tokens (source : String) (h : e.printable = true) :
    parseTokens source e.tokens = .ok e := by
  have hread := (e.parses h).whole.read [] (fuelFor e.tokens) rfl (by rw [fuelFor]; omega)
  rw [List.append_nil] at hread
  rw [parseTokens, hread]

/-- Every tree that can be written is read back from what is printed of it. -/
theorem parseExpr_print (sp : Spelling) {e : Expr} (h : e.printable = true) :
    parseExpr (e.print sp) = .ok e := by
  obtain ⟨t, tail, htokens, -⟩ := (e.parses h).whole.begins
  have hne : e.tokens ≠ [] := by
    rw [htokens]
    exact List.cons_ne_nil t tail
  have hlex := tokenize_of_reads
    (reads_spaced sp hne (List.all_eq_true.mp (e.tokens_writable h)))
  rw [parseExpr, Expr.print, hlex]
  exact parseTokens_tokens _ h

/-- A `not in` under a `not`, numbers next to dots and operators, and quotes in a string. -/
def nestedTree : Expr :=
  .binary
    (.not (.binary (.field (.variable "user") "0") .notIn
      (.array [.literal (.str "it's \\ \"so\""), .call "f" []])))
    .or
    (.index (.binary (.literal (.num (.int 9223372036854775807))) .add (.literal .null))
      (.call "g" [.not (.variable "note"), .literal (.bool false)]))

theorem parseExpr_print_nestedTree :
    nestedTree.printable = true ∧
      nestedTree.print ⟨.single, false, false⟩ =
        "( not ( ( user ) . 0 not in [ 'it\\'s \\\\ \"so\"' , f ( ) ] ) ) or " ++
          "( 9223372036854775807 + null ) [ g ( not note , false ) ]" ∧
      parseExpr (nestedTree.print ⟨.single, false, false⟩) = .ok nestedTree :=
  ⟨by decide +kernel, by decide +kernel, parseExpr_print _ (by decide +kernel)⟩

end QueryCatalog.Template
