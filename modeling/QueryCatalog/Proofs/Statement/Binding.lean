import QueryCatalog.Proofs.Statement.Rewriting
import Mathlib.Data.Set.List

/-!
Bound statements. Between its placeholders the text of a statement stays as it is; each
placeholder becomes one question mark for a scalar and one for each element of an array, and the
arguments come in the order of the marks.
-/
namespace QueryCatalog.Statement

/-- The plain text before, between and behind the placeholders. -/
def gaps : List Piece → List (List Char)
  | [] => [[]]
  | .plain c :: rest => (gaps rest).modifyHead (c :: ·)
  | .marker _ _ :: rest => [] :: gaps rest

/-- The texts of the placeholders. -/
def markerTexts : List Piece → List (List Char)
  | [] => []
  | .plain _ :: rest => markerTexts rest
  | .marker _ text :: rest => text :: markerTexts rest

/-- Gaps with texts put between them, from left to right. -/
def weave : List (List Char) → List (List Char) → List Char
  | [], _ => []
  | gap :: gaps, [] => gap ++ weave gaps []
  | gap :: gaps, text :: texts => gap ++ text ++ weave gaps texts

/-- How many marks a value takes: one for each element of an array, and never none. -/
def markCount : Json → Nat
  | .arr items => max 1 items.length
  | _ => 1

/-- The marks of a value, joined by commas. -/
def markText (value : Json) : List Char :=
  List.intercalate [','] (List.replicate (markCount value) ['?'])

theorem expand_length (v : Json) : (expand v).length = markCount v := by
  cases v with
  | arr items =>
    cases items with
    | nil => rfl
    | cons i items => simp [expand, markCount]
  | _ => rfl

theorem marks_eq_intercalate (n : Nat) :
    marks n = List.intercalate [','] (List.replicate n ['?']) := by
  induction n using marks.induct with
  | case1 => rfl
  | case2 => rfl
  | case3 n ih =>
    simp only [marks, ih, List.replicate_succ (n := n + 1), List.replicate_succ (n := n)]
    simp [List.intercalate]

theorem weave_cons_modifyHead (c : Char) (gs ts : List (List Char)) (h : gs ≠ []) :
    weave (gs.modifyHead (c :: ·)) ts = c :: weave gs ts := by
  cases gs with
  | nil => exact absurd rfl h
  | cons g gs => cases ts <;> simp [weave]

theorem gaps_ne_nil (ps : List Piece) : gaps ps ≠ [] := by
  induction ps with
  | nil => simp [gaps]
  | cons p rest ih =>
    cases p with
    | plain c => simpa [gaps, List.modifyHead_eq_nil_iff] using ih
    | marker p cs => simp [gaps]

theorem textOf_eq_weave (ps : List Piece) : textOf ps = weave (gaps ps) (markerTexts ps) := by
  induction ps with
  | nil => rfl
  | cons p rest ih =>
    cases p with
    | plain c =>
      rw [gaps, markerTexts, weave_cons_modifyHead c _ _ (gaps_ne_nil rest), ← ih]
      simp [Piece.chars]
    | marker p cs => simp [gaps, markerTexts, weave, Piece.chars, ih]

theorem markedText_eq_weave (ps : List Piece) (values : List Json)
    (h : values.length = (placeholders ps).length) :
    markedText ps values = weave (gaps ps) (values.map markText) := by
  induction ps generalizing values with
  | nil =>
    have hnil : values = [] := by simpa using h
    simp [hnil, markedText, gaps, weave]
  | cons p rest ih =>
    cases p with
    | plain c =>
      have hrest : values.length = (placeholders rest).length := h
      rw [gaps, markedText, weave_cons_modifyHead c _ _ (gaps_ne_nil rest), ih values hrest]
    | marker p cs =>
      cases values with
      | nil => simp at h
      | cons v values =>
        have hrest : values.length = (placeholders rest).length := by simpa using h
        have htext : marks (expand v).length = markText v := by
          rw [marks_eq_intercalate, expand_length, markText]
        simp [gaps, markedText, weave, htext, ih values hrest]

theorem placeholders_markPieces (n : Nat) :
    placeholders (markPieces n) = List.replicate n .positional := by
  induction n using markPieces.induct with
  | case1 => rfl
  | case2 => rfl
  | case3 n ih => simp [markPieces, questionMark, ih, List.replicate_succ]

/-- The new statement has a mark for each argument and no other placeholder. -/
theorem placeholders_remarked (ps : List Piece) (values : List Json)
    (h : values.length = (placeholders ps).length) :
    placeholders (remarked ps values) =
      List.replicate (values.flatMap expand).length .positional := by
  induction ps generalizing values with
  | nil =>
    have hnil : values = [] := by simpa using h
    simp [hnil, remarked]
  | cons p rest ih =>
    cases p with
    | plain c => simpa [remarked] using ih values h
    | marker p cs =>
      cases values with
      | nil => simp at h
      | cons v values =>
        have hrest : values.length = (placeholders rest).length := by simpa using h
        simp only [remarked, placeholders_append, placeholders_markPieces, ih values hrest,
          List.flatMap_cons, List.length_append, List.replicate_append_replicate]

/-- What a bound statement has to do with the pieces of the statement that it is made of and with
the values at their placeholders. -/
structure Rewritten (statement : String) (ps : List Piece) (values : List Json)
    (b : BoundStatement) : Prop where
  reread : ∃ qs, parse b.statement = .ok qs ∧
    placeholders qs = List.replicate b.args.length .positional
  before : statement.toList = weave (gaps ps) (markerTexts ps)
  after : b.statement.toList = weave (gaps ps) (values.map markText)
  args : b.args = values.flatMap expand

theorem rewritten_bindMarkers {statement : String} {ps : List Piece} {values : List Json}
    (hparse : parse statement = .ok ps) (hlen : values.length = (placeholders ps).length) :
    Rewritten statement ps values (bindMarkers ps values) where
  reread := by
    refine ⟨remarked ps values, ?_, placeholders_remarked ps values hlen⟩
    rw [parse, bindMarkers, String.toList_ofList]
    exact pieces_markedText hparse values
  before := by rw [← textOf_eq_weave, textOf_pieces hparse]
  after := by rw [bindMarkers, String.toList_ofList, markedText_eq_weave ps values hlen]
  args := rfl

theorem placeholders_all_positional {ps : List Piece} (hnamed : hasNamed ps = false)
    (hindexed : hasIndexed ps = false) :
    placeholders ps = List.replicate (placeholders ps).length .positional := by
  refine List.eq_replicate_iff.mpr ⟨rfl, ?_⟩
  intro p hp
  have hn := List.any_eq_false.mp hnamed p hp
  have hi := List.any_eq_false.mp hindexed p hp
  cases p with
  | positional => rfl
  | indexed n => simp at hi
  | named name => simp at hn

theorem placeholders_all_named {ps : List Piece} (hpositional : hasPositional ps = false)
    (hindexed : hasIndexed ps = false) :
    ∃ names : List String, placeholders ps = names.map .named := by
  have hall : ∀ p ∈ placeholders ps, p ∈ Set.range Placeholder.named := by
    intro p hp
    have hq := List.any_eq_false.mp hpositional p hp
    have hi := List.any_eq_false.mp hindexed p hp
    cases p with
    | positional => simp at hq
    | indexed n => simp at hi
    | named name => exact ⟨name, rfl⟩
  have hrange : placeholders ps ∈ Set.range (List.map Placeholder.named) := by
    rw [Set.range_list_map]
    exact hall
  obtain ⟨names, hnames⟩ := hrange
  exact ⟨names, hnames.symm⟩

/-- What binding by name gives, when it gives something. -/
theorem bindNamed_cases {statement : String} {source : Json} {b : BoundStatement}
    (h : bindNamed statement source = .ok b) :
    ∃ ps, parse statement = .ok ps ∧ hasPositional ps = false ∧ hasIndexed ps = false ∧
      b = bindMarkers ps ((placeholders ps).map (lookup source)) := by
  unfold bindNamed at h
  cases hparse : parse statement with
  | error e => rw [hparse] at h; cases h
  | ok ps =>
    rw [hparse] at h
    change (if hasPositional ps || hasIndexed ps then _ else _) = _ at h
    split_ifs at h with hmixed
    simp only [Bool.or_eq_true, not_or, Bool.not_eq_true] at hmixed
    exact ⟨ps, rfl, hmixed.1, hmixed.2, (Except.ok.inj h).symm⟩

/-- What binding by position gives, when it gives something: the statement as it is where no
argument is an array or all placeholders have fixed indices, and else one with new marks. -/
theorem bindPositional_cases {statement : String} {args : List Json} {b : BoundStatement}
    (h : bindPositional statement args = .ok b) :
    (args.any Json.isArray = false ∧ b = ⟨statement, args⟩) ∨
    ∃ ps, args.any Json.isArray = true ∧ parse statement = .ok ps ∧ hasNamed ps = false ∧
      ((hasIndexed ps = true ∧ b = ⟨statement, args⟩) ∨
        (hasIndexed ps = false ∧ args.length = (placeholders ps).length ∧
          b = bindMarkers ps args)) := by
  unfold bindPositional at h
  split_ifs at h with harray
  · refine Or.inr ?_
    cases hparse : parse statement with
    | error e => rw [hparse] at h; cases h
    | ok ps =>
      rw [hparse] at h
      change bindPieces statement args ps = _ at h
      unfold bindPieces at h
      split_ifs at h with hnamed hindexed hpositional hcount
      · exact ⟨ps, harray, rfl, by simpa using hnamed,
          Or.inl ⟨hindexed, (Except.ok.inj h).symm⟩⟩
      · refine ⟨ps, harray, rfl, by simpa using hnamed, Or.inr ⟨by simpa using hindexed, ?_, ?_⟩⟩
        · omega
        · exact (Except.ok.inj h).symm
  · exact Or.inl ⟨by simpa using harray, (Except.ok.inj h).symm⟩

theorem sizeOf_append (as bs : List Json) : sizeOf (as ++ bs) + 1 = sizeOf as + sizeOf bs := by
  induction as with
  | nil => simp; omega
  | cons a rest ih => simp; omega

theorem sizeOf_expand_le (v : Json) : sizeOf (expand v) ≤ sizeOf v + 2 := by
  cases v with
  | arr items =>
    cases items with
    | nil => simp [expand]
    | cons item rest => simp [expand]; omega
  | _ => simp [expand] <;> omega

theorem sizeOf_expand_lt {v : Json} (h : v.isArray = true) :
    sizeOf (expand v) < sizeOf v + 2 := by
  cases v with
  | arr items =>
    cases items with
    | nil => simp [expand]
    | cons item rest => simp [expand]; omega
  | _ => simp [Json.isArray] at h

theorem sizeOf_flatMap_expand_le (args : List Json) :
    sizeOf (args.flatMap expand) ≤ sizeOf args := by
  induction args with
  | nil => simp
  | cons v rest ih =>
    have hv := sizeOf_expand_le v
    have happend := sizeOf_append (expand v) (rest.flatMap expand)
    simp only [List.flatMap_cons, List.cons.sizeOf_spec]
    omega

/-- Expansion takes the brackets of at least one array away. -/
theorem flatMap_expand_ne {args : List Json} (h : args.any Json.isArray = true) :
    args.flatMap expand ≠ args := by
  suffices hlt : sizeOf (args.flatMap expand) < sizeOf args by
    intro heq
    rw [heq] at hlt
    omega
  induction args with
  | nil => simp at h
  | cons v rest ih =>
    have hv := sizeOf_expand_le v
    have hrest := sizeOf_flatMap_expand_le rest
    have happend := sizeOf_append (expand v) (rest.flatMap expand)
    simp only [List.flatMap_cons, List.cons.sizeOf_spec]
    rcases Bool.or_eq_true_iff.mp h with harray | htail
    · have hlt := sizeOf_expand_lt harray
      omega
    · have hlt := ih htail
      omega

/-- A statement that binding by position leaves as it is: no argument is an array, or the
placeholders have fixed indices. -/
def Settled (b : BoundStatement) : Prop :=
  b.args.any Json.isArray = true → ∃ ps, parse b.statement = .ok ps ∧ hasIndexed ps = true

theorem eq_bindPositional_iff {b c : BoundStatement}
    (h : bindPositional b.statement b.args = .ok c) : c = b ↔ Settled b := by
  rcases bindPositional_cases h with ⟨hnone, rfl⟩ | ⟨ps, harray, hparse, -, hcase⟩
  · refine ⟨fun _ hany => ?_, fun _ => rfl⟩
    rw [hnone] at hany
    cases hany
  rcases hcase with ⟨hindexed, rfl⟩ | ⟨hindexed, -, rfl⟩
  · exact ⟨fun _ _ => ⟨ps, hparse, hindexed⟩, fun _ => rfl⟩
  · constructor
    · intro heq
      exact absurd (congrArg BoundStatement.args heq) (flatMap_expand_ne harray)
    · intro hsettled
      obtain ⟨qs, hqs, hfixed⟩ := hsettled harray
      rw [hparse] at hqs
      cases hqs
      rw [hindexed] at hfixed
      cases hfixed

/-- Binding writes each placeholder anew and nothing else, and the new statement is read to one
mark for each argument. -/
theorem binding_rewrites_placeholders (statement : String) :
    (∀ source b, bindNamed statement source = .ok b →
      ∃ (ps : List Piece) (names : List String),
        parse statement = .ok ps ∧ placeholders ps = names.map .named ∧
        Rewritten statement ps (names.map source.field) b) ∧
    (∀ args b, args.any Json.isArray = true →
      (∀ ps, parse statement = .ok ps → hasIndexed ps = false) →
      bindPositional statement args = .ok b →
      ∃ ps, parse statement = .ok ps ∧ placeholders ps = List.replicate args.length .positional ∧
        Rewritten statement ps args b) := by
  constructor
  · intro source b h
    obtain ⟨ps, hparse, hpositional, hindexed, rfl⟩ := bindNamed_cases h
    obtain ⟨names, hnames⟩ := placeholders_all_named hpositional hindexed
    refine ⟨ps, names, hparse, hnames, ?_⟩
    have hvalues : (placeholders ps).map (lookup source) = names.map source.field := by
      rw [hnames, List.map_map]
      rfl
    rw [hvalues]
    exact rewritten_bindMarkers hparse (by simp [hnames])
  · intro args b harray hfixed h
    rcases bindPositional_cases h with ⟨hnone, -⟩ | ⟨ps, -, hparse, hnamed, hcase⟩
    · rw [harray] at hnone
      cases hnone
    rcases hcase with ⟨hindexed, -⟩ | ⟨hindexed, hlen, rfl⟩
    · rw [hfixed ps hparse] at hindexed
      cases hindexed
    refine ⟨ps, hparse, ?_, rewritten_bindMarkers hparse hlen⟩
    rw [hlen]
    exact placeholders_all_positional hnamed hindexed

/-- A list that becomes three marks, a name with a dot behind it, and quoted text. -/
def namedSample : String := "SELECT ':x' FROM t WHERE id IN (:ids) AND n = :user.id. -- :y"

def namedSampleSource : Json :=
  .obj [("ids", .arr [.int 7, .int 8, .int 9]), ("user", .obj [("id", .str "u")])]

def positionalSample : String := "a = ? AND b IN (?) -- ?"

def positionalSampleArgs : List Json := [.int 1, .arr [.str "x", .arr []]]

theorem binding_rewrites_samples :
    (∃ (ps : List Piece) (names : List String),
      parse namedSample = .ok ps ∧ placeholders ps = names.map .named ∧
      Rewritten namedSample ps (names.map namedSampleSource.field)
        ⟨"SELECT ':x' FROM t WHERE id IN (?,?,?) AND n = ?. -- :y",
          [.int 7, .int 8, .int 9, .str "u"]⟩) ∧
    (positionalSampleArgs.any Json.isArray = true ∧
      ∃ ps, parse positionalSample = .ok ps ∧
        placeholders ps = List.replicate positionalSampleArgs.length .positional ∧
        Rewritten positionalSample ps positionalSampleArgs
          ⟨"a = ? AND b IN (?,?) -- ?", [.int 1, .str "x", .arr []]⟩) := by
  refine ⟨(binding_rewrites_placeholders namedSample).1 namedSampleSource _ ?_, rfl,
    (binding_rewrites_placeholders positionalSample).2 positionalSampleArgs _ rfl ?_ ?_⟩
  · rfl
  · intro ps hps
    cases hps
    rfl
  · rfl

end QueryCatalog.Statement
