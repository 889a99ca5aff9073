import QueryCatalog.Proofs.Statement.Binding

/-!
The ways of binding agree with each other. A statement of names is bound as the same statement with
question marks is bound to what the names stand for, and a statement that is not read because no
argument is an array would come out of the reading as it is.
-/
namespace QueryCatalog.Statement

/-! How placeholders are written. -/

/-- Zeros may stand before an index. -/
def Spells : Placeholder → List Char → Prop
  | .positional, text => text = ['?']
  | .indexed index, text => ∃ digits, text = '?' :: digits ∧ digits.all Char.isDigit = true ∧
      Text.word? digits = some index
  | .named name, text => text = ':' :: name.toList

def Piece.Spelled : Piece → Prop
  | .plain _ => True
  | .marker p text => Spells p text

/-- What is held back after a question mark are digits. -/
def Mode.digitsHeld : Mode → Bool
  | .question digits => digits.all Char.isDigit
  | _ => true

theorem spelled_plainChars (cs : List Char) : ∀ q ∈ plainChars cs, q.Spelled := by
  intro q hq
  obtain ⟨c, -, rfl⟩ := List.mem_map.mp hq
  trivial

theorem spelled_namePieces (held : List Char) : ∀ q ∈ namePieces held, q.Spelled := by
  intro q hq
  unfold namePieces at hq
  split at hq
  · rcases List.mem_cons.mp hq with rfl | hdot
    · simp [Piece.Spelled, Spells]
    · rw [List.mem_singleton.mp hdot]
      trivial
  · rw [List.mem_singleton.mp hq]
    simp [Piece.Spelled, Spells]

theorem spelled_questionPieces {digits : List Char} (h : digits.all Char.isDigit = true) :
    ∀ q ∈ questionPieces digits, q.Spelled := by
  intro q hq
  unfold questionPieces at hq
  split_ifs at hq with hempty
  · rw [List.mem_singleton.mp hq, List.isEmpty_iff.mp hempty]
    rfl
  · split at hq
    · rename_i index hindex
      rw [List.mem_singleton.mp hq]
      exact ⟨digits.reverse, rfl, by simpa using h, hindex⟩
    · exact spelled_plainChars _ q hq

theorem spelled_held {m : Mode} (hm : m.digitsHeld = true) : ∀ q ∈ m.held, q.Spelled := by
  cases m with
  | colon => exact spelled_plainChars [':']
  | name held => exact spelled_namePieces held
  | question digits => exact spelled_questionPieces hm
  | _ => exact fun _ hq => absurd hq List.not_mem_nil

theorem spelled_enter (c : Char) :
    (∀ q ∈ (enter c).2, q.Spelled) ∧ (enter c).1.digitsHeld = true := by
  unfold enter
  split_ifs
  · exact ⟨fun _ hq => absurd hq List.not_mem_nil, rfl⟩
  · exact ⟨fun _ hq => absurd hq List.not_mem_nil, rfl⟩
  all_goals exact ⟨spelled_plainChars [c], rfl⟩

theorem spelled_release {ps : List Piece} (hps : ∀ q ∈ ps, q.Spelled) (c : Char) :
    (∀ q ∈ (release ps c).2, q.Spelled) ∧ (release ps c).1.digitsHeld = true := by
  obtain ⟨hout, hmode⟩ := spelled_enter c
  exact ⟨List.forall_mem_append.mpr ⟨hps, hout⟩, hmode⟩

theorem spelled_step {m : Mode} (hm : m.digitsHeld = true) (c : Char) :
    (∀ q ∈ (step m c).2, q.Spelled) ∧ (step m c).1.digitsHeld = true := by
  have henter := spelled_enter c
  have hplain : ∀ q ∈ [Piece.plain c], q.Spelled := spelled_plainChars [c]
  have hnone : ∀ q ∈ ([] : List Piece), q.Spelled := fun _ hq => absurd hq List.not_mem_nil
  cases m with
  | code => exact henter
  | escaped => exact ⟨hplain, rfl⟩
  | colon =>
    simp only [step]
    split_ifs
    · exact ⟨spelled_plainChars [':', c], rfl⟩
    · exact ⟨hnone, rfl⟩
    · exact spelled_release (spelled_plainChars [':']) c
  | name held =>
    simp only [step]
    split_ifs
    · exact ⟨hnone, rfl⟩
    · exact spelled_release (spelled_namePieces held) c
  | question digits =>
    simp only [step]
    split_ifs with hdigit
    · exact ⟨hnone, by simpa [Mode.digitsHeld, hdigit] using hm⟩
    · exact spelled_release (spelled_questionPieces hm) c
  | _ =>
    simp only [step]
    split_ifs <;> first | exact henter | exact ⟨hplain, rfl⟩

theorem spelled_feed {m : Mode} (hm : m.digitsHeld = true) (cs : List Char) :
    (∀ q ∈ (feed m cs).2, q.Spelled) ∧ (feed m cs).1.digitsHeld = true := by
  induction cs generalizing m with
  | nil => exact ⟨fun _ hq => absurd hq List.not_mem_nil, hm⟩
  | cons c cs ih =>
    obtain ⟨hfirst, hnext⟩ := spelled_step hm c
    obtain ⟨hrest, hlast⟩ := ih hnext
    exact ⟨List.forall_mem_append.mpr ⟨hfirst, hrest⟩, hlast⟩

/-- Each placeholder has the text that means it. -/
theorem spelled_pieces {text : List Char} {ps : List Piece} (h : pieces text = .ok ps) :
    ∀ q ∈ ps, q.Spelled := by
  obtain ⟨-, rfl⟩ := (pieces_eq_ok_iff text ps).mp h
  obtain ⟨hfed, hmode⟩ := spelled_feed (m := .code) rfl text
  exact List.forall_mem_append.mpr ⟨hfed, spelled_held hmode⟩

/-! Scalars leave one mark for each placeholder. -/

theorem expand_scalar {v : Json} (h : v.isArray = false) : expand v = [v] := by
  cases v with
  | arr items => cases h
  | _ => rfl

theorem flatMap_expand_scalars {values : List Json} (h : values.any Json.isArray = false) :
    values.flatMap expand = values := by
  induction values with
  | nil => rfl
  | cons v values ih =>
    rw [List.any_cons, Bool.or_eq_false_iff] at h
    rw [List.flatMap_cons, expand_scalar h.1, ih h.2]
    rfl

/-- The text with a question mark for each placeholder. -/
def questioned (ps : List Piece) : List Char :=
  weave (gaps ps) ((placeholders ps).map fun _ => ['?'])

@[simp] theorem questioned_nil : questioned [] = [] := rfl

@[simp] theorem questioned_plain (c : Char) (ps : List Piece) :
    questioned (.plain c :: ps) = c :: questioned ps :=
  weave_cons_modifyHead c _ _ (gaps_ne_nil ps)

@[simp] theorem questioned_marker (p : Placeholder) (cs : List Char) (ps : List Piece) :
    questioned (.marker p cs :: ps) = '?' :: questioned ps := rfl

theorem markedText_scalars (ps : List Piece) {values : List Json}
    (h : values.any Json.isArray = false) : markedText ps values = questioned ps := by
  induction ps, values using markedText.induct with
  | case1 values => rfl
  | case2 c rest values ih => rw [markedText, questioned_plain, ih h]
  | case3 p cs rest ih => rw [markedText, questioned_marker, ih h]
  | case4 p cs rest v values ih =>
    rw [List.any_cons, Bool.or_eq_false_iff] at h
    rw [markedText, questioned_marker, ih h.2, expand_scalar h.1]
    rfl

theorem bindMarkers_scalars (ps : List Piece) {values : List Json}
    (h : values.any Json.isArray = false) :
    bindMarkers ps values = ⟨String.ofList (questioned ps), values⟩ := by
  rw [bindMarkers, markedText_scalars ps h, flatMap_expand_scalars h]

/-! Names and question marks. -/

theorem placeholders_remarked_none (ps : List Piece) :
    placeholders (remarked ps []) = List.replicate (placeholders ps).length .positional := by
  induction ps with
  | nil => rfl
  | cons p ps ih =>
    cases p with
    | plain c => simpa [remarked] using ih
    | marker p cs => simpa [remarked, questionMark, List.replicate_succ] using ih

/-- Question marks are written anew as any placeholders are in their places. -/
theorem markedText_remarked_none (ps : List Piece) (values : List Json) :
    markedText (remarked ps []) values = markedText ps values := by
  induction ps generalizing values with
  | nil => rfl
  | cons p ps ih =>
    cases p with
    | plain c => rw [remarked, markedText, markedText, ih]
    | marker p cs =>
      cases values with
      | nil => rw [remarked, questionMark, markedText, markedText, ih]
      | cons v values => rw [remarked, questionMark, markedText, markedText, ih]

theorem pieces_questioned {text : List Char} {ps : List Piece} (h : pieces text = .ok ps) :
    pieces (questioned ps) = .ok (remarked ps []) := by
  have hnone : markedText ps [] = questioned ps := markedText_scalars ps rfl
  rw [← hnone]
  exact pieces_markedText h []

theorem any_of_replicate {ps : List Piece} {n : Nat}
    (h : placeholders ps = List.replicate n .positional) {f : Placeholder → Bool}
    (hf : f .positional = false) : (placeholders ps).any f = false := by
  rw [h, List.any_eq_false]
  intro p hp
  rw [List.eq_of_mem_replicate hp, hf]
  exact Bool.false_ne_true

/-- Over question marks instead of its placeholders a statement is bound in the same way. -/
theorem bindPositional_questioned {text : List Char} {ps : List Piece} (h : pieces text = .ok ps)
    {values : List Json} (hlen : values.length = (placeholders ps).length) :
    bindPositional (String.ofList (questioned ps)) values = .ok (bindMarkers ps values) := by
  unfold bindPositional
  split_ifs with harray
  · have hmarks := placeholders_remarked_none ps
    have hnamed : hasNamed (remarked ps []) = false := any_of_replicate hmarks rfl
    have hindexed : hasIndexed (remarked ps []) = false := any_of_replicate hmarks rfl
    have hcount : (placeholders (remarked ps [])).length = values.length := by
      rw [hmarks, List.length_replicate, hlen]
    rw [parse, String.toList_ofList, pieces_questioned h, Except.bind, bindPieces, hnamed, hindexed]
    simp [hcount, bindMarkers, markedText_remarked_none]
  · rw [bindMarkers_scalars ps (by simpa using harray)]

theorem markerTexts_named {ps : List Piece} {names : List String}
    (hspelled : ∀ q ∈ ps, q.Spelled) (hnames : placeholders ps = names.map .named) :
    markerTexts ps = names.map fun name => ':' :: name.toList := by
  induction ps generalizing names with
  | nil =>
    obtain rfl := List.map_eq_nil_iff.mp hnames.symm
    rfl
  | cons p ps ih =>
    have hrest : ∀ q ∈ ps, q.Spelled := fun q hq => hspelled q (List.mem_cons_of_mem _ hq)
    cases p with
    | plain c => exact ih hrest hnames
    | marker p cs =>
      cases names with
      | nil => cases hnames
      | cons name names =>
        obtain ⟨rfl, htail⟩ := List.cons.inj hnames
        have htext : cs = ':' :: name.toList := hspelled _ List.mem_cons_self
        rw [markerTexts, ih hrest htail, htext]
        rfl

/-- A statement is bound by names just as it is bound by position with a question mark for each name
and what the names stand for as arguments. -/
theorem bound_by_names_as_by_marks {statement : String} {source : Json} {b : BoundStatement}
    (h : bindNamed statement source = .ok b) :
    ∃ (ps : List Piece) (names : List String),
      parse statement = .ok ps ∧ placeholders ps = names.map .named ∧
      statement.toList = weave (gaps ps) (names.map fun name => ':' :: name.toList) ∧
      bindPositional (String.ofList (weave (gaps ps) (names.map fun _ => ['?'])))
        (names.map source.field) = .ok b := by
  obtain ⟨ps, hparse, hpositional, hindexed, rfl⟩ := bindNamed_cases h
  obtain ⟨names, hnames⟩ := placeholders_all_named hpositional hindexed
  have hvalues : (placeholders ps).map (lookup source) = names.map source.field := by
    rw [hnames, List.map_map]
    rfl
  have hmarks : weave (gaps ps) (names.map fun _ => ['?']) = questioned ps := by
    rw [questioned, hnames, List.map_map]
    rfl
  refine ⟨ps, names, hparse, hnames, ?_, ?_⟩
  · rw [← markerTexts_named (spelled_pieces hparse) hnames, ← textOf_eq_weave,
      textOf_pieces hparse]
  · rw [hvalues, hmarks]
    exact bindPositional_questioned hparse (by simp [hnames])

/-- A list, a path that leads nowhere, and names in quotes and in a comment. -/
def teamSample : String := "id IN (:ids) AND team = :user.team AND note <> ':x' -- :y"

def teamSource : Json := .obj [("ids", .arr [.int 7, .int 8]), ("user", .obj [])]

def teamBound : BoundStatement :=
  ⟨"id IN (?,?) AND team = ? AND note <> ':x' -- :y", [.int 7, .int 8, .null]⟩

theorem bound_by_names_as_by_marks_team :
    bindNamed teamSample teamSource = .ok teamBound ∧
    ∃ (ps : List Piece) (names : List String),
      parse teamSample = .ok ps ∧ placeholders ps = names.map .named ∧
      teamSample.toList = weave (gaps ps) (names.map fun name => ':' :: name.toList) ∧
      bindPositional (String.ofList (weave (gaps ps) (names.map fun _ => ['?'])))
        (names.map teamSource.field) = .ok teamBound :=
  ⟨rfl, bound_by_names_as_by_marks rfl⟩

/-! A statement that is not read. -/

/-- Binding by position without the exit for arguments that are no arrays. -/
def bindByReading (statement : String) (args : List Json) : Except StatementError BoundStatement :=
  (parse statement).bind (bindPieces statement args)

/-- What binding by position asks of the placeholders. -/
structure Suits (ps : List Piece) (args : List Json) : Prop where
  unnamed : hasNamed ps = false
  unmixed : hasIndexed ps = true → hasPositional ps = false
  counted : hasIndexed ps = false → (placeholders ps).length = args.length

theorem bindPieces_eq_ok_iff {statement : String} {args : List Json} {ps : List Piece}
    {b : BoundStatement} : bindPieces statement args ps = .ok b ↔
      Suits ps args ∧ b = if hasIndexed ps then ⟨statement, args⟩ else bindMarkers ps args := by
  unfold bindPieces
  cases hnamed : hasNamed ps with
  | true => exact ⟨nofun, fun h => absurd (h.1.unnamed.symm.trans hnamed) Bool.false_ne_true⟩
  | false =>
    cases hindexed : hasIndexed ps with
    | true =>
      cases hpositional : hasPositional ps with
      | true =>
        exact ⟨nofun, fun h =>
          absurd ((h.1.unmixed hindexed).symm.trans hpositional) Bool.false_ne_true⟩
      | false =>
        have hsuits : Suits ps args := ⟨hnamed, fun _ => hpositional,
          fun hnone => absurd (hnone.symm.trans hindexed) Bool.false_ne_true⟩
        exact ⟨fun h => ⟨hsuits, (Except.ok.inj h).symm⟩, fun h => congrArg Except.ok h.2.symm⟩
    | false =>
      by_cases hcount : (placeholders ps).length = args.length
      · have hsuits : Suits ps args := ⟨hnamed,
          fun hsome => absurd (hindexed.symm.trans hsome) Bool.false_ne_true, fun _ => hcount⟩
        simp only [hcount, ne_eq, not_true_eq_false, Bool.false_eq_true, if_false]
        exact ⟨fun h => ⟨hsuits, (Except.ok.inj h).symm⟩, fun h => congrArg Except.ok h.2.symm⟩
      · simp only [ne_eq, hcount, not_false_eq_true, Bool.false_eq_true, if_true, if_false]
        exact ⟨nofun, fun h => absurd (h.1.counted hindexed) hcount⟩

/-- Where all placeholders are question marks there is nothing to replace. -/
theorem questioned_of_positional {ps : List Piece} (hspelled : ∀ q ∈ ps, q.Spelled)
    (hall : ∀ p ∈ placeholders ps, p = .positional) : questioned ps = textOf ps := by
  induction ps with
  | nil => rfl
  | cons p ps ih =>
    have hrest : ∀ q ∈ ps, q.Spelled := fun q hq => hspelled q (List.mem_cons_of_mem _ hq)
    cases p with
    | plain c => rw [questioned_plain, ih hrest hall, textOf_cons]; rfl
    | marker p cs =>
      obtain rfl : p = .positional := hall p List.mem_cons_self
      have htext : cs = ['?'] := hspelled _ List.mem_cons_self
      rw [questioned_marker, ih hrest fun q hq => hall q (List.mem_cons_of_mem _ hq), textOf_cons,
        htext]
      rfl

/-- Marks that are written anew for scalars are the marks that were there. -/
theorem bindMarkers_of_suits {statement : String} {args : List Json} {ps : List Piece}
    (hparse : parse statement = .ok ps) (hsuits : Suits ps args) (hindexed : hasIndexed ps = false)
    (hscalars : args.any Json.isArray = false) : bindMarkers ps args = ⟨statement, args⟩ := by
  have hall : ∀ p ∈ placeholders ps, p = .positional := by
    intro p hp
    rw [placeholders_all_positional hsuits.unnamed hindexed] at hp
    exact List.eq_of_mem_replicate hp
  rw [bindMarkers_scalars ps hscalars, questioned_of_positional (spelled_pieces hparse) hall,
    textOf_pieces hparse, String.ofList_toList]

/-- Without an array among the arguments a statement is bound as it is. If it were read it would be
accepted just when its placeholders suit the arguments, and come out as it is. -/
theorem unread_as_read {statement : String} {args : List Json}
    (hscalars : args.any Json.isArray = false) :
    bindPositional statement args = .ok ⟨statement, args⟩ ∧
      ∀ b, bindByReading statement args = .ok b ↔
        (∃ ps, parse statement = .ok ps ∧ Suits ps args) ∧ b = ⟨statement, args⟩ := by
  refine ⟨by simp [bindPositional, hscalars], fun b => ?_⟩
  unfold bindByReading
  cases hparse : parse statement with
  | error e => exact ⟨nofun, fun ⟨⟨ps, h, _⟩, _⟩ => by cases h⟩
  | ok ps =>
    have hbound : Suits ps args →
        (if hasIndexed ps then ⟨statement, args⟩ else bindMarkers ps args) =
          (⟨statement, args⟩ : BoundStatement) := by
      intro hsuits
      split_ifs with hindexed
      · rfl
      · exact bindMarkers_of_suits hparse hsuits (by simpa using hindexed) hscalars
    refine bindPieces_eq_ok_iff.trans ⟨?_, ?_⟩
    · rintro ⟨hsuits, rfl⟩
      exact ⟨⟨ps, rfl, hsuits⟩, hbound hsuits⟩
    · rintro ⟨⟨qs, hqs, hsuits⟩, rfl⟩
      obtain rfl := Except.ok.inj hqs
      exact ⟨hsuits, (hbound hsuits).symm⟩

/-- Question marks before a cast, in quotes and in a comment. -/
def scalarSample : String := "a = ? AND b = ?::int AND c <> '?' -- ?"

def scalarArgs : List Json := [.int 1, .str "?"]

theorem unread_as_read_sample :
    scalarArgs.any Json.isArray = false ∧
      bindPositional scalarSample scalarArgs = .ok ⟨scalarSample, scalarArgs⟩ ∧
      bindByReading scalarSample scalarArgs = .ok ⟨scalarSample, scalarArgs⟩ ∧
      bindByReading scalarSample [] ≠ .ok ⟨scalarSample, []⟩ := by
  refine ⟨rfl, (unread_as_read rfl).1, ((unread_as_read rfl).2 _).mpr ⟨⟨_, rfl, ?_⟩, rfl⟩, ?_⟩
  · exact ⟨rfl, nofun, fun _ => rfl⟩
  · nofun

end QueryCatalog.Statement
