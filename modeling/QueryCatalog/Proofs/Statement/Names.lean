import QueryCatalog.Proofs.Statement.Agreement
import QueryCatalog.Proofs.Statement.Lexemes

/-!
Where names end. Dots may stand within a name; of those behind it the last one alone is given back
to the text, so that a name keeps all others.
-/
namespace QueryCatalog.Statement

/-! What stands behind a piece. -/

/-- Each of the pieces stands in the relation to the text behind it, if the given text follows. -/
def Followed (P : Piece → List Char → Prop) : List Piece → List Char → Prop
  | [], _ => True
  | p :: ps, rest => P p (textOf ps ++ rest) ∧ Followed P ps rest

variable {P : Piece → List Char → Prop}

theorem followed_append (ps qs : List Piece) (rest : List Char) :
    Followed P (ps ++ qs) rest ↔ Followed P ps (textOf qs ++ rest) ∧ Followed P qs rest := by
  induction ps with
  | nil => exact ⟨fun h => ⟨trivial, h⟩, fun h => h.2⟩
  | cons p ps ih => simp only [List.cons_append, Followed, ih, textOf_append, List.append_assoc,
      and_assoc]

theorem Followed.at_split {ps before after : List Piece} {p : Piece} {rest : List Char}
    (h : Followed P ps rest) (hsplit : ps = before ++ p :: after) : P p (textOf after ++ rest) := by
  rw [hsplit, followed_append] at h
  exact h.2.1

/-- Of what a step gives out, and of what is held back in the end, nothing else need be known. -/
theorem followed_feed {I : Mode → Prop} (hkeep : ∀ m c, I m → I (step m c).1)
    (hstep : ∀ m c cs, I m → Followed P (step m c).2 (textOf (step m c).1.held ++ cs))
    (hheld : ∀ m, I m → Followed P m.held []) {m : Mode} (hm : I m) (cs : List Char) :
    Followed P ((feed m cs).2 ++ (feed m cs).1.held) [] := by
  induction cs generalizing m with
  | nil => exact hheld m hm
  | cons c cs ih =>
    have hfirst := hstep m c cs hm
    rw [← textOf_feed, ← textOf_append, ← List.append_nil (textOf _)] at hfirst
    rw [feed_cons, List.append_assoc, followed_append]
    exact ⟨hfirst, ih (hkeep m c hm)⟩

/-! Names and the dots behind them. -/

/-- Behind the stem of a name stand so many dots and then no part of a name. The name has all of
these dots but the last. -/
def KeepsDots (name rest : List Char) : Prop :=
  ∃ stem dots tail, stem ≠ [] ∧ stem.getLast? ≠ some '.' ∧ tail.head?.any isNamePart = false ∧
    name = stem ++ List.replicate (dots - 1) '.' ∧
    rest = List.replicate (min dots 1) '.' ++ tail

def NamesKeepDots : Piece → List Char → Prop
  | .marker (.named name) _, rest => KeepsDots name.toList rest
  | _, _ => True

theorem followed_of_unnamed {ps : List Piece} (h : hasNamed ps = false) (rest : List Char) :
    Followed NamesKeepDots ps rest := by
  induction ps with
  | nil => trivial
  | cons p ps ih =>
    cases p with
    | plain c => exact ⟨trivial, ih h⟩
    | marker p text =>
      rw [hasNamed, placeholders_marker, List.any_cons, Bool.or_eq_false_iff] at h
      cases p with
      | positional => exact ⟨trivial, ih h.2⟩
      | indexed index => exact ⟨trivial, ih h.2⟩
      | named name => cases h.1

theorem hasNamed_append (ps qs : List Piece) :
    hasNamed (ps ++ qs) = (hasNamed ps || hasNamed qs) := by
  rw [hasNamed, placeholders_append, List.any_append]
  rfl

theorem hasNamed_plainChars (cs : List Char) : hasNamed (plainChars cs) = false := by
  rw [hasNamed, placeholders_plainChars]
  rfl

theorem hasNamed_questionPieces (digits : List Char) : hasNamed (questionPieces digits) = false := by
  unfold questionPieces
  split_ifs
  · rfl
  · split
    · rfl
    · exact hasNamed_plainChars _

theorem hasNamed_enter (c : Char) : hasNamed (enter c).2 = false := by
  unfold enter
  split_ifs <;> rfl

theorem hasNamed_release {ps : List Piece} (h : hasNamed ps = false) (c : Char) :
    hasNamed (release ps c).2 = false := by
  rw [release_eq, hasNamed_append, h, hasNamed_enter]
  rfl

/-- Only a name that is held back is given out as one. -/
theorem hasNamed_step {m : Mode} (hm : ∀ held, m ≠ .name held) (c : Char) :
    hasNamed (step m c).2 = false := by
  cases m with
  | name held => exact absurd rfl (hm held)
  | code => exact hasNamed_enter c
  | dash | slash | quoteEnd =>
    simp only [step]
    split_ifs <;> first | rfl | exact hasNamed_enter c
  | colon =>
    simp only [step]
    split_ifs
    · rfl
    · rfl
    · exact hasNamed_release rfl c
  | question digits =>
    simp only [step]
    split_ifs
    · rfl
    · exact hasNamed_release (hasNamed_questionPieces digits) c
  | lineComment | blockComment | blockStar | quoted | escaped => rfl

/-- A name that is held back does not consist of dots alone. -/
def Mode.stemHeld : Mode → Prop
  | .name held => ∃ c ∈ held, c ≠ '.'
  | _ => True

theorem stemHeld_enter (c : Char) : (enter c).1.stemHeld := by
  unfold enter
  split_ifs <;> trivial

theorem stemHeld_step {m : Mode} (c : Char) (hm : m.stemHeld) : (step m c).1.stemHeld := by
  have henter := stemHeld_enter c
  cases m with
  | code => exact henter
  | escaped => trivial
  | colon =>
    simp only [step]
    split_ifs with _ hstart
    · trivial
    · refine ⟨c, List.mem_singleton_self c, ?_⟩
      rintro rfl
      exact absurd hstart (by decide)
    · exact henter
  | name held =>
    simp only [step]
    split_ifs
    · obtain ⟨d, hd, hne⟩ := hm
      exact ⟨d, List.mem_cons_of_mem c hd, hne⟩
    · exact henter
  | _ =>
    simp only [step, release]
    split_ifs <;> first | exact henter | trivial

/-- The dots that were read last, before them the stem. -/
theorem stem_of_held {held : List Char} (h : ∃ c ∈ held, c ≠ '.') :
    ∃ stem dots, stem ≠ [] ∧ stem.getLast? ≠ some '.' ∧
      held.reverse = stem ++ List.replicate dots '.' := by
  induction held with
  | nil => simp at h
  | cons c held ih =>
    by_cases hdot : c = '.'
    · obtain ⟨d, hd, hne⟩ := h
      obtain ⟨stem, dots, hstem, hlast, heq⟩ :=
        ih ⟨d, (List.mem_cons.mp hd).resolve_left (hdot ▸ hne), hne⟩
      refine ⟨stem, dots + 1, hstem, hlast, ?_⟩
      rw [List.reverse_cons, heq, hdot, List.append_assoc, ← List.replicate_succ']
    · refine ⟨(c :: held).reverse, 0, by simp, ?_, (List.append_nil _).symm⟩
      rw [List.getLast?_reverse, List.head?_cons]
      exact fun heq => hdot (Option.some.inj heq)

theorem followed_namePieces {held rest : List Char} (hheld : ∃ c ∈ held, c ≠ '.')
    (hrest : rest.head?.any isNamePart = false) :
    Followed NamesKeepDots (namePieces held) rest := by
  obtain ⟨stem, dots, hstem, hlast, heq⟩ := stem_of_held hheld
  rw [← List.reverse_reverse held, heq]
  cases dots with
  | zero =>
    rw [List.replicate_zero, List.append_nil, namePieces_reverse hlast]
    exact ⟨⟨stem, 0, rest, hstem, hlast, hrest, by simp, by simp [textOf]⟩, trivial⟩
  | succ dots =>
    rw [List.replicate_succ', ← List.append_assoc, List.reverse_concat, namePieces,
      List.reverse_reverse]
    exact ⟨⟨stem, dots + 1, rest, hstem, hlast, hrest, by simp, by simp [Piece.chars]⟩, trivial,
      trivial⟩

theorem followed_step (m : Mode) (c : Char) (cs : List Char) (hm : m.stemHeld) :
    Followed NamesKeepDots (step m c).2 (textOf (step m c).1.held ++ cs) := by
  cases m with
  | name held =>
    by_cases hpart : isNamePart c = true
    · rw [step, if_pos hpart]
      trivial
    · rw [step, if_neg hpart, release_eq, followed_append, ← List.append_assoc, textOf_enter]
      exact ⟨followed_namePieces hm (by simpa using hpart),
        followed_of_unnamed (hasNamed_enter c) _⟩
  | _ => exact followed_of_unnamed (hasNamed_step (by simp) c) _

theorem followed_held (m : Mode) (hm : m.stemHeld) : Followed NamesKeepDots m.held [] := by
  cases m with
  | name held => exact followed_namePieces hm rfl
  | question digits => exact followed_of_unnamed (hasNamed_questionPieces digits) []
  | _ => exact followed_of_unnamed rfl []

theorem followed_pieces {text : List Char} {ps : List Piece} (h : pieces text = .ok ps) :
    Followed NamesKeepDots ps [] := by
  obtain ⟨-, rfl⟩ := (pieces_eq_ok_iff text ps).mp h
  have hstart : Mode.code.stemHeld := trivial
  exact followed_feed (fun m c => stemHeld_step c) followed_step followed_held hstart text

theorem getLast?_stem_dots {stem : List Char} (hlast : stem.getLast? ≠ some '.') (dots : Nat) :
    (stem ++ List.replicate dots '.').getLast? = some '.' ↔ 0 < dots := by
  cases dots with
  | zero => simp [hlast]
  | succ dots => simp [List.replicate_succ']

/-- The dots behind a name are given back to the text one only: with two or more of them, the name
ends in a dot. -/
theorem names_keep_dots {statement : String} {ps before after : List Piece} {name : String}
    {text : List Char} (h : parse statement = .ok ps)
    (hsplit : ps = before ++ .marker (.named name) text :: after) :
    ∃ stem dots tail, statement.toList =
        textOf before ++ ':' :: (stem ++ List.replicate dots '.' ++ tail) ∧
      stem ≠ [] ∧ stem.getLast? ≠ some '.' ∧ tail.head?.any isNamePart = false ∧
      name.toList = stem ++ List.replicate (dots - 1) '.' ∧
      textOf after = List.replicate (min dots 1) '.' ++ tail ∧
      (name.toList.getLast? = some '.' ↔ 2 ≤ dots) := by
  have hfollowed : KeepsDots name.toList (textOf after ++ []) :=
    (followed_pieces h).at_split hsplit
  have hspelled : text = ':' :: name.toList :=
    spelled_pieces h (.marker (.named name) text) (by simp [hsplit])
  obtain ⟨stem, dots, tail, hstem, hlast, htail, hname, hafter⟩ := hfollowed
  rw [List.append_nil] at hafter
  refine ⟨stem, dots, tail, ?_, hstem, hlast, htail, hname, hafter, ?_⟩
  · have hdots : List.replicate (dots - 1) '.' ++ List.replicate (min dots 1) '.' =
        List.replicate dots '.' := by
      rw [List.replicate_append_replicate]
      congr 1
      omega
    rw [← textOf_pieces h, hsplit, textOf_append, textOf_cons, Piece.chars, hspelled, hname,
      hafter, ← hdots]
    simp only [List.append_assoc, List.cons_append]
  · rw [hname, getLast?_stem_dots hlast]
    omega

/-- A range whose ends are bound by names. -/
def rangeSample : String := "id IN (:lo..:hi.)"

def rangePieces : List Piece :=
  plainChars "id IN (".toList ++ .marker (.named "lo.") ":lo.".toList ::
    (plainChars ".".toList ++ .marker (.named "hi") ":hi".toList :: plainChars ".)".toList)

theorem range_keeps_dots :
    parse rangeSample = .ok rangePieces ∧
      ∃ stem dots tail, rangeSample.toList =
          "id IN (".toList ++ ':' :: (stem ++ List.replicate dots '.' ++ tail) ∧
        stem ≠ [] ∧ stem.getLast? ≠ some '.' ∧ tail.head?.any isNamePart = false ∧
        "lo.".toList = stem ++ List.replicate (dots - 1) '.' ∧
        ".:hi.)".toList = List.replicate (min dots 1) '.' ++ tail ∧
        ("lo.".toList.getLast? = some '.' ↔ 2 ≤ dots) := by
  have hparse : parse rangeSample = .ok rangePieces := by decide +kernel
  exact ⟨hparse, names_keep_dots hparse rfl⟩

/-- The lower end of the range is looked up with a dot, and so it binds null. -/
theorem lower_end_is_lost :
    (∃ ps, parse rangeSample = .ok ps ∧ .named "lo." ∈ placeholders ps) ∧
      bindNamed rangeSample (.obj [("lo", .int 1), ("hi", .int 5)]) =
        .ok ⟨"id IN (?.?.)", [.null, .int 5]⟩ :=
  ⟨⟨rangePieces, by decide +kernel, by decide⟩, rfl⟩

end QueryCatalog.Statement
