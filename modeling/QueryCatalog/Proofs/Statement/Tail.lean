import Mathlib.Data.List.Induction
import QueryCatalog.Proofs.Statement.Rewriting
import QueryCatalog.Text.Blank

/-!
How the text of a statement ends, and how text after it is read. What is appended is code, unless
the statement ends in a line comment. Blanks and semicolons at the end can be left away without
any effect on the placeholders.
-/
namespace QueryCatalog.Statement

/-- Outside of quotes and comments. -/
def Mode.live : Mode → Bool
  | .lineComment => false
  | m => m.closed

/-- Two dashes stand outside of quotes and comments, and the line does not end after them. -/
def EndsInLineComment (text : List Char) : Prop :=
  ∃ before comment, text = before ++ '-' :: '-' :: comment ∧ '\n' ∉ comment ∧
    (feed .code before).1.live = true

theorem quoteKnown_enter (c : Char) : (enter c).1.quoteKnown = true := by
  unfold enter
  split_ifs with _ _ _ _ hquote <;> first | rfl | exact hquote

theorem quoteKnown_step {m : Mode} (h : m.quoteKnown = true) (c : Char) :
    (step m c).1.quoteKnown = true := by
  have henter := quoteKnown_enter c
  cases m with
  | code => exact henter
  | escaped => rfl
  | _ =>
    simp only [step, release]
    split_ifs <;> first | rfl | exact henter | exact h

theorem quoteKnown_feed {m : Mode} (h : m.quoteKnown = true) (cs : List Char) :
    (feed m cs).1.quoteKnown = true := by
  induction cs generalizing m with
  | nil => exact h
  | cons c cs ih => exact ih (quoteKnown_step h c)

/-- A character that is read alone when nothing is held back. -/
def isOrdinary (c : Char) : Bool := enter c == (.code, [.plain c])

theorem enter_ordinary {c : Char} (h : isOrdinary c = true) : enter c = (.code, [.plain c]) :=
  beq_iff_eq.mp h

theorem isOrdinary_of_isDigit {c : Char} (h : c.isDigit = true) : isOrdinary c = true :=
  beq_iff_eq.mpr (enter_digit h)

theorem feed_ordinary {cs : List Char} (h : cs.all isOrdinary = true) :
    feed .code cs = (.code, plainChars cs) := by
  induction cs with
  | nil => rfl
  | cons c cs ih =>
    rw [List.all_cons, Bool.and_eq_true] at h
    have hstep : step .code c = (.code, [.plain c]) := enter_ordinary h.1
    rw [feed_cons, hstep, ih h.2]
    rfl

/-- Blanks, semicolons and closing parentheses. They end a name, an index and a cast, and begin
nothing. -/
def isBreak (c : Char) : Bool := Text.isBlank c || c == ';' || c == ')'

def blankCodes : List Nat :=
  [9, 10, 11, 12, 13, 0x20, 0x85, 0xA0, 0x1680, 0x2000, 0x2001, 0x2002, 0x2003, 0x2004, 0x2005,
    0x2006, 0x2007, 0x2008, 0x2009, 0x200A, 0x2028, 0x2029, 0x202F, 0x205F, 0x3000]

theorem mem_blankCodes {c : Char} (h : Text.isBlank c = true) : c.toNat ∈ blankCodes := by
  simp only [Text.isBlank, Bool.or_eq_true, Bool.and_eq_true, decide_eq_true_eq,
    beq_iff_eq] at h
  simp only [blankCodes, List.mem_cons, List.not_mem_nil, or_false]
  omega

theorem isNamePart_of_isBreak {c : Char} (h : isBreak c = true) : isNamePart c = false := by
  have hcode : c.toNat ∈ ';'.toNat :: ')'.toNat :: blankCodes := by
    simp only [isBreak, Bool.or_eq_true, beq_iff_eq] at h
    rcases h with (h | rfl) | rfl
    · exact List.mem_cons_of_mem _ (List.mem_cons_of_mem _ (mem_blankCodes h))
    · exact List.mem_cons_self
    · exact List.mem_cons_of_mem _ List.mem_cons_self
  have hall : ∀ n ∈ ';'.toNat :: ')'.toNat :: blankCodes, isNamePart (Char.ofNat n) = false := by
    decide +kernel
  have hchar := hall _ hcode
  rwa [Char.ofNat_toNat] at hchar

theorem ne_of_isBreak {c d : Char} (h : isBreak c = true) (hd : isBreak d = false) : c ≠ d := by
  rintro rfl
  rw [h] at hd
  cases hd

theorem isQuote_of_isBreak {c : Char} (h : isBreak c = true) : isQuote c = false := by
  simp [isQuote, ne_of_isBreak h (d := '\'') (by decide), ne_of_isBreak h (d := '"') (by decide),
    ne_of_isBreak h (d := '`') (by decide)]

theorem isOrdinary_of_isBreak {c : Char} (h : isBreak c = true) : isOrdinary c = true := by
  simp [isOrdinary, enter, isQuote_of_isBreak h, ne_of_isBreak h (d := ':') (by decide),
    ne_of_isBreak h (d := '?') (by decide), ne_of_isBreak h (d := '-') (by decide),
    ne_of_isBreak h (d := '/') (by decide)]

theorem ne_quote_of_isBreak {c quote : Char} (h : isBreak c = true) (hq : isQuote quote = true) :
    c ≠ quote := by
  rintro rfl
  rw [isQuote_of_isBreak h] at hq
  cases hq

/-- A break is read alone, whatever was held back before it. -/
theorem step_break {m : Mode} {c : Char} (hc : isBreak c = true) (hm : m.live = true)
    (hq : m.quoteKnown = true) : step m c = (.code, m.held ++ [.plain c]) := by
  have henter := enter_ordinary (isOrdinary_of_isBreak hc)
  have hopen : Open m c := by
    have hpart := isNamePart_of_isBreak hc
    cases m with
    | code => exact open_code c
    | dash =>
      have hne := ne_of_isBreak hc (d := '-') (by decide)
      simp [Open, step, release, Mode.held, hne]
    | slash =>
      have hne := ne_of_isBreak hc (d := '*') (by decide)
      simp [Open, step, release, Mode.held, hne]
    | colon =>
      have hcast := ne_of_isBreak hc (d := ':') (by decide)
      have hassign := ne_of_isBreak hc (d := '=') (by decide)
      have hstart : isNameStart c = false := by
        simp only [isNamePart, Text.isIdentifier, Text.isAlphanumeric, Bool.or_eq_false_iff]
          at hpart
        simp [isNameStart, hpart]
      simp [Open, step, release, Mode.held, hcast, hassign, hstart]
    | name held => simp [Open, step, release, Mode.held, hpart]
    | question digits =>
      refine open_question ?_
      by_contra hdigit
      rw [isNamePart_of_isDigit (by simpa using hdigit)] at hpart
      cases hpart
    | quoteEnd quote =>
      have hne := ne_quote_of_isBreak hc hq
      simp [Open, step, release, Mode.held, hne]
    | lineComment => cases hm
    | blockComment => cases hm
    | blockStar => cases hm
    | quoted quote => cases hm
    | escaped => cases hm
  rw [hopen, release_eq, henter]

theorem closed_of_live {m : Mode} (h : m.live = true) : m.closed = true := by
  cases m with
  | lineComment => rfl
  | _ => exact h

theorem live_of_closed {m : Mode} (h : m.closed = true) (hcomment : m ≠ .lineComment) :
    m.live = true := by
  cases m with
  | lineComment => exact absurd rfl hcomment
  | _ => exact h

/-- A break neither closes nor opens a quote or a block comment, and it releases only what is held
back. -/
theorem step_break_keeps {m : Mode} {c : Char} (hc : isBreak c = true)
    (hq : m.quoteKnown = true) :
    (step m c).1.closed = m.closed ∧
      placeholders (step m c).2 ++ placeholders (step m c).1.held = placeholders m.held := by
  by_cases hlive : m.live = true
  · rw [step_break hc hlive hq, closed_of_live hlive]
    exact ⟨rfl, by simp [Mode.held]⟩
  have hstar : (c == '*') = false := beq_eq_false_iff_ne.mpr (ne_of_isBreak hc (by decide))
  have hslash : (c == '/') = false := beq_eq_false_iff_ne.mpr (ne_of_isBreak hc (by decide))
  have hback : (c == '\\') = false := beq_eq_false_iff_ne.mpr (ne_of_isBreak hc (by decide))
  -- within comments and quotes the character is written as it is
  obtain ⟨next, hstep, hclosed, hheld⟩ : ∃ next, step m c = (next, [.plain c]) ∧
      next.closed = m.closed ∧ placeholders next.held = placeholders m.held := by
    cases m with
    | lineComment => exact ⟨_, rfl, by split <;> rfl, by split <;> rfl⟩
    | blockComment => exact ⟨.blockComment, by rw [step, hstar]; rfl, rfl, rfl⟩
    | blockStar => exact ⟨.blockComment, by rw [step, hslash, hstar]; rfl, rfl, rfl⟩
    | quoted quote =>
      have hne : (c == quote) = false := beq_eq_false_iff_ne.mpr (ne_quote_of_isBreak hc hq)
      exact ⟨.quoted quote, by rw [step, hne, hback]; rfl, rfl, rfl⟩
    | escaped => exact ⟨_, rfl, rfl, rfl⟩
    | _ => exact absurd rfl hlive
  rw [hstep]
  exact ⟨hclosed, hheld⟩

theorem feed_breaks_keeps {m : Mode} {cs : List Char} (hcs : cs.all isBreak = true)
    (hq : m.quoteKnown = true) :
    (feed m cs).1.closed = m.closed ∧
      placeholders (feed m cs).2 ++ placeholders (feed m cs).1.held = placeholders m.held := by
  induction cs generalizing m with
  | nil => exact ⟨rfl, rfl⟩
  | cons c cs ih =>
    rw [List.all_cons, Bool.and_eq_true] at hcs
    obtain ⟨hclosed, hheld⟩ := step_break_keeps hcs.1 hq
    obtain ⟨hclosed', hheld'⟩ := ih hcs.2 (quoteKnown_step hq c)
    rw [feed_cons]
    refine ⟨hclosed'.trans hclosed, ?_⟩
    rw [placeholders_append, List.append_assoc, hheld', hheld]

@[simp] theorem placeholders_plainChars (cs : List Char) : placeholders (plainChars cs) = [] := by
  induction cs with
  | nil => rfl
  | cons c cs ih => exact ih

/-- A statement is accepted without the breaks at its end, and has the same placeholders. -/
theorem pieces_without_breaks {text tail : List Char} {ps : List Piece}
    (h : pieces (text ++ tail) = .ok ps) (htail : tail.all isBreak = true) :
    ∃ qs, pieces text = .ok qs ∧ placeholders qs = placeholders ps := by
  obtain ⟨hclosed, rfl⟩ := (pieces_eq_ok_iff _ _).mp h
  have hq := quoteKnown_feed (m := .code) rfl text
  obtain ⟨hkept, hheld⟩ := feed_breaks_keeps htail hq
  rw [feed_append] at hclosed ⊢
  refine ⟨_, (pieces_eq_ok_iff text _).mpr ⟨hkept.symm.trans hclosed, rfl⟩, ?_⟩
  rw [placeholders_append, placeholders_append, placeholders_append, List.append_assoc, hheld]

/-- A statement is accepted with ordinary text before it. -/
theorem pieces_after_ordinary {before text : List Char} {ps : List Piece}
    (hbefore : before.all isOrdinary = true) (h : pieces text = .ok ps) :
    pieces (before ++ text) = .ok (plainChars before ++ ps) := by
  obtain ⟨hclosed, rfl⟩ := (pieces_eq_ok_iff _ _).mp h
  rw [pieces_eq_ok_iff, feed_append, feed_ordinary hbefore]
  exact ⟨hclosed, (List.append_assoc _ _ _).symm⟩

theorem pieces_of_after_ordinary {before text : List Char} {ps : List Piece}
    (hbefore : before.all isOrdinary = true) (h : pieces (before ++ text) = .ok ps) :
    ∃ qs, pieces text = .ok qs ∧ ps = plainChars before ++ qs := by
  obtain ⟨hclosed, rfl⟩ := (pieces_eq_ok_iff _ _).mp h
  rw [feed_append, feed_ordinary hbefore] at hclosed ⊢
  exact ⟨_, (pieces_eq_ok_iff _ _).mpr ⟨hclosed, rfl⟩, List.append_assoc _ _ _⟩

theorem feed_lineComment {cs : List Char} (h : '\n' ∉ cs) :
    feed .lineComment cs = (.lineComment, plainChars cs) := by
  induction cs with
  | nil => rfl
  | cons c cs ih =>
    rw [List.mem_cons, not_or] at h
    have hstep : step .lineComment c = (.lineComment, [.plain c]) := by
      simp [step, Ne.symm h.1]
    rw [feed_cons, hstep, ih h.2]
    rfl

/-- Only a dash leads to the mode after a dash, and it stands outside of quotes and comments. -/
theorem live_of_step_dash {m : Mode} {c : Char} (h : (step m c).1 = .dash) :
    c = '-' ∧ m.live = true := by
  have henter : (enter c).1 = .dash → c = '-' := by
    intro he
    unfold enter at he
    split_ifs at he with _ _ hdash
    exact beq_iff_eq.mp hdash
  cases m with
  | code => exact ⟨henter h, rfl⟩
  | escaped => cases h
  | _ =>
    simp only [step, release] at h
    split_ifs at h <;> exact ⟨henter h, rfl⟩

theorem step_to_lineComment {m : Mode} {c : Char} (h : (step m c).1 = .lineComment) :
    (m = .dash ∧ c = '-') ∨ (m = .lineComment ∧ c ≠ '\n') := by
  have henter : (enter c).1 ≠ .lineComment := by
    unfold enter
    split_ifs <;> simp
  cases m with
  | dash =>
    simp only [step] at h
    split_ifs at h with hdash
    · exact .inl ⟨rfl, beq_iff_eq.mp hdash⟩
    · exact absurd h henter
  | lineComment =>
    simp only [step] at h
    split_ifs at h with hline
    exact .inr ⟨rfl, fun heq => hline (beq_iff_eq.mpr heq)⟩
  | code => exact absurd h henter
  | escaped => cases h
  | _ =>
    exfalso
    simp only [step, release] at h
    split_ifs at h <;> exact henter h

theorem feed_concat_fst (m : Mode) (cs : List Char) (c : Char) :
    (feed m (cs ++ [c])).1 = (step (feed m cs).1 c).1 := by
  rw [feed_append, feed_singleton]

/-- The reading of a text stands in a line comment exactly if the text ends in one. -/
theorem feed_eq_lineComment_iff (text : List Char) :
    (feed .code text).1 = .lineComment ↔ EndsInLineComment text := by
  constructor
  · intro h
    induction text using List.reverseRec with
    | nil => cases h
    | append_singleton text c ih =>
      rw [feed_concat_fst] at h
      rcases step_to_lineComment h with ⟨hdash, rfl⟩ | ⟨hcomment, hline⟩
      · -- the second of the two dashes; the first one is the last character before it
        rcases List.eq_nil_or_concat text with rfl | ⟨before, d, rfl⟩
        · cases hdash
        · rw [List.concat_eq_append, feed_concat_fst] at hdash
          obtain ⟨rfl, hlive⟩ := live_of_step_dash hdash
          exact ⟨before, [], by simp, by simp, hlive⟩
      · obtain ⟨before, comment, rfl, hnone, hlive⟩ := ih hcomment
        refine ⟨before, comment ++ [c], by simp, ?_, hlive⟩
        simp [hnone, Ne.symm hline]
  · rintro ⟨before, comment, rfl, hnone, hlive⟩
    have hq := quoteKnown_feed (m := .code) rfl before
    have hsecond : (step (step (feed .code before).1 '-').1 '-').1 = .lineComment := by
      have hfirst : (step (feed .code before).1 '-').1 = .dash ∨
          (step (feed .code before).1 '-').1 = .lineComment := by
        cases hm : (feed .code before).1 with
        | quoteEnd quote =>
          rw [hm] at hq
          have hne : '-' ≠ quote := by
            rintro rfl
            cases hq
          exact .inl (by simp [step, hne, enter])
        | dash => exact .inr rfl
        | name held =>
          have hpart : isNamePart '-' = false := by decide
          exact .inl (by simp [step, hpart, release, enter])
        | colon =>
          have hstart : isNameStart '-' = false := by decide
          exact .inl (by simp [step, hstart, release, enter])
        | code => exact .inl rfl
        | slash => exact .inl rfl
        | question digits => exact .inl (by simp [step, release, enter])
        | lineComment => rw [hm] at hlive; cases hlive
        | blockComment => rw [hm] at hlive; cases hlive
        | blockStar => rw [hm] at hlive; cases hlive
        | quoted quote => rw [hm] at hlive; cases hlive
        | escaped => rw [hm] at hlive; cases hlive
      rcases hfirst with h | h <;> rw [h] <;> rfl
    rw [feed_append, feed_cons, feed_cons, hsecond, feed_lineComment hnone]

theorem endsInLineComment_after_ordinary {before text : List Char}
    (hbefore : before.all isOrdinary = true) :
    EndsInLineComment (before ++ text) ↔ EndsInLineComment text := by
  rw [← feed_eq_lineComment_iff, ← feed_eq_lineComment_iff, feed_append, feed_ordinary hbefore]

/-- After a statement that does not end in a line comment, a break and the ordinary text behind it
are code. -/
theorem feed_append_break {text : List Char} (hclosed : (feed .code text).1.closed = true)
    (hend : ¬ EndsInLineComment text) {c : Char} (hc : isBreak c = true) {cs : List Char}
    (hcs : cs.all isOrdinary = true) :
    feed .code (text ++ c :: cs) =
      (.code, (feed .code text).2 ++ (feed .code text).1.held ++ plainChars (c :: cs)) := by
  have hlive : (feed .code text).1.live = true :=
    live_of_closed hclosed fun hcomment => hend ((feed_eq_lineComment_iff text).mp hcomment)
  have hbreak := step_break hc hlive (quoteKnown_feed rfl text)
  rw [feed_append, feed_cons, hbreak, feed_ordinary hcs]
  simp [plainChars]

theorem pieces_append_ordinary {text : List Char} {ps : List Piece} (h : pieces text = .ok ps)
    (hend : ¬ EndsInLineComment text) {c : Char} (hc : isBreak c = true) {cs : List Char}
    (hcs : cs.all isOrdinary = true) :
    pieces (text ++ c :: cs) = .ok (ps ++ plainChars (c :: cs)) := by
  obtain ⟨hclosed, rfl⟩ := (pieces_eq_ok_iff _ _).mp h
  rw [pieces_eq_ok_iff, feed_append_break hclosed hend hc hcs]
  exact ⟨rfl, by simp [Mode.held]⟩

/-- A question mark after such text is a placeholder. -/
theorem pieces_append_mark {text : List Char} {ps : List Piece} (h : pieces text = .ok ps)
    (hend : ¬ EndsInLineComment text) {c : Char} (hc : isBreak c = true) {cs : List Char}
    (hcs : cs.all isOrdinary = true) :
    pieces (text ++ c :: (cs ++ ['?'])) = .ok (ps ++ plainChars (c :: cs) ++ [questionMark]) := by
  obtain ⟨hclosed, rfl⟩ := (pieces_eq_ok_iff _ _).mp h
  have hsplit : text ++ c :: (cs ++ ['?']) = (text ++ c :: cs) ++ ['?'] := by simp
  have hmark : feed .code ['?'] = (.question [], []) := rfl
  rw [pieces_eq_ok_iff, hsplit, feed_append, feed_append_break hclosed hend hc hcs, hmark]
  exact ⟨rfl, by simp [held_question_nil]⟩

/-- After a statement that ends in a line comment, the rest of the line is comment too. -/
theorem pieces_append_comment {text cs : List Char} {ps : List Piece} (h : pieces text = .ok ps)
    (hend : EndsInLineComment text) (hcs : '\n' ∉ cs) :
    pieces (text ++ cs) = .ok (ps ++ plainChars cs) := by
  obtain ⟨hclosed, rfl⟩ := (pieces_eq_ok_iff _ _).mp h
  have hcomment := (feed_eq_lineComment_iff text).mpr hend
  rw [pieces_eq_ok_iff, feed_append, hcomment, feed_lineComment hcs]
  exact ⟨rfl, by simp [Mode.held]⟩

end QueryCatalog.Statement
