import QueryCatalog.Proofs.Statement.Scan
import QueryCatalog.Proofs.Text.Digits
import QueryCatalog.Statement.Binding
import Mathlib.Tactic.Common

/-!
A statement whose placeholders are written anew is read anew to the intended pieces. The scan of
the new text follows the scan of the old one and lags behind it by what the old scan holds back:
a `?` stands where the old text had the whole placeholder.
-/
namespace QueryCatalog.Statement

def questionMark : Piece := .marker .positional ['?']

/-- The pieces of question marks joined by commas. -/
def markPieces : Nat → List Piece
  | 0 => []
  | 1 => [questionMark]
  | n + 2 => questionMark :: .plain ',' :: markPieces (n + 1)

/-- The pieces of a statement whose placeholders are written anew for values. -/
def remarked : List Piece → List Json → List Piece
  | [], _ => []
  | .plain c :: rest, values => .plain c :: remarked rest values
  | .marker _ _ :: rest, [] => questionMark :: remarked rest []
  | .marker _ _ :: rest, v :: values => markPieces (expand v).length ++ remarked rest values

/-- The values that are left when those at the placeholders of pieces are taken away. -/
def leftover (ps : List Piece) (values : List Json) : List Json :=
  values.drop (placeholders ps).length

@[simp] theorem placeholders_nil : placeholders [] = [] := rfl

@[simp] theorem placeholders_plain (c : Char) (ps : List Piece) :
    placeholders (.plain c :: ps) = placeholders ps := rfl

@[simp] theorem placeholders_marker (p : Placeholder) (cs : List Char) (ps : List Piece) :
    placeholders (.marker p cs :: ps) = p :: placeholders ps := rfl

@[simp] theorem placeholders_append (ps qs : List Piece) :
    placeholders (ps ++ qs) = placeholders ps ++ placeholders qs := by
  simp [placeholders]

theorem expand_length_pos (v : Json) : 0 < (expand v).length := by
  unfold expand
  split
  · simp
  · next items h => cases items <;> simp_all
  · simp

theorem textOf_markPieces (n : Nat) : textOf (markPieces n) = marks n := by
  induction n using markPieces.induct with
  | case1 => rfl
  | case2 => rfl
  | case3 n ih => simp [markPieces, marks, questionMark, Piece.chars, ih]

theorem textOf_remarked (ps : List Piece) (values : List Json) :
    textOf (remarked ps values) = markedText ps values := by
  induction ps, values using remarked.induct with
  | case1 values => rfl
  | case2 c rest values ih => simp [remarked, markedText, Piece.chars, ih]
  | case3 p cs rest ih => simp [remarked, markedText, questionMark, Piece.chars, ih]
  | case4 p cs rest v values ih => simp [remarked, markedText, textOf_markPieces, ih]

theorem remarked_append (ps qs : List Piece) (values : List Json) :
    remarked (ps ++ qs) values = remarked ps values ++ remarked qs (leftover ps values) := by
  induction ps, values using remarked.induct with
  | case1 values => simp [remarked, leftover]
  | case2 c rest values ih => simpa [remarked, leftover] using ih
  | case3 p cs rest ih => simpa [remarked, leftover] using ih
  | case4 p cs rest v values ih => simpa [remarked, leftover] using ih

theorem markedText_append (ps qs : List Piece) (values : List Json) :
    markedText (ps ++ qs) values = markedText ps values ++ markedText qs (leftover ps values) := by
  simp only [← textOf_remarked, remarked_append, textOf_append]

theorem remarked_plainChars (cs : List Char) (values : List Json) :
    remarked (plainChars cs) values = plainChars cs := by
  induction cs with
  | nil => rfl
  | cons c cs ih => simpa [plainChars, remarked] using ih

theorem markedText_plainChars (cs : List Char) (values : List Json) :
    markedText (plainChars cs) values = cs := by
  rw [← textOf_remarked, remarked_plainChars, textOf_plainChars]

/-- A character that a mode reads like the first one after what it holds back. -/
def Open (m : Mode) (c : Char) : Prop := step m c = release m.held c

theorem open_code (c : Char) : Open .code c := by
  simp [Open, step, release, Mode.held]

theorem open_question {digits : List Char} {c : Char} (h : c.isDigit = false) :
    Open (.question digits) c := by
  simp [Open, step, Mode.held, h]

theorem open_colon_question : Open .colon '?' := by
  have h : isNameStart '?' = false := by decide
  simp [Open, step, Mode.held, h]

theorem release_eq (ps : List Piece) (c : Char) :
    release ps c = ((enter c).1, ps ++ (enter c).2) := rfl

theorem enter_colon : enter ':' = (.colon, []) := rfl

theorem enter_question : enter '?' = (.question [], []) := rfl

theorem enter_digit {c : Char} (h : c.isDigit = true) : enter c = (.code, [.plain c]) := by
  have hne : ∀ d : Char, d.isDigit = false → (c == d) = false := by
    intro d hd
    refine beq_eq_false_iff_ne.mpr ?_
    rintro rfl
    rw [h] at hd
    cases hd
  simp [enter, isQuote, hne ':' (by decide), hne '?' (by decide), hne '-' (by decide),
    hne '/' (by decide), hne '\'' (by decide), hne '"' (by decide), hne '`' (by decide)]

theorem isNamePart_of_isDigit {c : Char} (h : c.isDigit = true) : isNamePart c = true := by
  have hascii : c.toNat < 0x80 := Nat.lt_of_le_of_lt (Text.toNat_of_isDigit h).2 (by decide)
  simp [isNamePart, Text.isIdentifier, Text.isAlphanumeric_ascii hascii, Char.isAlphanum, h]

/-- Quoted text stands in one of the quotes that open it. -/
def Mode.quoteKnown : Mode → Bool
  | .quoted quote => isQuote quote
  | .quoteEnd quote => isQuote quote
  | _ => true

/-- How the scan of the new text stands to that of the old one. What the old scan holds back has
not reached the new one, which must be ready for its first character in either form. -/
def Lags : Mode → Mode → Prop
  | .colon, m => Open m ':' ∧ Open m '?'
  | .name _, m => Open m '?'
  | .question digits, m => Open m '?' ∧ digits.all Char.isDigit = true
  | mode, m => m = mode ∧ mode.quoteKnown = true

theorem enter_plain {c : Char} (hcolon : c ≠ ':') (hquestion : c ≠ '?') :
    (enter c).2 = [.plain c] ∧ (enter c).1.held = [] ∧ Lags (enter c).1 (enter c).1 := by
  unfold enter
  split_ifs with h1 h2 h3 h4 h5
  · simp_all
  · simp_all
  · exact ⟨rfl, rfl, rfl, rfl⟩
  · exact ⟨rfl, rfl, rfl, rfl⟩
  · exact ⟨rfl, rfl, rfl, h5⟩
  · exact ⟨rfl, rfl, rfl, rfl⟩

theorem feed_marks {m : Mode} (h : Open m '?') (n : Nat) :
    (feed m (marks (n + 1))).1 = .question [] ∧
      (feed m (marks (n + 1))).2 ++ [questionMark] = m.held ++ markPieces (n + 1) := by
  induction n generalizing m with
  | zero =>
    have hstep : step m '?' = (.question [], m.held) := by
      rw [h, release, enter_question]; simp
    simp [marks, hstep, markPieces]
  | succ n ih =>
    have hstep : step m '?' = (.question [], m.held) := by
      rw [h, release, enter_question]; simp
    have hcomma : step (.question []) ',' = (.code, [questionMark, .plain ',']) := rfl
    obtain ⟨hmode, hout⟩ := ih (m := .code) (open_code '?')
    constructor
    · simp only [marks, feed_cons, hstep, hcomma, hmode]
    · simp only [marks, feed_cons, hstep, hcomma, List.append_assoc, hout, markPieces]
      simp [Mode.held]

/-- A marker written anew for whatever value, or for none. -/
theorem feed_marker {m : Mode} (h : Open m '?') (p : Placeholder) (cs : List Char)
    (values : List Json) :
    (feed m (markedText [.marker p cs] values)).1 = .question [] ∧
      (feed m (markedText [.marker p cs] values)).2 ++ [questionMark] =
        m.held ++ remarked [.marker p cs] values := by
  cases values with
  | nil => simpa [markedText, remarked, marks, markPieces] using feed_marks h 0
  | cons v values =>
    have hpos := expand_length_pos v
    obtain ⟨n, hn⟩ : ∃ n, (expand v).length = n + 1 := ⟨(expand v).length - 1, by omega⟩
    simpa [markedText, remarked, hn] using feed_marks h n

theorem held_question_nil : (Mode.question []).held = [questionMark] := rfl

theorem feed_digits (ds es : List Char) (h : es.all Char.isDigit = true) :
    feed (.question ds) es = (.question (es.reverse ++ ds), []) := by
  induction es generalizing ds with
  | nil => rfl
  | cons c cs ih =>
    simp only [List.all_cons, Bool.and_eq_true] at h
    have hstep : step (.question ds) c = (.question (c :: ds), []) := by simp [step, h.1]
    simp [feed_cons, hstep, ih _ h.2]

/-- The new scan after it has been given text that the old scan gave out as pieces: what it
has given and still holds are the pieces written anew. -/
def Catches (m : Mode) (ps : List Piece) (values : List Json) : Prop :=
  (feed m (markedText ps values)).2 ++ (feed m (markedText ps values)).1.held =
    m.held ++ remarked ps values

theorem Catches.append {m : Mode} {ps qs : List Piece} {values : List Json}
    (hp : Catches m ps values)
    (hq : Catches (feed m (markedText ps values)).1 qs (leftover ps values)) :
    Catches m (ps ++ qs) values := by
  unfold Catches at *
  simp only [markedText_append, feed_append, remarked_append, List.append_assoc]
  rw [hq, ← List.append_assoc, hp, List.append_assoc]

/-- Once what the old scan holds is given to the new one, both stand alike. -/
structure Caught (m n : Mode) : Prop where
  opens : ∀ c, Open m c → Open n c ∧ (c = ':' → Open n '?')
  closed : m.closed = true → n.closed = true

theorem caught_of_question {m : Mode} (digits : List Char)
    (h : ∀ c, Open m c → c.isDigit = false) : Caught m (.question digits) :=
  ⟨fun c hc => ⟨open_question (h c hc), fun _ => open_question rfl⟩, fun _ => rfl⟩

theorem not_digit_of_open_name {cs : List Char} {c : Char} (h : Open (.name cs) c) :
    c.isDigit = false := by
  by_contra hd
  have hdigit : c.isDigit = true := by simpa using hd
  have hpart := isNamePart_of_isDigit hdigit
  rw [Open, release, enter_digit hdigit] at h
  simp [step, hpart] at h

theorem not_digit_of_open_question {ds : List Char} {c : Char} (h : Open (.question ds) c) :
    c.isDigit = false := by
  by_contra hd
  have hdigit : c.isDigit = true := by simpa using hd
  rw [Open, release, enter_digit hdigit] at h
  simp [step, hdigit] at h

theorem catch_name {m : Mode} (cs : List Char) (h : Open m '?') (values : List Json) :
    Catches m (namePieces cs) values ∧
      Caught (.name cs) (feed m (markedText (namePieces cs) values)).1 := by
  unfold namePieces
  split
  · next held =>
    obtain ⟨hmode, hout⟩ := feed_marker h (.named (String.ofList held.reverse))
      (':' :: held.reverse) values
    set ps := [Piece.marker (.named (String.ofList held.reverse)) (':' :: held.reverse)]
    have hfirst : Catches m ps values := by rw [Catches, hmode, held_question_nil, hout]
    have hdot : step (.question []) '.' = (.code, [questionMark, .plain '.']) := rfl
    have hsecond : Catches (.question []) [.plain '.'] (leftover ps values) := by
      simp [Catches, markedText, hdot, remarked, Mode.held, questionPieces, questionMark]
    have hlast : (feed m (markedText (ps ++ [.plain '.']) values)).1 = .code := by
      rw [markedText_append, feed_append, hmode]
      simp [markedText, hdot]
    refine ⟨hfirst.append (hmode ▸ hsecond), ?_⟩
    change Caught _ (feed m (markedText (ps ++ [.plain '.']) values)).1
    rw [hlast]
    exact ⟨fun c _ => ⟨open_code c, fun _ => open_code '?'⟩, fun _ => rfl⟩
  · obtain ⟨hmode, hout⟩ := feed_marker h (.named (String.ofList cs.reverse))
      (':' :: cs.reverse) values
    rw [hmode]
    exact ⟨by rw [Catches, hmode, held_question_nil, hout],
      caught_of_question [] fun c hc => not_digit_of_open_name hc⟩

theorem catch_question {m : Mode} (digits : List Char) (h : Open m '?')
    (hdigits : digits.all Char.isDigit = true) (values : List Json) :
    Catches m (questionPieces digits) values ∧
      Caught (.question digits) (feed m (markedText (questionPieces digits) values)).1 := by
  have hmarker : ∀ p, Catches m [.marker p ('?' :: digits.reverse)] values ∧ Caught
      (.question digits) (feed m (markedText [.marker p ('?' :: digits.reverse)] values)).1 := by
    intro p
    obtain ⟨hmode, hout⟩ := feed_marker h p ('?' :: digits.reverse) values
    rw [hmode]
    exact ⟨by rw [Catches, hmode, held_question_nil, hout],
      caught_of_question [] fun c hc => not_digit_of_open_question hc⟩
  cases hempty : digits.isEmpty with
  | true =>
    simp only [questionPieces, hempty, if_true]
    exact hmarker .positional
  | false =>
    cases hword : Text.word? digits.reverse with
    | some n =>
      simp only [questionPieces, hempty, hword, Bool.false_eq_true, if_false]
      exact hmarker (.indexed n)
    | none =>
      -- An index out of range is no placeholder: its text goes over unchanged and is held again.
      have hpieces : questionPieces digits = plainChars ('?' :: digits.reverse) := by
        simp [questionPieces, hempty, hword]
      have hstep : step m '?' = (.question [], m.held) := by
        rw [h, release, enter_question]; simp
      have hfeed : feed m ('?' :: digits.reverse) = (.question digits, m.held) := by
        rw [feed_cons, hstep]
        simp only [feed_digits [] digits.reverse (by simpa using hdigits)]
        simp
      rw [hpieces, markedText_plainChars, hfeed]
      refine ⟨?_, caught_of_question digits fun c hc => not_digit_of_open_question hc⟩
      rw [Catches, markedText_plainChars, remarked_plainChars, hfeed, ← hpieces]
      rfl

/-- What the old scan holds, given to the new one. -/
theorem catch_held {m n : Mode} (h : Lags m n) (values : List Json) :
    Catches n m.held values ∧ Caught m (feed n (markedText m.held values)).1 := by
  have hsame : m.held = [] → n = m → (∀ c, Open m c → c = ':' → Open m '?') →
      Catches n m.held values ∧ Caught m (feed n (markedText m.held values)).1 := by
    rintro hheld rfl hopen
    rw [hheld]
    exact ⟨by simp [Catches, markedText, remarked],
      ⟨fun c hc => ⟨by simpa [markedText] using hc, by simpa [markedText] using hopen c hc⟩,
        fun hc => by simpa [markedText] using hc⟩⟩
  cases m with
  | colon =>
    have hstep : step n ':' = (.colon, n.held) := by
      rw [h.1, release, enter_colon]; simp
    refine ⟨by simp [Catches, Mode.held, markedText, remarked, hstep], ?_⟩
    simp only [Mode.held, markedText, feed_singleton, hstep]
    exact ⟨fun c hc => ⟨hc, fun _ => open_colon_question⟩, fun hc => hc⟩
  | name cs => exact catch_name cs h values
  | question digits => exact catch_question digits h.1 h.2 values
  | quoteEnd quote =>
    refine hsame rfl h.1 fun _ _ _ => ?_
    have hne : ('?' == quote) = false := by
      have hquote := h.2
      refine beq_eq_false_iff_ne.mpr ?_
      rintro rfl
      cases hquote
    simp [Open, step, release, Mode.held, hne]
  | code => exact hsame rfl h.1 fun _ _ _ => open_code '?'
  | dash => exact hsame rfl h.1 fun _ _ _ => rfl
  | slash => exact hsame rfl h.1 fun _ _ _ => rfl
  | lineComment => exact hsame rfl h.1 fun c hc hcolon => by subst hcolon; cases hc
  | blockComment => exact hsame rfl h.1 fun c hc hcolon => by subst hcolon; cases hc
  | blockStar => exact hsame rfl h.1 fun c hc hcolon => by subst hcolon; cases hc
  | quoted quote =>
    refine hsame rfl h.1 fun c hc hcolon => ?_
    subst hcolon
    simp [Open, step, release, enter_colon, Mode.held] at hc
  | escaped => exact hsame rfl h.1 fun c hc hcolon => by subst hcolon; cases hc

/-- The new scan reads what the old one gives out on entering a character. -/
theorem catch_enter {m : Mode} {c : Char} (hc : Open m c) (hq : c = ':' → Open m '?')
    (values : List Json) : Catches m (enter c).2 values ∧
      Lags (enter c).1 (feed m (markedText (enter c).2 values)).1 := by
  by_cases hcolon : c = ':'
  · subst hcolon
    exact ⟨by simp [Catches, enter_colon, markedText, remarked], hc, hq rfl⟩
  by_cases hquestion : c = '?'
  · subst hquestion
    exact ⟨by simp [Catches, enter_question, markedText, remarked], hc, rfl⟩
  obtain ⟨hout, hheld, hlags⟩ := enter_plain hcolon hquestion
  have hstep : step m c = ((enter c).1, m.held ++ [.plain c]) := by
    rw [hc, release_eq, hout]
  rw [hout]
  simp only [Catches, markedText, remarked, feed_singleton, hstep, hheld, List.append_nil]
  exact ⟨trivial, hlags⟩

/-- The new scan reads what the old one gives out at a character that follows what it held. -/
theorem catch_open {m n : Mode} {c : Char} (h : Lags m n) (hc : Open m c) (values : List Json) :
    Catches n (step m c).2 values ∧
      Lags (step m c).1 (feed n (markedText (step m c).2 values)).1 := by
  obtain ⟨hheld, hcaught⟩ := catch_held h values
  obtain ⟨ho, hq⟩ := hcaught.opens c hc
  obtain ⟨henter, hlags⟩ := catch_enter ho hq (leftover m.held values)
  have hstep : step m c = ((enter c).1, m.held ++ (enter c).2) := hc
  rw [hstep]
  refine ⟨hheld.append henter, ?_⟩
  simpa only [markedText_append, feed_append] using hlags

/-- A character that is read alone leaves two scans alike that stand alike. -/
theorem catch_same {m n : Mode} {c : Char} (hstep : step m c = (n, [.plain c]))
    (hheld : m.held = []) (hnext : n.held = []) (hlags : Lags n n) (values : List Json) :
    Catches m (step m c).2 values ∧
      Lags (step m c).1 (feed m (markedText (step m c).2 values)).1 := by
  rw [hstep]
  simp only [Catches, markedText, remarked, feed_singleton, hstep, hheld, hnext]
  exact ⟨rfl, hlags⟩

/-- One step of the old scan, followed by the new one. -/
theorem catch_step {m n : Mode} (h : Lags m n) (c : Char) (values : List Json) :
    Catches n (step m c).2 values ∧
      Lags (step m c).1 (feed n (markedText (step m c).2 values)).1 := by
  by_cases hc : Open m c
  · exact catch_open h hc values
  cases m with
  | code => exact absurd (open_code c) hc
  | dash =>
    obtain ⟨rfl, -⟩ := h
    have hdash : c = '-' := by
      by_contra hne
      exact hc (by simp [Open, step, release, Mode.held, hne])
    subst hdash
    exact catch_same (n := .lineComment) rfl rfl rfl ⟨rfl, rfl⟩ values
  | slash =>
    obtain ⟨rfl, -⟩ := h
    have hstar : c = '*' := by
      by_contra hne
      exact hc (by simp [Open, step, release, Mode.held, hne])
    subst hstar
    exact catch_same (n := .blockComment) rfl rfl rfl ⟨rfl, rfl⟩ values
  | colon =>
    have hcolon : step n ':' = (.colon, n.held) := by
      rw [h.1, release, enter_colon]; simp
    by_cases hcast : c = ':' ∨ c = '='
    · have hstep : step .colon c = (.code, [.plain ':', .plain c]) := by
        rcases hcast with rfl | rfl <;> rfl
      rw [hstep]
      simp only [Catches, markedText, remarked, feed_cons, hcolon, hstep, feed_nil]
      exact ⟨by simp [Mode.held], rfl, rfl⟩
    · push Not at hcast
      have hstart : isNameStart c = true := by
        by_contra hne
        exact hc (by simp [Open, step, Mode.held, hcast, hne])
      have hstep : step .colon c = (.name [c], []) := by
        simp [step, hcast, hstart]
      rw [hstep]
      exact ⟨by simp [Catches, markedText, remarked], h.2⟩
  | name cs =>
    have hpart : isNamePart c = true := by
      by_contra hne
      exact hc (by simp [Open, step, Mode.held, hne])
    have hstep : step (.name cs) c = (.name (c :: cs), []) := by simp [step, hpart]
    rw [hstep]
    exact ⟨by simp [Catches, markedText, remarked], h⟩
  | question digits =>
    have hdigit : c.isDigit = true := by
      by_contra hne
      exact hc (open_question (by simpa using hne))
    have hstep : step (.question digits) c = (.question (c :: digits), []) := by
      simp [step, hdigit]
    rw [hstep]
    exact ⟨by simp [Catches, markedText, remarked], h.1, by simpa [hdigit] using h.2⟩
  | quoteEnd quote =>
    obtain ⟨rfl, hquote⟩ := h
    have heq : c = quote := by
      by_contra hne
      exact hc (by simp [Open, step, release, Mode.held, hne])
    subst heq
    have hstep : step (.quoteEnd c) c = (.quoted c, [.plain c]) := by simp [step]
    exact catch_same hstep rfl rfl ⟨rfl, hquote⟩ values
  | lineComment =>
    obtain ⟨rfl, -⟩ := h
    refine catch_same rfl rfl ?_ ?_ values <;> split_ifs
    exacts [rfl, rfl, ⟨rfl, rfl⟩, ⟨rfl, rfl⟩]
  | blockComment =>
    obtain ⟨rfl, -⟩ := h
    refine catch_same rfl rfl ?_ ?_ values <;> split_ifs
    exacts [rfl, rfl, ⟨rfl, rfl⟩, ⟨rfl, rfl⟩]
  | blockStar =>
    obtain ⟨rfl, -⟩ := h
    refine catch_same rfl rfl ?_ ?_ values <;> split_ifs
    exacts [rfl, rfl, rfl, ⟨rfl, rfl⟩, ⟨rfl, rfl⟩, ⟨rfl, rfl⟩]
  | quoted quote =>
    obtain ⟨rfl, hquote⟩ := h
    refine catch_same rfl rfl ?_ ?_ values <;> split_ifs
    exacts [rfl, rfl, rfl, ⟨rfl, hquote⟩, ⟨rfl, rfl⟩, ⟨rfl, hquote⟩]
  | escaped =>
    obtain ⟨rfl, -⟩ := h
    exact catch_same (n := .quoted '\'') rfl rfl rfl ⟨rfl, rfl⟩ values

/-- A whole run of the old scan, followed by the new one. -/
theorem catch_feed {m n : Mode} (h : Lags m n) (cs : List Char) (values : List Json) :
    Catches n (feed m cs).2 values ∧
      Lags (feed m cs).1 (feed n (markedText (feed m cs).2 values)).1 := by
  induction cs generalizing m n values with
  | nil => exact ⟨by simp [Catches, markedText, remarked], by simpa [markedText] using h⟩
  | cons c cs ih =>
    obtain ⟨hfirst, hlags⟩ := catch_step h c values
    obtain ⟨hrest, hlast⟩ := ih hlags (leftover (step m c).2 values)
    rw [feed_cons]
    refine ⟨hfirst.append hrest, ?_⟩
    simpa only [markedText_append, feed_append] using hlast

/-- A statement whose placeholders are written anew is read to the pieces written anew. -/
theorem pieces_markedText {text : List Char} {ps : List Piece} (h : pieces text = .ok ps)
    (values : List Json) : pieces (markedText ps values) = .ok (remarked ps values) := by
  obtain ⟨hclosed, rfl⟩ := (pieces_eq_ok_iff text ps).mp h
  have hstart : Lags .code .code := ⟨rfl, rfl⟩
  obtain ⟨hfeed, hlags⟩ := catch_feed hstart text values
  obtain ⟨hheld, hcaught⟩ := catch_held hlags (leftover (feed .code text).2 values)
  have hall := hfeed.append hheld
  rw [pieces_eq_ok_iff]
  constructor
  · rw [markedText_append, feed_append]
    exact hcaught.closed hclosed
  · simpa [Catches, Mode.held] using hall.symm

end QueryCatalog.Statement
