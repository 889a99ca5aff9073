import QueryCatalog.Statement.Placeholder
import Mathlib.Tactic.Common

/-!
The statement scanner as a plain function on modes, and what it holds back. No step fails, so a
scan can only fail at its end, and the pieces it has given with those it still holds are always
the text read so far.
-/
namespace QueryCatalog.Statement

/-- The mode after a text, with the pieces given on the way. -/
def feed : Mode → List Char → Mode × List Piece
  | m, [] => (m, [])
  | m, c :: cs => ((feed (step m c).1 cs).1, (step m c).2 ++ (feed (step m c).1 cs).2)

@[simp] theorem feed_nil (m : Mode) : feed m [] = (m, []) := rfl

theorem feed_cons (m : Mode) (c : Char) (cs : List Char) :
    feed m (c :: cs) = ((feed (step m c).1 cs).1, (step m c).2 ++ (feed (step m c).1 cs).2) := rfl

@[simp] theorem feed_singleton (m : Mode) (c : Char) : feed m [c] = step m c := by
  simp [feed]

theorem feed_append (m : Mode) (as bs : List Char) :
    feed m (as ++ bs) =
      ((feed (feed m as).1 bs).1, (feed m as).2 ++ (feed (feed m as).1 bs).2) := by
  induction as generalizing m with
  | nil => simp
  | cons a as ih => simp [feed_cons, ih]

theorem run_eq_feed (m : Mode) (cs : List Char) : scanner.run m cs = .ok (feed m cs) := by
  induction cs generalizing m with
  | nil => rfl
  | cons c cs ih =>
    have hstep : scanner.step m c = .ok (step m c) := rfl
    rw [Scanner.run, hstep]
    dsimp only
    rw [ih, feed_cons]

/-- What a mode holds back, as the pieces it becomes when nothing more follows. -/
def Mode.held : Mode → List Piece
  | .colon => [.plain ':']
  | .name cs => namePieces cs
  | .question digits => questionPieces digits
  | _ => []

/-- The modes in which a statement may end. -/
def Mode.closed : Mode → Bool
  | .blockComment => false
  | .blockStar => false
  | .quoted _ => false
  | .escaped => false
  | _ => true

theorem finish_of_closed {m : Mode} (h : m.closed = true) : finish m = .ok m.held := by
  cases m <;> first | rfl | cases h

theorem closed_of_finish {m : Mode} {ps : List Piece} (h : finish m = .ok ps) :
    m.closed = true ∧ ps = m.held := by
  cases m <;> first | cases h; done | exact ⟨rfl, (Except.ok.inj h).symm⟩

/-- Whether the text is accepted is decided by the mode in which it ends. -/
theorem pieces_eq_finish (text : List Char) :
    pieces text = match finish (feed .code text).1 with
      | .error e => .error e
      | .ok rest => .ok ((feed .code text).2 ++ rest) := by
  have hstart : scanner.start = .code := rfl
  have hfinish : scanner.finish = finish := rfl
  rw [pieces, Scanner.scan, hstart, hfinish, run_eq_feed]
  obtain ⟨last, out⟩ := feed .code text
  cases hf : finish last <;> simp only [hf]

theorem pieces_eq_ok_iff (text : List Char) (ps : List Piece) :
    pieces text = .ok ps ↔
      (feed .code text).1.closed = true ∧ ps = (feed .code text).2 ++ (feed .code text).1.held := by
  rw [pieces_eq_finish]
  constructor
  · intro h
    cases hf : finish (feed .code text).1 with
    | error e => rw [hf] at h; cases h
    | ok rest =>
      rw [hf] at h
      obtain ⟨hc, rfl⟩ := closed_of_finish hf
      exact ⟨hc, (Except.ok.inj h).symm⟩
  · rintro ⟨hc, rfl⟩
    rw [finish_of_closed hc]

/-- The text of pieces. -/
def textOf (ps : List Piece) : List Char := ps.flatMap Piece.chars

@[simp] theorem textOf_nil : textOf [] = [] := rfl

@[simp] theorem textOf_cons (p : Piece) (ps : List Piece) :
    textOf (p :: ps) = p.chars ++ textOf ps := rfl

@[simp] theorem textOf_append (ps qs : List Piece) :
    textOf (ps ++ qs) = textOf ps ++ textOf qs := by
  simp [textOf]

@[simp] theorem textOf_plainChars (cs : List Char) : textOf (plainChars cs) = cs := by
  induction cs with
  | nil => rfl
  | cons c cs ih => simpa [plainChars, Piece.chars] using ih

theorem textOf_namePieces (cs : List Char) : textOf (namePieces cs) = ':' :: cs.reverse := by
  unfold namePieces
  split <;> simp [Piece.chars]

theorem textOf_questionPieces (digits : List Char) :
    textOf (questionPieces digits) = '?' :: digits.reverse := by
  unfold questionPieces
  split
  · simp [Piece.chars]
  · split <;> simp [Piece.chars]

theorem textOf_enter (c : Char) : textOf (enter c).2 ++ textOf (enter c).1.held = [c] := by
  unfold enter
  split_ifs with h1 h2 h3 h4 h5 <;> simp_all [Mode.held, Piece.chars, questionPieces]

theorem textOf_release (ps : List Piece) (c : Char) :
    textOf (release ps c).2 ++ textOf (release ps c).1.held = textOf ps ++ [c] := by
  have h := textOf_enter c
  simp only [release, textOf_append, List.append_assoc, h]

/-- A step loses nothing. -/
theorem textOf_step (m : Mode) (c : Char) :
    textOf (step m c).2 ++ textOf (step m c).1.held = textOf m.held ++ [c] := by
  have he := textOf_enter c
  cases m with
  | code => simpa [step, Mode.held] using he
  | dash => simp only [step]; split_ifs <;> simp_all [Mode.held, Piece.chars]
  | slash => simp only [step]; split_ifs <;> simp_all [Mode.held, Piece.chars]
  | colon =>
    simp only [step]
    split_ifs
    · simp [Mode.held, Piece.chars]
    · simp [Mode.held, Piece.chars, textOf_namePieces]
    · exact textOf_release _ c
  | name cs =>
    simp only [step]
    split_ifs
    · simp [Mode.held, textOf_namePieces]
    · exact textOf_release _ c
  | question digits =>
    simp only [step]
    split_ifs
    · simp [Mode.held, textOf_questionPieces]
    · exact textOf_release _ c
  | quoteEnd quote => simp only [step]; split_ifs <;> simp_all [Mode.held, Piece.chars]
  | lineComment => simp only [step]; split_ifs <;> simp [Mode.held, Piece.chars]
  | blockComment => simp only [step]; split_ifs <;> simp [Mode.held, Piece.chars]
  | blockStar => simp only [step]; split_ifs <;> simp [Mode.held, Piece.chars]
  | quoted quote => simp only [step]; split_ifs <;> simp [Mode.held, Piece.chars]
  | escaped => simp [step, Mode.held, Piece.chars]

theorem textOf_feed (m : Mode) (cs : List Char) :
    textOf (feed m cs).2 ++ textOf (feed m cs).1.held = textOf m.held ++ cs := by
  induction cs generalizing m with
  | nil => simp
  | cons c cs ih =>
    have hs := textOf_step m c
    simp only [feed_cons, textOf_append, List.append_assoc, ih]
    rw [← List.append_assoc, hs, List.append_assoc, List.singleton_append]

/-- The pieces of a statement, joined, are the statement. -/
theorem textOf_pieces {text : List Char} {ps : List Piece} (h : pieces text = .ok ps) :
    textOf ps = text := by
  obtain ⟨-, rfl⟩ := (pieces_eq_ok_iff text ps).mp h
  have hf := textOf_feed .code text
  simpa [Mode.held] using hf

end QueryCatalog.Statement
