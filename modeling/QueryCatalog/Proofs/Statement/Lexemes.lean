import QueryCatalog.Proofs.Statement.Tail
import QueryCatalog.Proofs.Text.Digits

/-!
Statements written word by word. Whatever stands in quotes and in comments, a statement whose
lexemes are written with blanks between them is accepted, and its placeholders are found just where
they were written.
-/
namespace QueryCatalog.Statement

/-- Such a character opens no quote, no comment, no cast and no placeholder. -/
def isWordPart (c : Char) : Bool :=
  !isQuote c && c != ':' && c != '?' && c != '-' && c != '/'

structure Word where
  chars : List Char
  plain : chars.all isWordPart = true

inductive Quote where
  | literal
  | identifier
  | backtick
  deriving DecidableEq, Repr

def Quote.char : Quote → Char
  | .literal => '\''
  | .identifier => '"'
  | .backtick => '`'

/-- The characters that are written twice: the quote, and in literals the backslash. -/
def Quote.doubles (quote : Quote) (c : Char) : Bool :=
  c == quote.char || (quote == .literal && c == '\\')

def Quote.spell (quote : Quote) (c : Char) : List Char :=
  if quote.doubles c then [c, c] else [c]

def Quote.escape (quote : Quote) (cs : List Char) : List Char := cs.flatMap quote.spell

/-- The text of a comment that ends with its line. -/
structure LineText where
  chars : List Char
  oneLine : '\n' ∉ chars

/-- The text of a comment that ends where a slash follows a star. -/
structure BlockText where
  chars : List Char
  unclosed : ¬ ['*', '/'] <:+: chars

/-- A path of names or indices with dots between them. Only its first character must be one that a
name may begin with. -/
structure DottedPath where
  initial : Char
  first : List Char
  more : List (List Char)
  initial_start : isNameStart initial = true
  first_parts : first.all Text.isIdentifier = true
  more_parts : ∀ segment ∈ more, segment ≠ [] ∧ segment.all Text.isIdentifier = true

def DottedPath.chars (p : DottedPath) : List Char :=
  p.initial :: (p.first ++ p.more.flatMap fun segment => '.' :: segment)

inductive Lexeme where
  | word (word : Word)
  | quoted (quote : Quote) (content : List Char)
  | cast (type : Word)
  | assignment (value : Word)
  | lineComment (content : LineText)
  | blockComment (content : BlockText)
  | positional
  /-- Zeros may stand before the index. -/
  | indexed (zeros : Nat) (index : Fin Text.wordBound)
  | named (path : DottedPath)

namespace Lexeme

def chars : Lexeme → List Char
  | .word w => w.chars
  | .quoted quote content => quote.char :: (quote.escape content ++ [quote.char])
  | .cast type => ':' :: ':' :: ' ' :: type.chars
  | .assignment value => ':' :: '=' :: ' ' :: value.chars
  | .lineComment content => '-' :: '-' :: (content.chars ++ ['\n'])
  | .blockComment content => '/' :: '*' :: (content.chars ++ ['*', '/'])
  | .positional => ['?']
  | .indexed zeros index => '?' :: (List.replicate zeros '0' ++ Nat.toDigits 10 index)
  | .named path => ':' :: path.chars

def text (t : Lexeme) : String := String.ofList t.chars

def placeholder? : Lexeme → Option Placeholder
  | .positional => some .positional
  | .indexed _ index => some (.indexed index)
  | .named path => some (.named (String.ofList path.chars))
  | _ => none

/-- The placeholder of a lexeme that is written from the given byte on. -/
def located? (start : Nat) (t : Lexeme) : Option Located :=
  t.placeholder?.map fun p => ⟨p, start, start + t.text.utf8ByteSize, t.text⟩

def pieces (t : Lexeme) : List Piece :=
  match t.placeholder? with
  | some p => [.marker p t.chars]
  | none => plainChars t.chars

end Lexeme

/-- Lexemes with a blank between two of them. -/
def written (ts : List Lexeme) : String := " ".intercalate (ts.map Lexeme.text)

/-- The placeholders of lexemes that are written from the given byte on; a blank is one byte. -/
def markers (start : Nat) : List Lexeme → List Located
  | [] => []
  | t :: rest => (t.located? start).toList ++ markers (start + t.text.utf8ByteSize + 1) rest

/-! Each lexeme is read by itself. -/

/-- Read from the beginning, the text leaves quotes and comments behind, and has the pieces. -/
def ReadAs (cs : List Char) (ps : List Piece) : Prop :=
  (feed .code cs).1.live = true ∧ (feed .code cs).2 ++ (feed .code cs).1.held = ps

theorem readAs_of_code {cs : List Char} (h : feed .code cs = (.code, plainChars cs)) :
    ReadAs cs (plainChars cs) := by
  rw [ReadAs, h]
  exact ⟨rfl, List.append_nil _⟩

theorem isOrdinary_of_isWordPart {c : Char} (h : isWordPart c = true) : isOrdinary c = true := by
  simp only [isWordPart, Bool.and_eq_true, Bool.not_eq_true', bne_iff_ne] at h
  obtain ⟨⟨⟨⟨hquote, hcolon⟩, hquestion⟩, hdash⟩, hslash⟩ := h
  simp [isOrdinary, enter, hquote, hcolon, hquestion, hdash, hslash]

theorem Word.ordinary (w : Word) : w.chars.all isOrdinary = true := by
  have hplain := w.plain
  rw [List.all_eq_true] at hplain ⊢
  intro c hc
  exact isOrdinary_of_isWordPart (hplain c hc)

/-- Both signs that begin with a colon end with their second character. -/
theorem feed_sign {second : Char} (h : second = ':' ∨ second = '=') (w : Word) :
    feed .code (':' :: second :: ' ' :: w.chars) =
      (.code, plainChars (':' :: second :: ' ' :: w.chars)) := by
  have hblank : (' ' :: w.chars).all isOrdinary = true := by
    rw [List.all_cons, w.ordinary]
    decide
  have hcolon : step .code ':' = (.colon, []) := rfl
  have hsecond : step .colon second = (.code, [.plain ':', .plain second]) := by
    rcases h with rfl | rfl <;> rfl
  rw [feed_cons, hcolon, feed_cons, hsecond, feed_ordinary hblank]
  rfl

theorem enter_quote (quote : Quote) :
    enter quote.char = (.quoted quote.char, [.plain quote.char]) := by
  cases quote <;> rfl

/-- Whatever character is spelled within quotes, the text stays quoted. -/
theorem feed_spell (quote : Quote) (c : Char) :
    feed (.quoted quote.char) (quote.spell c) =
      (.quoted quote.char, plainChars (quote.spell c)) := by
  by_cases hquote : c = quote.char
  · have hspell : quote.spell c = [c, c] := by simp [Quote.spell, Quote.doubles, hquote]
    have hclose : step (.quoted quote.char) c = (.quoteEnd quote.char, [.plain c]) := by
      simp [step, hquote]
    have hopen : step (.quoteEnd quote.char) c = (.quoted quote.char, [.plain c]) := by
      simp [step, hquote]
    rw [hspell, feed_cons, hclose, feed_singleton, hopen]
    rfl
  · by_cases hback : quote = .literal ∧ c = '\\'
    · obtain ⟨rfl, rfl⟩ := hback
      rfl
    · have hspell : quote.spell c = [c] := by
        rw [Quote.spell, if_neg]
        simp only [Quote.doubles, Bool.or_eq_true, Bool.and_eq_true, beq_iff_eq]
        tauto
      have hplain : ¬ (c = '\\' ∧ quote.char = '\'') := by
        rintro ⟨hc, hchar⟩
        cases quote
        · exact hback ⟨rfl, hc⟩
        · cases hchar
        · cases hchar
      have hstep : step (.quoted quote.char) c = (.quoted quote.char, [.plain c]) := by
        simp [step, hquote, hplain]
      rw [hspell, feed_singleton, hstep]
      rfl

theorem feed_escape (quote : Quote) (cs : List Char) :
    feed (.quoted quote.char) (quote.escape cs) =
      (.quoted quote.char, plainChars (quote.escape cs)) := by
  induction cs with
  | nil => rfl
  | cons c cs ih =>
    have hcons : quote.escape (c :: cs) = quote.spell c ++ quote.escape cs := rfl
    rw [hcons, feed_append, feed_spell, ih]
    simp [plainChars]

theorem step_block {m : Mode} (hm : m = .blockComment ∨ m = .blockStar) {c : Char}
    (hc : m = .blockStar → c ≠ '/') :
    step m c = (if c = '*' then .blockStar else .blockComment, [.plain c]) := by
  rcases hm with rfl | rfl
  · simp [step]
  · simp [step, hc rfl]

/-- A block comment stays open until a slash follows a star. -/
theorem feed_blockText {m : Mode} (hm : m = .blockComment ∨ m = .blockStar) {cs : List Char}
    (hunclosed : ¬ ['*', '/'] <:+: cs) (hslash : m = .blockStar → cs.head? ≠ some '/') :
    ∃ m', (m' = .blockComment ∨ m' = .blockStar) ∧ feed m cs = (m', plainChars cs) := by
  induction cs generalizing m with
  | nil => exact ⟨m, hm, rfl⟩
  | cons c cs ih =>
    have hstep := step_block hm (c := c) fun hstar heq => hslash hstar (congrArg some heq)
    have hlater : ¬ ['*', '/'] <:+: cs := fun hin => hunclosed (List.infix_cons hin)
    by_cases hc : c = '*'
    · rw [if_pos hc] at hstep
      have hfollow : cs.head? ≠ some '/' := by
        intro hhead
        obtain ⟨rest, rfl⟩ := List.head?_eq_some_iff.mp hhead
        exact hunclosed ⟨[], rest, by rw [hc]; rfl⟩
      obtain ⟨m', hm', hfeed⟩ := ih (.inr rfl) hlater fun _ => hfollow
      exact ⟨m', hm', by rw [feed_cons, hstep, hfeed]; rfl⟩
    · rw [if_neg hc] at hstep
      have hfollow : Mode.blockComment = .blockStar → cs.head? ≠ some '/' := by
        intro hmode
        cases hmode
      obtain ⟨m', hm', hfeed⟩ := ih (.inl rfl) hlater hfollow
      exact ⟨m', hm', by rw [feed_cons, hstep, hfeed]; rfl⟩

theorem feed_name {held cs : List Char} (h : cs.all isNamePart = true) :
    feed (.name held) cs = (.name (cs.reverse ++ held), []) := by
  induction cs generalizing held with
  | nil => rfl
  | cons c cs ih =>
    rw [List.all_cons, Bool.and_eq_true] at h
    have hstep : step (.name held) c = (.name (c :: held), []) := by simp [step, h.1]
    rw [feed_cons, hstep, ih h.2, List.reverse_cons, List.append_assoc]
    rfl

theorem DottedPath.all_isNamePart (p : DottedPath) :
    (p.first ++ p.more.flatMap fun segment => '.' :: segment).all isNamePart = true := by
  have hpart : ∀ c, Text.isIdentifier c = true → isNamePart c = true := by
    intro c hc
    rw [isNamePart, hc, Bool.true_or]
  rw [List.all_eq_true]
  intro c hc
  rcases List.mem_append.mp hc with hfirst | hmore
  · exact hpart c (List.all_eq_true.mp p.first_parts c hfirst)
  · obtain ⟨segment, hsegment, hin⟩ := List.mem_flatMap.mp hmore
    rcases List.mem_cons.mp hin with rfl | hin
    · rfl
    · exact hpart c (List.all_eq_true.mp (p.more_parts segment hsegment).2 c hin)

theorem getLast?_identifier_ne_dot {cs : List Char} (h : cs.all Text.isIdentifier = true) :
    cs.getLast? ≠ some '.' := by
  intro hdot
  have hpart := List.all_eq_true.mp h '.' (List.mem_of_getLast? hdot)
  exact absurd hpart (by decide)

/-- Segments are not empty, so no dot is the last character behind them. -/
theorem getLast?_segments_ne_dot (begun : List Char) {more : List (List Char)}
    (hbegun : begun.getLast? ≠ some '.')
    (hmore : ∀ segment ∈ more, segment ≠ [] ∧ segment.all Text.isIdentifier = true) :
    (begun ++ more.flatMap fun segment => '.' :: segment).getLast? ≠ some '.' := by
  induction more generalizing begun with
  | nil => simpa using hbegun
  | cons segment more ih =>
    obtain ⟨hne, hall⟩ := hmore segment List.mem_cons_self
    have hsegment : (begun ++ '.' :: segment).getLast? ≠ some '.' := by
      have hlast := getLast?_identifier_ne_dot hall
      rw [List.getLast?_eq_some_getLast hne] at hlast
      rw [List.getLast?_append, List.getLast?_cons, List.getLast?_eq_some_getLast hne]
      exact hlast
    have hrest := ih _ hsegment fun other hother => hmore other (List.mem_cons_of_mem _ hother)
    simpa using hrest

theorem DottedPath.getLast?_ne_dot (p : DottedPath) : p.chars.getLast? ≠ some '.' := by
  refine getLast?_segments_ne_dot (p.initial :: p.first) ?_ p.more_parts
  intro hdot
  rcases List.mem_cons.mp (List.mem_of_getLast? hdot) with hinitial | hfirst
  · have hstart := p.initial_start
    rw [← hinitial] at hstart
    exact absurd hstart (by decide)
  · exact absurd (List.all_eq_true.mp p.first_parts _ hfirst) (by decide)

theorem namePieces_reverse {cs : List Char} (h : cs.getLast? ≠ some '.') :
    namePieces cs.reverse = [.marker (.named (String.ofList cs)) (':' :: cs)] := by
  unfold namePieces
  split
  · rename_i held hdot
    rw [← List.head?_reverse, hdot] at h
    exact absurd rfl h
  · rw [List.reverse_reverse]

theorem readAs_named (p : DottedPath) :
    ReadAs (':' :: p.chars) [.marker (.named (String.ofList p.chars)) (':' :: p.chars)] := by
  have hcolon : step .code ':' = (.colon, []) := rfl
  have hinitial : step .colon p.initial = (.name [p.initial], []) := by
    have hstart := p.initial_start
    have hsign : (p.initial == ':' || p.initial == '=') = false := by
      by_contra hsign
      simp only [Bool.not_eq_false, Bool.or_eq_true, beq_iff_eq] at hsign
      rcases hsign with heq | heq <;> rw [heq] at hstart <;> exact absurd hstart (by decide)
    simp [step, hsign, hstart]
  have hfeed : feed .code (':' :: p.chars) = (.name p.chars.reverse, []) := by
    rw [DottedPath.chars, feed_cons, hcolon, feed_cons, hinitial, feed_name p.all_isNamePart,
      List.reverse_cons]
    rfl
  rw [ReadAs, hfeed]
  exact ⟨rfl, namePieces_reverse p.getLast?_ne_dot⟩

theorem readAs_indexed (zeros : Nat) (index : Fin Text.wordBound) :
    ReadAs (Lexeme.indexed zeros index).chars (Lexeme.indexed zeros index).pieces := by
  have hquestion : step .code '?' = (.question [], []) := rfl
  have hread := Text.word?_zeros zeros index.isLt
  have hne := Text.isEmpty_zeros zeros index
  rw [← List.isEmpty_reverse] at hne
  rw [ReadAs, Lexeme.chars, feed_cons, hquestion, feed_digits _ _ (Text.all_isDigit_zeros _ _),
    List.append_nil]
  refine ⟨rfl, ?_⟩
  rw [List.nil_append, List.nil_append, Mode.held, questionPieces, hne, List.reverse_reverse,
    hread]
  rfl

/-- What is written by itself is read as it was meant. -/
theorem readAs_lexeme (t : Lexeme) : ReadAs t.chars t.pieces := by
  cases t with
  | word w => exact readAs_of_code (feed_ordinary w.ordinary)
  | quoted quote content =>
    have hopen : step .code quote.char = (.quoted quote.char, [.plain quote.char]) :=
      enter_quote quote
    have hclose : step (.quoted quote.char) quote.char =
        (.quoteEnd quote.char, [.plain quote.char]) := by simp [step]
    rw [ReadAs, Lexeme.chars, feed_cons, hopen, feed_append, feed_escape, feed_singleton, hclose]
    exact ⟨rfl, by simp [Lexeme.pieces, Lexeme.placeholder?, Lexeme.chars, plainChars, Mode.held]⟩
  | cast type => exact readAs_of_code (feed_sign (.inl rfl) type)
  | assignment value => exact readAs_of_code (feed_sign (.inr rfl) value)
  | lineComment content =>
    refine readAs_of_code ?_
    have hfirst : step .code '-' = (.dash, [.plain '-']) := rfl
    have hsecond : step .dash '-' = (.lineComment, [.plain '-']) := rfl
    have hend : step .lineComment '\n' = (.code, [.plain '\n']) := rfl
    rw [Lexeme.chars, feed_cons, hfirst, feed_cons, hsecond, feed_append,
      feed_lineComment content.oneLine, feed_singleton, hend]
    simp [plainChars]
  | blockComment content =>
    refine readAs_of_code ?_
    have hfirst : step .code '/' = (.slash, [.plain '/']) := rfl
    have hsecond : step .slash '*' = (.blockComment, [.plain '*']) := rfl
    have hopen : Mode.blockComment = .blockStar → content.chars.head? ≠ some '/' := by
      intro hmode
      cases hmode
    obtain ⟨m, hm, hfeed⟩ := feed_blockText (.inl rfl) content.unclosed hopen
    have hstar : step m '*' = (.blockStar, [.plain '*']) := by
      rcases hm with rfl | rfl <;> rfl
    have hslash : step .blockStar '/' = (.code, [.plain '/']) := rfl
    rw [Lexeme.chars, feed_cons, hfirst, feed_cons, hsecond, feed_append, hfeed, feed_cons, hstar,
      feed_singleton, hslash]
    simp [plainChars]
  | positional => exact ⟨rfl, rfl⟩
  | indexed zeros index => exact readAs_indexed zeros index
  | named p => exact readAs_named p

/-! A blank ends whatever stands before it. -/

theorem ReadAs.blank {as bs : List Char} {ps qs : List Piece} (has : ReadAs as ps)
    (hbs : ReadAs bs qs) : ReadAs (as ++ ' ' :: bs) (ps ++ .plain ' ' :: qs) := by
  obtain ⟨halive, rfl⟩ := has
  obtain ⟨hblive, rfl⟩ := hbs
  have hblank := step_break (c := ' ') (by decide) halive (quoteKnown_feed rfl as)
  rw [ReadAs, feed_append, feed_cons, hblank]
  exact ⟨hblive, by simp⟩

theorem toList_written (ts : List Lexeme) :
    (written ts).toList = [' '].intercalate (ts.map Lexeme.chars) := by
  rw [written, String.toList_intercalate, List.map_map]
  congr 1
  refine List.map_congr_left ?_
  intro t _
  exact String.toList_ofList

theorem readAs_written (ts : List Lexeme) :
    ReadAs (written ts).toList ([Piece.plain ' '].intercalate (ts.map Lexeme.pieces)) := by
  rw [toList_written]
  induction ts with
  | nil => exact ⟨rfl, rfl⟩
  | cons t ts ih =>
    cases ts with
    | nil =>
      rw [List.map_singleton, List.map_singleton, List.intercalate_singleton,
        List.intercalate_singleton]
      exact readAs_lexeme t
    | cons u us =>
      have hboth := (readAs_lexeme t).blank ih
      simpa only [List.map_cons, List.intercalate_cons_cons, List.append_assoc,
        List.singleton_append] using hboth

/-! The bytes before a placeholder are those of the text before it. -/

theorem byteSize_eq (cs : List Char) : byteSize cs = (String.ofList cs).utf8ByteSize := by
  induction cs with
  | nil => rfl
  | cons c cs ih =>
    rw [String.ofList_cons, String.utf8ByteSize_append, String.utf8ByteSize_singleton, ← ih]
    rfl

theorem byteSize_append (as bs : List Char) : byteSize (as ++ bs) = byteSize as + byteSize bs := by
  rw [byteSize_eq, byteSize_eq, byteSize_eq, String.ofList_append, String.utf8ByteSize_append]

theorem locate_append (start : Nat) (ps qs : List Piece) :
    locate start (ps ++ qs) =
      locate start ps ++ locate (start + byteSize (textOf ps)) qs := by
  induction ps generalizing start with
  | nil => rfl
  | cons p ps ih =>
    cases p with
    | plain c =>
      rw [List.cons_append, locate, locate, ih, textOf_cons, byteSize_append, ← Nat.add_assoc]
      rfl
    | marker p text =>
      rw [List.cons_append, locate, locate, ih, textOf_cons, byteSize_append, ← Nat.add_assoc]
      rfl

theorem locate_plainChars (start : Nat) (cs : List Char) : locate start (plainChars cs) = [] := by
  induction cs generalizing start with
  | nil => rfl
  | cons c cs ih => exact ih (start + c.utf8Size)

theorem textOf_lexeme (t : Lexeme) : textOf t.pieces = t.chars := by
  unfold Lexeme.pieces
  cases t.placeholder? with
  | none => exact textOf_plainChars t.chars
  | some p => exact List.append_nil _

theorem locate_lexeme (start : Nat) (t : Lexeme) :
    locate start t.pieces = (t.located? start).toList := by
  unfold Lexeme.pieces Lexeme.located?
  cases t.placeholder? with
  | none => exact locate_plainChars start t.chars
  | some p =>
    rw [Lexeme.text, ← byteSize_eq]
    rfl

theorem locate_written (start : Nat) (ts : List Lexeme) :
    locate start ([Piece.plain ' '].intercalate (ts.map Lexeme.pieces)) = markers start ts := by
  induction ts generalizing start with
  | nil => rfl
  | cons t ts ih =>
    have hfirst := locate_lexeme start t
    cases ts with
    | nil =>
      rw [markers, markers, List.append_nil, ← hfirst, List.map_singleton,
        List.intercalate_singleton]
    | cons u us =>
      have hsize : byteSize (textOf t.pieces) = t.text.utf8ByteSize := by
        rw [textOf_lexeme, byteSize_eq, Lexeme.text]
      rw [markers, ← ih, ← hfirst, List.map_cons, List.map_cons, List.intercalate_cons_cons,
        List.append_assoc, locate_append, hsize]
      rfl

/-- The placeholders of a statement are just those among its lexemes, in their order, each with the
bytes that its lexeme takes. -/
theorem parse_lexemes (ts : List Lexeme) :
    ∃ ps, parse (written ts) = .ok ps ∧ locate 0 ps = markers 0 ts := by
  obtain ⟨hlive, hpieces⟩ := readAs_written ts
  refine ⟨_, ?_, locate_written 0 ts⟩
  rw [parse, pieces_eq_ok_iff]
  exact ⟨closed_of_live hlive, hpieces.symm⟩

-- behind a character of two bytes, and with a question mark in quotes
example : (parse "ß= '''?' :a.b :: t ?07").toOption.map
      (fun ps => (locate 0 ps).map fun l => (l.placeholder, l.start, l.stop, l.text)) =
    some [(.named "a.b", 10, 14, ":a.b"), (.indexed 7, 20, 23, "?07")] := by
  decide +kernel

end QueryCatalog.Statement
