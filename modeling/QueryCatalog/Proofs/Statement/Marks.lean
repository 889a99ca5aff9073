import QueryCatalog.Proofs.Statement.Agreement
import QueryCatalog.Proofs.Statement.Lexemes

/-!
Question marks in statements. One that stands outside of quotes and comments is found, with the
digits behind it as its index, if 64 bits hold that index; it is text like any other if they do not.
-/
namespace QueryCatalog.Statement

/-- A question mark outside of quotes and comments, and all the digits behind it. -/
structure MarkAt (text before digits after : List Char) : Prop where
  text_eq : text = before ++ '?' :: (digits ++ after)
  live : (feed .code before).1.live = true
  digits : digits.all Char.isDigit = true
  ended : after.head?.any Char.isDigit = false

/-- What a question mark stands for with the digits behind it. -/
def markOf (digits : List Char) : Placeholder :=
  if digits = [] then .positional else .indexed (Text.digitsValue digits)

/-- A question mark is never part of what stands before it. -/
theorem open_of_live {m : Mode} (hlive : m.live = true) (hquote : m.quoteKnown = true) :
    Open m '?' := by
  cases m with
  | code => exact open_code '?'
  | dash => rfl
  | slash => rfl
  | colon => exact open_colon_question
  | name held =>
    have hpart : isNamePart '?' = false := by decide
    simp [Open, step, Mode.held, hpart]
  | question digits => exact open_question rfl
  | quoteEnd quote =>
    have hne : '?' ≠ quote := by
      rintro rfl
      cases hquote
    simp [Open, step, release, Mode.held, hne]
  | lineComment | blockComment | blockStar | quoted | escaped => cases hlive

theorem feed_mark {m : Mode} (hopen : Open m '?') {digits : List Char}
    (hdigits : digits.all Char.isDigit = true) :
    feed m ('?' :: digits) = (.question digits.reverse, m.held) := by
  have hstep : step m '?' = (.question [], m.held) := by
    rw [hopen, release_eq, enter_question, List.append_nil]
  rw [feed_cons, hstep, feed_digits [] digits hdigits]
  simp

theorem feed_after_digits (digits : List Char) {after : List Char}
    (h : after.head?.any Char.isDigit = false) :
    ∃ qs, (feed (.question digits) after).2 ++ (feed (.question digits) after).1.held =
      questionPieces digits ++ qs := by
  cases after with
  | nil => exact ⟨[], (List.append_nil _).symm⟩
  | cons c cs =>
    have hopen : step (.question digits) c = release (questionPieces digits) c := open_question h
    rw [feed_cons, hopen, release_eq]
    exact ⟨_, by rw [List.append_assoc, List.append_assoc]⟩

theorem questionPieces_eq {digits : List Char} (h : digits.all Char.isDigit = true) :
    questionPieces digits.reverse =
      if Text.digitsValue digits < Text.wordBound then [.marker (markOf digits) ('?' :: digits)]
      else plainChars ('?' :: digits) := by
  unfold questionPieces markOf
  cases digits with
  | nil => rfl
  | cons c cs =>
    have hword := Text.word?_digits (List.cons_ne_nil c cs) h
    have hne : (c :: cs).reverse.isEmpty = false := by simp
    rw [hne, List.reverse_reverse, hword]
    split_ifs <;> first | contradiction | rfl

namespace MarkAt

variable {text before digits after : List Char} {ps : List Piece}

/-- The pieces of the text before a question mark, its own, and those of the text after it. -/
theorem pieces_eq (h : MarkAt text before digits after) (hps : pieces text = .ok ps) :
    ∃ front back, ps = front ++ (questionPieces digits.reverse ++ back) ∧
      textOf front = before := by
  obtain ⟨-, rfl⟩ := (pieces_eq_ok_iff text ps).mp hps
  have hfront : textOf ((feed .code before).2 ++ (feed .code before).1.held) = before := by
    rw [textOf_append, textOf_feed]
    rfl
  have hmark := feed_mark (open_of_live h.live (quoteKnown_feed rfl before)) h.digits
  obtain ⟨back, hback⟩ := feed_after_digits digits.reverse h.ended
  have htext : text = before ++ (('?' :: digits) ++ after) := h.text_eq
  refine ⟨_, back, ?_, hfront⟩
  rw [htext, feed_append, feed_append, hmark]
  simp only [List.append_assoc, hback]

end MarkAt

theorem byteSize_pos_of_spells {p : Placeholder} {text : List Char} (h : Spells p text) :
    0 < byteSize text := by
  obtain ⟨c, cs, rfl⟩ : ∃ c cs, text = c :: cs := by
    cases p with
    | positional => exact ⟨_, _, h⟩
    | indexed index =>
      obtain ⟨digits, hdigits, -⟩ := h
      exact ⟨_, _, hdigits⟩
    | named name => exact ⟨_, _, h⟩
  exact Nat.add_pos_left c.utf8Size_pos _

/-- The placeholders of pieces stand within their text. -/
theorem start_of_mem_locate {ps : List Piece} (hspelled : ∀ q ∈ ps, q.Spelled) {start : Nat}
    {l : Located} (hl : l ∈ locate start ps) :
    start ≤ l.start ∧ l.start < start + byteSize (textOf ps) := by
  induction ps generalizing start with
  | nil => cases hl
  | cons p ps ih =>
    rw [List.forall_mem_cons] at hspelled
    rw [textOf_cons, byteSize_append]
    cases p with
    | plain c =>
      have hin := ih hspelled.2 hl
      have hsize : byteSize (Piece.plain c).chars = c.utf8Size := rfl
      omega
    | marker p text =>
      rcases List.mem_cons.mp hl with rfl | hin
      · have hpos : 0 < byteSize text := byteSize_pos_of_spells hspelled.1
        have hsize : byteSize (Piece.marker p text).chars = byteSize text := rfl
        dsimp only
        omega
      · have hin := ih hspelled.2 hin
        have hsize : byteSize (Piece.marker p text).chars = byteSize text := rfl
        omega

theorem MarkAt.found_iff {text before digits after : List Char} {ps : List Piece}
    (h : MarkAt text before digits after) (hps : pieces text = .ok ps) :
    (∃ l ∈ locate 0 ps, l.start = byteSize before) ↔
      Text.digitsValue digits < Text.wordBound := by
  obtain ⟨front, back, rfl, rfl⟩ := h.pieces_eq hps
  have hspelled := spelled_pieces hps
  rw [List.forall_mem_append, List.forall_mem_append] at hspelled
  rw [questionPieces_eq h.digits, locate_append, locate_append, Nat.zero_add]
  split_ifs with hvalue
  · have hmark : ⟨markOf digits, byteSize (textOf front), _, _⟩ ∈
        locate (byteSize (textOf front)) [.marker (markOf digits) ('?' :: digits)] :=
      List.mem_singleton_self _
    exact iff_of_true
      ⟨_, List.mem_append_right _ (List.mem_append_left _ hmark), rfl⟩ hvalue
  · refine iff_of_false ?_ hvalue
    rintro ⟨l, hl, hstart⟩
    rw [locate_plainChars, List.nil_append, textOf_plainChars] at hl
    have hmark : 0 < byteSize ('?' :: digits) := Nat.add_pos_left (by decide) _
    rcases List.mem_append.mp hl with hfront | hback
    · have hin := start_of_mem_locate hspelled.1 hfront
      omega
    · have hin := start_of_mem_locate hspelled.2.2 hback
      omega

theorem MarkAt.mem_placeholders {text before digits after : List Char} {ps : List Piece}
    (h : MarkAt text before digits after) (hps : pieces text = .ok ps)
    (hvalue : Text.digitsValue digits < Text.wordBound) : markOf digits ∈ placeholders ps := by
  obtain ⟨front, back, rfl, -⟩ := h.pieces_eq hps
  rw [questionPieces_eq h.digits, if_pos hvalue, placeholders_append]
  exact List.mem_append_right _ List.mem_cons_self

/-- Text that is written behind a statement and a blank. -/
theorem markAt_behind {a : List Char} {as : List Piece} (ha : pieces a = .ok as)
    (hend : ¬ EndsInLineComment a) {digits b : List Char}
    (hdigits : digits.all Char.isDigit = true) :
    MarkAt (a ++ ' ' :: '?' :: (digits ++ ' ' :: b)) (a ++ [' ']) digits (' ' :: b) where
  text_eq := by rw [List.append_assoc, List.singleton_append]
  live := by
    have hclosed := ((pieces_eq_ok_iff a as).mp ha).1
    have hbreak : isBreak ' ' = true := by decide
    have hnothing : ([] : List Char).all isOrdinary = true := rfl
    rw [feed_append_break hclosed hend hbreak hnothing]
    rfl
  digits := hdigits
  ended := rfl

theorem suits_of_bindPositional {statement : String} {args : List Json} {b : BoundStatement}
    (harray : args.any Json.isArray = true) (h : bindPositional statement args = .ok b) :
    ∃ ps, parse statement = .ok ps ∧ Suits ps args := by
  rw [bindPositional, if_pos harray] at h
  cases hps : parse statement with
  | error e =>
    rw [hps] at h
    cases h
  | ok ps =>
    rw [hps] at h
    exact ⟨ps, rfl, (bindPieces_eq_ok_iff.mp h).1⟩

theorem hasPositional_of_mem {ps : List Piece} (h : .positional ∈ placeholders ps) :
    hasPositional ps = true :=
  List.any_eq_true.mpr ⟨_, h, rfl⟩

theorem hasIndexed_of_mem {ps : List Piece} {index : Nat} (h : .indexed index ∈ placeholders ps) :
    hasIndexed ps = true :=
  List.any_eq_true.mpr ⟨_, h, rfl⟩

/-- A question mark behind a statement is found exactly if 64 bits hold the index that is written
with it. So of a statement that has both a plain question mark and one with an index, and that is
bound to an array, all the indices exceed 64 bits. -/
theorem marks_found_within_range (digits : List Char) :
    (∀ (a b : String) (as ps : List Piece), parse a = .ok as →
      ¬ EndsInLineComment a.toList → digits.all Char.isDigit = true →
      parse (a ++ " ?" ++ String.ofList digits ++ " " ++ b) = .ok ps →
      ((∃ l ∈ locate 0 ps, l.start = a.utf8ByteSize + 1) ↔
        Text.digitsValue digits < Text.wordBound)) ∧
    (∀ (statement : String) (args : List Json) (bound : BoundStatement),
      args.any Json.isArray = true → bindPositional statement args = .ok bound →
      ∀ before after, MarkAt statement.toList before [] after →
      ∀ before' after', MarkAt statement.toList before' digits after' → digits ≠ [] →
        Text.wordBound ≤ Text.digitsValue digits) := by
  constructor
  · intro a b as ps ha hend hdigits hps
    have htext : (a ++ " ?" ++ String.ofList digits ++ " " ++ b).toList =
        a.toList ++ ' ' :: '?' :: (digits ++ ' ' :: b.toList) := by
      simp [String.toList_append]
    have hsize : byteSize (a.toList ++ [' ']) = a.utf8ByteSize + 1 := by
      rw [byteSize_append, byteSize_eq, String.ofList_toList]
      rfl
    rw [parse, htext] at hps
    rw [← hsize]
    exact (markAt_behind ha hend hdigits).found_iff hps
  · intro statement args bound harray hbound before after hplain before' after' hfixed hne
    obtain ⟨ps, hps, hsuits⟩ := suits_of_bindPositional harray hbound
    by_contra hvalue
    have hpositional := hasPositional_of_mem (hplain.mem_placeholders hps (by decide))
    have hindexed := hfixed.mem_placeholders hps (Nat.lt_of_not_le hvalue)
    rw [markOf, if_neg hne] at hindexed
    rw [hsuits.unmixed (hasIndexed_of_mem hindexed)] at hpositional
    cases hpositional

def wideDigits : List Char := "18446744073709551616".toList

/-- A list in the place of a question mark, and an index that 64 bits do not hold. -/
def wideSample : String := "a IN (?) AND b = ?18446744073709551616"

def wideBound : BoundStatement :=
  ⟨"a IN (?,?) AND b = ?18446744073709551616", [.int 1, .int 2]⟩

theorem wideSample_plain :
    MarkAt wideSample.toList "a IN (".toList [] ") AND b = ?18446744073709551616".toList :=
  ⟨by decide, by decide +kernel, rfl, rfl⟩

theorem wideSample_wide :
    MarkAt wideSample.toList "a IN (?) AND b = ".toList wideDigits [] :=
  ⟨by decide, by decide +kernel, by decide, rfl⟩

theorem wideSample_bound :
    bindPositional wideSample [.arr [.int 1, .int 2]] = .ok wideBound := rfl

theorem not_endsInLineComment_plain {text : List Char} (h : (feed .code text).1 = .code) :
    ¬ EndsInLineComment text := by
  rw [← feed_eq_lineComment_iff, h]
  exact Mode.noConfusion

/-- An index with zeros before it, behind a character of two bytes. -/
theorem marks_found_within_range_samples :
    (∃ as ps, parse "ß = 1" = .ok as ∧ ¬ EndsInLineComment "ß = 1".toList ∧
      "007".toList.all Char.isDigit = true ∧
      parse ("ß = 1" ++ " ?" ++ String.ofList "007".toList ++ " " ++ "OR c") = .ok ps ∧
      ((∃ l ∈ locate 0 ps, l.start = "ß = 1".utf8ByteSize + 1) ↔
        Text.digitsValue "007".toList < Text.wordBound)) ∧
    ([Json.arr [.int 1, .int 2]].any Json.isArray = true ∧
      bindPositional wideSample [.arr [.int 1, .int 2]] = .ok wideBound ∧
      MarkAt wideSample.toList "a IN (".toList [] ") AND b = ?18446744073709551616".toList ∧
      MarkAt wideSample.toList "a IN (?) AND b = ".toList wideDigits [] ∧ wideDigits ≠ [] ∧
      Text.wordBound ≤ Text.digitsValue wideDigits) := by
  have hbefore : parse "ß = 1" = .ok (plainChars "ß = 1".toList) := by decide +kernel
  have hall : parse ("ß = 1" ++ " ?" ++ String.ofList "007".toList ++ " " ++ "OR c") =
      .ok (plainChars "ß = 1 ".toList ++
        .marker (.indexed 7) "?007".toList :: plainChars " OR c".toList) := by decide +kernel
  have hend : ¬ EndsInLineComment "ß = 1".toList :=
    not_endsInLineComment_plain (by decide +kernel)
  refine ⟨⟨_, _, hbefore, hend, by decide, hall, ?_⟩, rfl, wideSample_bound, wideSample_plain,
    wideSample_wide, by decide, ?_⟩
  · exact (marks_found_within_range _).1 _ _ _ _ hbefore hend (by decide) hall
  · exact (marks_found_within_range _).2 _ _ _ rfl wideSample_bound _ _ wideSample_plain _ _
      wideSample_wide (by decide)

/-- The mark with the wide index is not found, and the list before it is expanded. -/
theorem wide_index_is_dropped :
    (∃ as ps, parse "SELECT 1" = .ok as ∧ ¬ EndsInLineComment "SELECT 1".toList ∧
      wideDigits.all Char.isDigit = true ∧
      parse ("SELECT 1" ++ " ?" ++ String.ofList wideDigits ++ " " ++ "") = .ok ps ∧
      ∀ l ∈ locate 0 ps, l.start ≠ "SELECT 1".utf8ByteSize + 1) ∧
    (MarkAt wideSample.toList "a IN (".toList [] ") AND b = ?18446744073709551616".toList ∧
      MarkAt wideSample.toList "a IN (?) AND b = ".toList wideDigits [] ∧
      bindPositional wideSample [.arr [.int 1, .int 2]] = .ok wideBound) := by
  have hbefore : parse "SELECT 1" = .ok (plainChars "SELECT 1".toList) := by decide +kernel
  have hall : parse ("SELECT 1" ++ " ?" ++ String.ofList wideDigits ++ " " ++ "") =
      .ok (plainChars "SELECT 1 ?18446744073709551616 ".toList) := by decide +kernel
  have hend : ¬ EndsInLineComment "SELECT 1".toList :=
    not_endsInLineComment_plain (by decide +kernel)
  refine ⟨⟨_, _, hbefore, hend, by decide, hall, ?_⟩, wideSample_plain, wideSample_wide,
    wideSample_bound⟩
  rw [locate_plainChars]
  simp

end QueryCatalog.Statement
