import Mathlib.Data.String.Basic
import QueryCatalog.Proofs.Statement.Marks

/-!
The bytes that placeholders take. They are counted while the text is read; here they are used to cut
the text, which only succeeds between whole characters, and the pieces that come out are those that
were read.
-/
namespace QueryCatalog.Statement

/-- The text from one byte to another. There is none unless both stand within the text, between
whole characters, and in this order. -/
def slice? (text : String) (start stop : Nat) : Option String :=
  if start ≤ stop ∧ String.Pos.Raw.IsValid text ⟨start⟩ ∧ String.Pos.Raw.IsValid text ⟨stop⟩ then
    some (String.Pos.Raw.extract text ⟨start⟩ ⟨stop⟩)
  else none

/-- The text from a byte on with marks for values in the place of all that is located there, put
together from slices. -/
def splice? (text : String) (last : Nat) : List Located → List Json → Option String
  | [], _ => slice? text last text.utf8ByteSize
  | l :: rest, values => do
    let before ← slice? text last l.start
    let after ← splice? text l.stop rest values.tail
    return before ++ String.ofList (marks (expand (values.headD .null)).length) ++ after

/-! Cutting a text at the bytes that its parts take. -/

theorem byteSize_eq_utf8Len (cs : List Char) : byteSize cs = String.utf8Len cs := by
  induction cs with
  | nil => rfl
  | cons c cs ih =>
    rw [String.utf8Len_cons, ← ih, Nat.add_comm]
    rfl

theorem isValid_byteSize (before after : List Char) :
    String.Pos.Raw.IsValid (String.ofList (before ++ after)) ⟨byteSize before⟩ := by
  rw [String.Pos.Raw.isValid_iff_exists_append]
  refine ⟨String.ofList before, String.ofList after, String.ofList_append, ?_⟩
  rw [byteSize_eq]
  rfl

theorem slice?_middle (before middle after : List Char) :
    slice? (String.ofList (before ++ middle ++ after)) (byteSize before)
      (byteSize before + byteSize middle) = some (String.ofList middle) := by
  have hstart := isValid_byteSize before (middle ++ after)
  have hstop := isValid_byteSize (before ++ middle) after
  rw [← List.append_assoc] at hstart
  rw [byteSize_append] at hstop
  rw [slice?, if_pos ⟨Nat.le_add_right _ _, hstart, hstop⟩, byteSize_eq_utf8Len,
    byteSize_eq_utf8Len, String.extract_of_valid]

/-! Where the placeholders of pieces are located. -/

theorem mem_locate {ps : List Piece} {start : Nat} {l : Located} (h : l ∈ locate start ps) :
    ∃ front back p text, ps = front ++ .marker p text :: back ∧
      l = ⟨p, start + byteSize (textOf front), start + byteSize (textOf front) + byteSize text,
        String.ofList text⟩ := by
  induction ps generalizing start with
  | nil => cases h
  | cons q ps ih =>
    -- a placeholder behind the first piece stands that piece's bytes further on
    have hbehind : ∀ {n}, byteSize q.chars = n → l ∈ locate (start + n) ps →
        ∃ front back p text, q :: ps = front ++ .marker p text :: back ∧
          l = ⟨p, start + byteSize (textOf front), start + byteSize (textOf front) + byteSize text,
            String.ofList text⟩ := by
      intro n hn hl
      obtain ⟨front, back, p, text, rfl, rfl⟩ := ih hl
      refine ⟨q :: front, back, p, text, rfl, ?_⟩
      rw [textOf_cons, byteSize_append, hn, Nat.add_assoc start]
    cases q with
    | plain c => exact hbehind rfl h
    | marker p text =>
      rcases List.mem_cons.mp h with rfl | hl
      · exact ⟨[], ps, p, text, rfl, rfl⟩
      · exact hbehind rfl hl

theorem pairwise_locate {ps : List Piece} (hspelled : ∀ q ∈ ps, q.Spelled) (start : Nat) :
    (locate start ps).Pairwise fun a b => a.start < b.start ∧ a.stop ≤ b.start := by
  induction ps generalizing start with
  | nil => exact .nil
  | cons q ps ih =>
    rw [List.forall_mem_cons] at hspelled
    cases q with
    | plain c => exact ih hspelled.2 _
    | marker p text =>
      have hpos : 0 < byteSize text := byteSize_pos_of_spells hspelled.1
      refine .cons ?_ (ih hspelled.2 _)
      intro l hl
      have hstop := (start_of_mem_locate hspelled.2 hl).1
      constructor
      · dsimp only
        omega
      · exact hstop

theorem slice?_of_mem_locate {statement : String} {ps : List Piece}
    (h : parse statement = .ok ps) {l : Located} (hl : l ∈ locate 0 ps) :
    l.start < l.stop ∧ slice? statement l.start l.stop = some l.text ∧
      Spells l.placeholder l.text.toList := by
  have htext : textOf ps = statement.toList := textOf_pieces h
  have hspelled := spelled_pieces h
  obtain ⟨front, back, p, text, rfl, rfl⟩ := mem_locate hl
  have hspells : Spells p text := hspelled (.marker p text) (by simp)
  have hpos := byteSize_pos_of_spells hspells
  have hcut := slice?_middle (textOf front) text (textOf back)
  rw [textOf_append, textOf_cons, Piece.chars, ← List.append_assoc] at htext
  rw [htext, String.ofList_toList] at hcut
  rw [← Nat.zero_add (byteSize (textOf front))] at hcut
  refine ⟨?_, hcut, ?_⟩
  · dsimp only
    omega
  · rwa [String.toList_ofList]

/-! Putting the text together again. -/

theorem markedText_marker (p : Placeholder) (text : List Char) (ps : List Piece)
    (values : List Json) : markedText (.marker p text :: ps) values =
      marks (expand (values.headD .null)).length ++ markedText ps values.tail := by
  cases values with
  | nil => rfl
  | cons v values => rfl

/-- What has been read since the last placeholder is still to be cut out of the text. -/
theorem splice?_locate (before pending : List Char) (ps : List Piece) (values : List Json) :
    splice? (String.ofList (before ++ pending ++ textOf ps)) (byteSize before)
      (locate (byteSize before + byteSize pending) ps) values =
      some (String.ofList (pending ++ markedText ps values)) := by
  induction ps generalizing before pending values with
  | nil =>
    have hrest := slice?_middle before pending []
    rw [← byteSize_append, byteSize_eq (before ++ pending), List.append_nil] at hrest
    rw [locate, splice?, markedText, textOf_nil, List.append_nil, List.append_nil]
    exact hrest
  | cons q ps ih =>
    cases q with
    | plain c =>
      have hrest := ih before (pending ++ [c]) values
      have hsize : byteSize (pending ++ [c]) = byteSize pending + c.utf8Size := by
        rw [byteSize_append]
        rfl
      rw [hsize, ← Nat.add_assoc] at hrest
      simpa only [locate, textOf_cons, Piece.chars, markedText, List.append_assoc,
        List.singleton_append] using hrest
    | marker p text =>
      have hcut := slice?_middle before pending (text ++ textOf ps)
      have hrest := ih (before ++ pending ++ text) [] values.tail
      have hsize : byteSize (before ++ pending ++ text) + byteSize [] =
          byteSize before + byteSize pending + byteSize text := by
        rw [byteSize_append, byteSize_append]
        rfl
      have hstop : byteSize (before ++ pending ++ text) =
          byteSize before + byteSize pending + byteSize text := hsize
      rw [hsize, hstop, List.append_nil, List.append_assoc] at hrest
      rw [locate, splice?, textOf_cons, Piece.chars, hcut, hrest, markedText_marker,
        List.nil_append, String.ofList_append, String.ofList_append, ← String.append_assoc]
      rfl

/-! What is answered at all. -/

theorem parse_answers (statement : String) :
    (∃ ps, parse statement = .ok ps) ∨ parse statement = .error .openComment ∨
      ∃ quote, isQuote quote = true ∧ parse statement = .error (.openQuote quote) := by
  have hquote := quoteKnown_feed (m := .code) rfl statement.toList
  rw [parse, pieces_eq_finish]
  cases hm : (feed .code statement.toList).1 with
  | blockComment | blockStar => exact .inr (.inl rfl)
  | quoted quote =>
    rw [hm] at hquote
    exact .inr (.inr ⟨quote, hquote, rfl⟩)
  | escaped => exact .inr (.inr ⟨'\'', rfl, rfl⟩)
  | _ => exact .inl ⟨_, rfl⟩

/-- Every text is read to its placeholders or refused for what it leaves open. The placeholders are
increasing and disjoint, each takes just the bytes of the text that spells it, and the statement can
be cut at all of these bytes to write it anew for whatever values. -/
theorem spans_are_slices (statement : String) :
    ((∃ ps, parse statement = .ok ps) ∨ parse statement = .error .openComment ∨
      ∃ quote, isQuote quote = true ∧ parse statement = .error (.openQuote quote)) ∧
    ∀ ps, parse statement = .ok ps →
      ((locate 0 ps).Pairwise fun a b => a.start < b.start ∧ a.stop ≤ b.start) ∧
      (∀ l ∈ locate 0 ps, l.start < l.stop ∧ slice? statement l.start l.stop = some l.text ∧
        Spells l.placeholder l.text.toList) ∧
      ∀ values,
        splice? statement 0 (locate 0 ps) values = some (bindMarkers ps values).statement := by
  refine ⟨parse_answers statement, ?_⟩
  intro ps hps
  refine ⟨pairwise_locate (spelled_pieces hps) 0, ?_, ?_⟩
  · intro l hl
    exact slice?_of_mem_locate hps hl
  · intro values
    have hall := splice?_locate [] [] ps values
    have htext : textOf ps = statement.toList := textOf_pieces hps
    rw [List.append_nil, List.nil_append, htext, String.ofList_toList] at hall
    exact hall

/-- Characters of two and of four bytes, a question mark in quotes, and a name with a dot behind
it. -/
def spanSample : String := "ß = '?😀' AND :lo.. < ?007 -- :x"

def spanPieces : List Piece :=
  plainChars "ß = '?😀' AND ".toList ++ .marker (.named "lo.") ":lo.".toList ::
    (plainChars ". < ".toList ++ .marker (.indexed 7) "?007".toList :: plainChars " -- :x".toList)

def lowerEnd : Located := ⟨.named "lo.", 17, 21, ":lo."⟩

def seventh : Located := ⟨.indexed 7, 25, 29, "?007"⟩

theorem spans_are_slices_sample :
    parse spanSample = .ok spanPieces ∧ lowerEnd ∈ locate 0 spanPieces ∧
      [lowerEnd, seventh].Pairwise (fun a b => a.start < b.start ∧ a.stop ≤ b.start) ∧
      (lowerEnd.start < lowerEnd.stop ∧
        slice? spanSample lowerEnd.start lowerEnd.stop = some lowerEnd.text ∧
        Spells lowerEnd.placeholder lowerEnd.text.toList) ∧
      splice? spanSample 0 [lowerEnd, seventh] [.arr [.int 1, .int 2], .null] =
        some "ß = '?😀' AND ?,?. < ? -- :x" := by
  have hparse : parse spanSample = .ok spanPieces := by decide +kernel
  have hlocate : locate 0 spanPieces = [lowerEnd, seventh] := rfl
  obtain ⟨-, hread⟩ := spans_are_slices spanSample
  obtain ⟨hordered, hslices, hsplice⟩ := hread spanPieces hparse
  rw [hlocate] at hordered hslices hsplice
  rw [hlocate]
  refine ⟨hparse, List.mem_cons_self, hordered, hslices lowerEnd List.mem_cons_self, ?_⟩
  rw [hsplice]
  decide +kernel

end QueryCatalog.Statement
