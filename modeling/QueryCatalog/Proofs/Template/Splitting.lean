import Mathlib.Data.List.Chain
import Mathlib.Data.List.Infix
import QueryCatalog.Proofs.Text.Trimming
import QueryCatalog.Template.Segment

/-!
Template source written fragment by fragment. Whatever stands between delimiters, if only they are
not closed in between, the source is split at the fragments that it was written from, and a text is
trimmed on a side exactly if the delimiter next to it has a hyphen there.
-/
namespace QueryCatalog.Template

/-- A text outside of all delimiters. -/
structure TextRun where
  chars : List Char
  nonempty : chars ≠ []
  unopened : '{' ∉ chars

/-- A body with blanks between it and its delimiters. -/
structure Enclosed where
  kind : Delimiter
  body : List Char
  /-- There is a hyphen in the opening delimiter. -/
  trimsBefore : Bool
  /-- There is a hyphen in the closing delimiter. -/
  trimsAfter : Bool
  trimmed : Text.trimChars body = body
  unclosed : ¬ [kind.close, '}'] <:+: body

def hyphen (present : Bool) : List Char := if present then ['-'] else []

namespace Enclosed

/-- What stands between the delimiters, hyphens included. -/
def inner (x : Enclosed) : List Char :=
  hyphen x.trimsBefore ++ ' ' :: (x.body ++ ' ' :: hyphen x.trimsAfter)

def chars (x : Enclosed) : List Char :=
  '{' :: x.kind.char :: (x.inner ++ [x.kind.close, '}'])

/-- Comments are dropped. -/
def segments (x : Enclosed) : List Segment :=
  match x.kind with
  | .output => [.output (String.ofList x.body)]
  | .tag => [.tag (String.ofList x.body)]
  | .comment => []

end Enclosed

inductive Fragment where
  | text (run : TextRun)
  | enclosed (x : Enclosed)

namespace Fragment

def isText : Fragment → Bool
  | .text _ => true
  | .enclosed _ => false

def chars : Fragment → List Char
  | .text run => run.chars
  | .enclosed x => x.chars

/-- The text before it is trimmed. -/
def trimsBefore : Fragment → Bool
  | .text _ => false
  | .enclosed x => x.trimsBefore

/-- The text after it is trimmed. -/
def trimsAfter : Fragment → Bool
  | .text _ => false
  | .enclosed x => x.trimsAfter

/-- What it becomes between fragments that trim it or do not. Nothing may be left of a text. -/
def segments (start stop : Bool) : Fragment → List Segment
  | .text run =>
    let left := if start then Text.trimStart run.chars else run.chars
    let left := if stop then Text.trimEnd left else left
    if left = [] then [] else [.text (String.ofList left)]
  | .enclosed x => x.segments

end Fragment

/-- The source that is written fragment by fragment. -/
def source (fs : List Fragment) : String := String.ofList (fs.flatMap Fragment.chars)

/-- What the fragments become; the flag tells whether the fragment before them trims its text. -/
def segmentsOf : Bool → List Fragment → List Segment
  | _, [] => []
  | start, f :: rest =>
    f.segments start (rest.head?.any Fragment.trimsBefore) ++ segmentsOf f.trimsAfter rest

/-- Two texts next to each other would be one. -/
def Apart (fs : List Fragment) : Prop := fs.IsChain fun f g => ¬ (f.isText ∧ g.isText)

/-! One step of the splitting after the other. -/

theorem run_split_step {m n last : SplitMode} {c : Char} {cs : List Char}
    {out rest : List Segment} (hstep : splitStep m c = (n, out))
    (hrest : splitter.run n cs = .ok (last, rest)) :
    splitter.run m (c :: cs) = .ok (last, out ++ rest) :=
  Scanner.run_stepped (congrArg Except.ok hstep) hrest

/-- From this point on the text is split to the segments. -/
def Yields (m : SplitMode) (cs : List Char) (segs : List Segment) : Prop :=
  ∃ last out rest, splitter.run m cs = .ok (last, out) ∧ splitFinish last = .ok rest ∧
    out ++ rest = segs

theorem Yields.append {m n : SplitMode} {as bs : List Char} {out segs : List Segment}
    (hrun : splitter.run m as = .ok (n, out)) (h : Yields n bs segs) :
    Yields m (as ++ bs) (out ++ segs) := by
  obtain ⟨last, mid, rest, hlast, hfinish, rfl⟩ := h
  exact ⟨last, out ++ mid, rest, Scanner.run_joined hrun hlast, hfinish, List.append_assoc _ _ _⟩

theorem split_of_yields {text : String} {segs : List Segment}
    (h : Yields (.text [] false) text.toList segs) : split text = .ok segs := by
  obtain ⟨last, out, rest, hrun, hfinish, rfl⟩ := h
  have hstart : splitter.start = .text [] false := rfl
  have hlast : splitter.finish last = .ok rest := hfinish
  rw [split, Scanner.scan, hstart, hrun]
  dsimp only
  rw [hlast]

theorem run_text {cs : List Char} (h : '{' ∉ cs) (held : List Char) (trim : Bool) :
    splitter.run (.text held trim) cs = .ok (.text (cs.reverse ++ held) trim, []) := by
  induction cs generalizing held with
  | nil => rfl
  | cons c cs ih =>
    rw [List.mem_cons, not_or] at h
    have hstep : splitStep (.text held trim) c = (.text (c :: held) trim, []) := by
      simp [splitStep, Ne.symm h.1]
    have hrest := run_split_step hstep (ih h.2 (c :: held))
    simpa using hrest

/-! The body of a delimiter. -/

/-- The body has been read so far. Its last character is kept apart if it may begin the closing
delimiter. -/
def InBody (kind : Delimiter) (before : List Char) (trim : Bool) (held : List Char)
    (m : SplitMode) : Prop :=
  m = .body kind before trim held ∨
    ∃ rest, held = kind.close :: rest ∧ m = .closing kind before trim rest

theorem splitStep_inBody {kind : Delimiter} {before held : List Char} {trim : Bool} {m : SplitMode}
    (hm : InBody kind before trim held m) {c : Char}
    (hopen : ¬ [kind.close, '}'] <:+: held.reverse ++ [c]) :
    ∃ n, InBody kind before trim (c :: held) n ∧ splitStep m c = (n, []) := by
  rcases hm with rfl | ⟨rest, rfl, rfl⟩
  · by_cases hc : c = kind.close
    · exact ⟨.closing kind before trim held, .inr ⟨held, by rw [hc], rfl⟩, by simp [splitStep, hc]⟩
    · exact ⟨.body kind before trim (c :: held), .inl rfl, by simp [splitStep, hc]⟩
  · have hbrace : c ≠ '}' := by
      rintro rfl
      exact hopen ⟨rest.reverse, [], by simp⟩
    by_cases hc : c = kind.close
    · refine ⟨.closing kind before trim (kind.close :: rest), .inr ⟨_, by rw [hc], rfl⟩, ?_⟩
      rw [hc] at hbrace
      simp [splitStep, hc, hbrace]
    · exact ⟨.body kind before trim (c :: kind.close :: rest), .inl rfl,
        by simp [splitStep, hc, hbrace]⟩

theorem run_inBody {kind : Delimiter} {before held cs : List Char} {trim : Bool} {m : SplitMode}
    (hm : InBody kind before trim held m) (hopen : ¬ [kind.close, '}'] <:+: held.reverse ++ cs) :
    ∃ n, InBody kind before trim (cs.reverse ++ held) n ∧ splitter.run m cs = .ok (n, []) := by
  induction cs generalizing m held with
  | nil => exact ⟨m, hm, rfl⟩
  | cons c cs ih =>
    have hall : held.reverse ++ c :: cs = (held.reverse ++ [c]) ++ cs := by simp
    rw [hall] at hopen
    have hfirst : ¬ [kind.close, '}'] <:+: held.reverse ++ [c] := fun hin =>
      hopen (hin.trans (List.prefix_append _ cs).isInfix)
    obtain ⟨n, hn, hstep⟩ := splitStep_inBody hm hfirst
    obtain ⟨last, hlast, hrest⟩ := ih hn (by rw [List.reverse_cons]; exact hopen)
    refine ⟨last, by simpa using hlast, run_split_step hstep hrest⟩

/-- A body ends at its first closing delimiter. -/
theorem run_body (before : List Char) (trim : Bool) {kind : Delimiter} {body : List Char}
    (h : ¬ [kind.close, '}'] <:+: body ++ [kind.close]) :
    splitter.run (.body kind before trim []) (body ++ [kind.close, '}']) =
      .ok (closeBody kind before trim body.reverse) := by
  have hopen : ¬ [kind.close, '}'] <:+: ([] : List Char).reverse ++ body := fun hin =>
    h (hin.trans (List.prefix_append _ _).isInfix)
  have hstart : InBody kind before trim [] (.body kind before trim []) := .inl rfl
  obtain ⟨m, hm, hrun⟩ := run_inBody hstart hopen
  rw [List.append_nil] at hm
  have hclose : splitStep m kind.close = (.closing kind before trim body.reverse, []) := by
    rcases hm with rfl | ⟨rest, hheld, rfl⟩
    · simp [splitStep]
    · have hbrace : kind.close ≠ '}' := by
        intro heq
        refine h ⟨rest.reverse, [], ?_⟩
        rw [← List.reverse_reverse body, hheld]
        simp [heq]
      rw [hheld]
      simp [splitStep, hbrace]
  have hend : splitStep (.closing kind before trim body.reverse) '}' =
      closeBody kind before trim body.reverse := by simp [splitStep]
  rcases hresult : closeBody kind before trim body.reverse with ⟨last, out⟩
  rw [hresult] at hend
  have htail : splitter.run last [] = .ok (last, []) := rfl
  simpa using Scanner.run_joined hrun (run_split_step hclose (run_split_step hend htail))

/-- No closing delimiter begins or ends with such a character. -/
def isSpacing (c : Char) : Bool := c == ' ' || c == '-'

theorem ne_close_of_isSpacing {c : Char} (h : isSpacing c = true) (kind : Delimiter) :
    c ≠ kind.close ∧ c ≠ '}' := by
  simp only [isSpacing, Bool.or_eq_true, beq_iff_eq] at h
  rcases h with rfl | rfl <;> cases kind <;> decide

theorem unclosed_cons {kind : Delimiter} {c : Char} {cs : List Char} (hc : isSpacing c = true)
    (h : ¬ [kind.close, '}'] <:+: cs) : ¬ [kind.close, '}'] <:+: c :: cs := by
  rw [List.infix_cons_iff, not_or]
  refine ⟨fun hstart => ?_, h⟩
  obtain ⟨heq, -⟩ := List.cons_prefix_cons.mp hstart
  exact (ne_close_of_isSpacing hc kind).1 heq.symm

theorem unclosed_concat {kind : Delimiter} {c : Char} {cs : List Char} (hc : isSpacing c = true)
    (h : ¬ [kind.close, '}'] <:+: cs) : ¬ [kind.close, '}'] <:+: cs ++ [c] := by
  rw [List.infix_concat_iff, not_or]
  refine ⟨fun ⟨before, hend⟩ => ?_, h⟩
  have hlast := congrArg List.getLast? hend
  rw [List.getLast?_append, List.getLast?_concat] at hlast
  exact (ne_close_of_isSpacing hc kind).2 (Option.some.inj hlast).symm

theorem all_isSpacing_hyphen (present : Bool) : (hyphen present).all isSpacing = true := by
  cases present <;> rfl

theorem unclosed_surrounded {kind : Delimiter} {cs before after : List Char}
    (hbefore : before.all isSpacing = true) (hafter : after.all isSpacing = true)
    (h : ¬ [kind.close, '}'] <:+: cs) : ¬ [kind.close, '}'] <:+: before ++ (cs ++ after) := by
  have hend : ¬ [kind.close, '}'] <:+: cs ++ after := by
    induction after using List.reverseRec with
    | nil => rwa [List.append_nil]
    | append_singleton after c ih =>
      rw [List.all_append, Bool.and_eq_true] at hafter
      rw [← List.append_assoc]
      exact unclosed_concat (by simpa using hafter.2) (ih hafter.1)
  induction before with
  | nil => exact hend
  | cons c before ih =>
    rw [List.all_cons, Bool.and_eq_true] at hbefore
    exact unclosed_cons hbefore.1 (ih hbefore.2)

namespace Enclosed

variable (x : Enclosed)

theorem unclosed_inner : ¬ [x.kind.close, '}'] <:+: x.inner := by
  have hinner : x.inner =
      (hyphen x.trimsBefore ++ [' ']) ++ (x.body ++ ' ' :: hyphen x.trimsAfter) := by
    simp [inner]
  rw [hinner]
  refine unclosed_surrounded ?_ ?_ x.unclosed
  · rw [List.all_append, all_isSpacing_hyphen]
    rfl
  · rw [List.all_cons, all_isSpacing_hyphen]
    rfl

/-- Its last character does not begin the closing delimiter. -/
theorem inner_concat : ∃ cs c, x.inner = cs ++ [c] ∧ isSpacing c = true := by
  unfold inner
  cases x.trimsAfter with
  | true => exact ⟨hyphen x.trimsBefore ++ ' ' :: (x.body ++ [' ']), '-', by simp [hyphen], rfl⟩
  | false => exact ⟨hyphen x.trimsBefore ++ ' ' :: x.body, ' ', by simp [hyphen], rfl⟩

theorem unclosed_inner_close : ¬ [x.kind.close, '}'] <:+: x.inner ++ [x.kind.close] := by
  obtain ⟨cs, c, hinner, hc⟩ := x.inner_concat
  rw [List.infix_concat_iff, not_or]
  refine ⟨fun ⟨before, hend⟩ => ?_, x.unclosed_inner⟩
  rw [hinner, List.append_assoc] at hend
  have hlast := List.append_inj_right' hend rfl
  exact (ne_close_of_isSpacing hc x.kind).1 (List.cons.inj hlast).1.symm

theorem cutHyphens_inner :
    cutHyphens x.inner = (x.trimsBefore, ' ' :: (x.body ++ [' ']), x.trimsAfter) := by
  unfold inner
  cases x.trimsBefore <;> cases x.trimsAfter <;>
    simp [cutHyphens, hyphen, List.getLast?_cons, List.getLast?_append,
      List.dropLast_cons_of_ne_nil, List.dropLast_append_of_ne_nil]

theorem bodySegment_eq : bodySegment x.kind (' ' :: (x.body ++ [' '])) = x.segments := by
  have htrim := Text.trimChars_surrounded x.trimmed
  cases hkind : x.kind <;> simp only [bodySegment, segments, hkind, htrim]

/-- Reading all of it gives out the text before it and what it becomes itself. -/
theorem run_chars (held : List Char) (trim : Bool) :
    splitter.run (.text held trim) x.chars = .ok (.text [] x.trimsAfter,
      textSegment held.reverse trim x.trimsBefore ++ x.segments) := by
  have hbrace : splitStep (.text held trim) '{' = (.brace held trim, []) := rfl
  have hopen : splitStep (.brace held trim) x.kind.char = (.body x.kind held trim [], []) := by
    cases x.kind <;> rfl
  have hcut : closeBody x.kind held trim x.inner.reverse = (.text [] x.trimsAfter,
      textSegment held.reverse trim x.trimsBefore ++ x.segments) := by
    simp only [closeBody, List.reverse_reverse, x.cutHyphens_inner, x.bodySegment_eq]
  have hbody := run_body held trim x.unclosed_inner_close
  rw [hcut] at hbody
  simpa [chars] using run_split_step hbrace (run_split_step hopen hbody)

end Enclosed

theorem segments_text (run : TextRun) (start stop : Bool) :
    (Fragment.text run).segments start stop = textSegment run.chars start stop := by
  simp only [Fragment.segments, textSegment, List.isEmpty_iff]

/-- After a text there is no text; it is given out with what follows. -/
theorem yields_fragments {fs : List Fragment} (h : Apart fs) :
    (∀ trim, Yields (.text [] trim) (fs.flatMap Fragment.chars) (segmentsOf trim fs)) ∧
      (fs.head?.any Fragment.isText = false → ∀ held trim start,
        Yields (.text held trim) (fs.flatMap Fragment.chars)
          (textSegment held.reverse trim (fs.head?.any Fragment.trimsBefore) ++
            segmentsOf start fs)) := by
  induction fs with
  | nil =>
    have hlast : ∀ held trim, Yields (.text held trim) [] (textSegment held.reverse trim false) :=
      fun held trim => ⟨_, _, _, rfl, rfl, rfl⟩
    refine ⟨fun trim => ?_, fun _ held trim start => ?_⟩
    · have hnone : textSegment [] trim false = [] := by cases trim <;> rfl
      have hempty := hlast [] trim
      rwa [List.reverse_nil, hnone] at hempty
    · simpa [segmentsOf] using hlast held trim
  | cons f rest ih =>
    obtain ⟨hfresh, hafter⟩ := ih h.tail
    cases f with
    | text run =>
      refine ⟨fun trim => ?_, fun hnone => by cases hnone⟩
      have hnext : rest.head?.any Fragment.isText = false := by
        cases rest with
        | nil => rfl
        | cons g rest =>
          have hpair := (List.isChain_cons_cons.mp h).1
          simpa [Fragment.isText] using hpair
      have hrest := hafter hnext run.chars.reverse trim false
      have hread := run_text run.unopened [] trim
      rw [List.append_nil] at hread
      rw [List.reverse_reverse, ← segments_text] at hrest
      have hboth := hrest.append hread
      rwa [List.nil_append] at hboth
    | enclosed x =>
      have hrest := hfresh x.trimsAfter
      have hall : ∀ held trim start, Yields (.text held trim)
          (x.chars ++ rest.flatMap Fragment.chars)
          (textSegment held.reverse trim x.trimsBefore ++
            segmentsOf start (.enclosed x :: rest)) := by
        intro held trim start
        have hboth := hrest.append (x.run_chars held trim)
        rwa [List.append_assoc] at hboth
      refine ⟨fun trim => ?_, fun _ => hall⟩
      have hnone : textSegment [] trim x.trimsBefore = [] := by
        cases trim <;> cases x.trimsBefore <;> rfl
      have hempty := hall [] trim trim
      rwa [List.reverse_nil, hnone] at hempty

/-- Source is split at the fragments that it was written from. -/
theorem split_fragments {fs : List Fragment} (h : Apart fs) :
    split (source fs) = .ok (segmentsOf false fs) := by
  refine split_of_yields ?_
  rw [source, String.toList_ofList]
  exact (yields_fragments h).1 false

/-- A text that is trimmed on one side, a comment, a text of which nothing is left, and a tag with
other delimiters inside. -/
def noteFragments : List Fragment :=
  [.text ⟨"SELECT \n".toList, by decide, by decide⟩,
    .enclosed ⟨.comment, "a \x7d\x7d b".toList, true, true, by decide, by decide⟩,
    .text ⟨" \t".toList, by decide, by decide⟩,
    .enclosed ⟨.output, "sp(a)".toList, false, false, by decide, by decide⟩,
    .enclosed ⟨.tag, "if '\x7b\x7b\x7d\x7d'".toList, true, false, by decide, by decide⟩,
    .text ⟨" x".toList, by decide, by decide⟩]

theorem split_fragments_note : Apart noteFragments ∧
    source noteFragments =
      "SELECT \n\x7b#- a \x7d\x7d b -#\x7d \t\x7b\x7b sp(a) \x7d\x7d" ++
        "\x7b%- if '\x7b\x7b\x7d\x7d' %\x7d x" ∧
    split (source noteFragments) =
      .ok [.text "SELECT", .output "sp(a)", .tag "if '\x7b\x7b\x7d\x7d'", .text " x"] := by
  have hapart : Apart noteFragments := by simp [Apart, noteFragments, Fragment.isText]
  exact ⟨hapart, by decide, split_fragments hapart⟩

end QueryCatalog.Template
