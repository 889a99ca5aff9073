import QueryCatalog.Proofs.Engine.Clause
import QueryCatalog.Statement.Binding

/-!
The window and the count of a statement ask for the same values as the statement. What the dialect
cuts off and writes around it makes no placeholder and loses none, so arguments that fit the
statement fit both.
-/
namespace QueryCatalog

namespace Statement

/-- An answer with the arguments only. -/
def boundArgs (answer : Except StatementError BoundStatement) : Except StatementError (List Json) :=
  answer.map BoundStatement.args

/-- Which arguments are bound hangs on the placeholders, and not on the text between them. -/
theorem boundArgs_bindPieces {ps qs : List Piece} (h : placeholders qs = placeholders ps)
    (s t : String) (args : List Json) :
    boundArgs (bindPieces t args qs) = boundArgs (bindPieces s args ps) := by
  have hnamed : hasNamed qs = hasNamed ps := by rw [hasNamed, hasNamed, h]
  have hindexed : hasIndexed qs = hasIndexed ps := by rw [hasIndexed, hasIndexed, h]
  have hpositional : hasPositional qs = hasPositional ps := by rw [hasPositional, hasPositional, h]
  unfold bindPieces
  rw [hnamed, hindexed, hpositional, h]
  split_ifs <;> rfl

/-- Two statements that are accepted and have the same placeholders in the same order. -/
structure Alike (s t : String) (ps : List Piece) : Prop where
  accepted : parse s = .ok ps
  same : ∃ qs, parse t = .ok qs ∧ placeholders qs = placeholders ps

namespace Alike

variable {s t : String} {ps : List Piece}

/-- Values bound by position are bound to both, or to neither for the same reason. -/
theorem bindPositional (h : Alike s t ps) (args : List Json) :
    boundArgs (Statement.bindPositional t args) = boundArgs (Statement.bindPositional s args) := by
  obtain ⟨qs, hqs, hsame⟩ := h.same
  unfold Statement.bindPositional
  split_ifs
  · rw [h.accepted, hqs]
    exact boundArgs_bindPieces hsame s t args
  · rfl

/-- Values bound by name are bound to both, or to neither for the same reason. -/
theorem bindNamed (h : Alike s t ps) (source : Json) :
    boundArgs (Statement.bindNamed t source) = boundArgs (Statement.bindNamed s source) := by
  obtain ⟨qs, hqs, hsame⟩ := h.same
  have hindexed : hasIndexed qs = hasIndexed ps := by rw [hasIndexed, hasIndexed, hsame]
  have hpositional : hasPositional qs = hasPositional ps := by
    rw [hasPositional, hasPositional, hsame]
  unfold Statement.bindNamed
  rw [h.accepted, hqs]
  simp only [Except.bind, hindexed, hpositional, hsame]
  split_ifs <;> rfl

end Alike

end Statement

namespace Dialect

open Statement

/-- A line behind a statement adds no placeholder and completes none, whether the statement ends in
a line comment or not. -/
theorem pieces_append_line {text clause : List Char} {first : Char} {ps : List Piece}
    (h : pieces text = .ok ps) (hfirst : isBreak first = true)
    (hclause : (first :: clause).all isInline = true) :
    pieces (text ++ first :: clause) = .ok (ps ++ plainChars (first :: clause)) := by
  by_cases hend : EndsInLineComment text
  · exact pieces_append_comment h hend (no_line_of_inline hclause)
  · rw [List.all_cons, Bool.and_eq_true] at hclause
    exact pieces_append_ordinary h hend hfirst (ordinary_of_inline hclause.2)

/-- The window and the count of an accepted statement are accepted, with the same placeholders in
the same order, and the same values can be bound to them. -/
theorem rewritten_fits {s : String} {ps : List Piece} (h : parse s = .ok ps) (offset limit : Nat)
    (hints : List Hint) : ∀ t ∈ [ansi.limit s offset limit hints, ansi.count s hints],
      (∃ qs, parse t = .ok qs ∧ placeholders qs = placeholders ps) ∧
        (∀ args, boundArgs (bindPositional t args) = boundArgs (bindPositional s args)) ∧
        ∀ source, boundArgs (bindNamed t source) = boundArgs (bindNamed s source) := by
  intro t ht
  obtain ⟨bares, hbares, hsame⟩ := parse_bare h
  obtain ⟨head, first, clause, htext, hhead, hfirst, hclause⟩ :=
    ansi_around s offset limit hints t ht
  have hpieces : parse t = .ok (plainChars head ++ (bares ++ plainChars (first :: clause))) := by
    rw [parse, htext]
    exact pieces_after_ordinary hhead (pieces_append_line hbares hfirst hclause)
  have halike : Alike s t ps := ⟨h, _, hpieces, by simp [hsame]⟩
  exact ⟨halike.same, halike.bindPositional, halike.bindNamed⟩

/-- Values are asked for where the statement begins and before the comment in which it ends, and
not within the quotes or the comment. -/
def rangeStatement : String := "\n:lo <= x AND y <> '?' AND x <= :hi -- not :top ;; \n"

theorem rewritten_fits_rangeStatement :
    ∃ ps, parse rangeStatement = .ok ps ∧ placeholders ps = [.named "lo", .named "hi"] ∧
      (∃ qs, parse (ansi.limit rangeStatement 20 10 []) = .ok qs ∧
        placeholders qs = placeholders ps) ∧
      ∃ qs, parse (ansi.count rangeStatement []) = .ok qs ∧ placeholders qs = placeholders ps := by
  have hlimit := rewritten_fits (s := rangeStatement) rfl 20 10 [] _ List.mem_cons_self
  have hcount := rewritten_fits (s := rangeStatement) rfl 20 10 [] _
    (List.mem_cons_of_mem _ List.mem_cons_self)
  exact ⟨_, rfl, rfl, hlimit.1, hcount.1⟩

end Dialect

end QueryCatalog
