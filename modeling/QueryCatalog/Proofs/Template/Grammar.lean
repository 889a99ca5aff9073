import Mathlib.Tactic.Common
import QueryCatalog.Proofs.Outcome
import QueryCatalog.Template.Tree

/-!
The grammar of templates. A block is a row of texts, outputs, branches and loops; a branch holds a
block for each of its conditions. The stack of open blocks accepts just the segments that the
grammar derives, and the tree that it makes is the derivation.
-/
namespace QueryCatalog.Template

/-- A tag is known by its first word. -/
def Tag (segment : Segment) (keyword rest : String) : Prop :=
  ∃ source, segment = .tag source ∧ splitKeyword source = (keyword, rest)

inductive Leaf : Segment → Node → Prop where
  | text (t : String) : Leaf (.text t) (.text t)
  | output {source : String} {e : Expr} (hsource : parseExpr source = .ok e) :
      Leaf (.output source) (.output e)

mutual

/-- The segments of a block, and the nodes that they make. -/
inductive Block : List Segment → List Node → Prop where
  | nil : Block [] []
  | leaf {s : Segment} {node : Node} {segs : List Segment} {nodes : List Node}
      (hleaf : Leaf s node) (hrest : Block segs nodes) : Block (s :: segs) (node :: nodes)
  | branch {s : Segment} {source : String} {condition : Expr} {inner tail segs : List Segment}
      {body otherwise nodes : List Node} {arms : List (Expr × List Node)}
      (hif : Tag s "if" source) (hcondition : parseExpr source = .ok condition)
      (hbody : Block inner body) (harms : Arms tail arms otherwise) (hrest : Block segs nodes) :
      Block (s :: (inner ++ tail) ++ segs) (.branch ((condition, body) :: arms) otherwise :: nodes)
  | loop {s closing : Segment} {header ending name : String} {iterable : Expr}
      {inner segs : List Segment} {body nodes : List Node}
      (hfor : Tag s "for" header) (hheader : parseHeader header = .ok (name, iterable))
      (hbody : Block inner body) (hend : Tag closing "endfor" ending) (hrest : Block segs nodes) :
      Block (s :: (inner ++ [closing]) ++ segs) (.loop name iterable body :: nodes)

/-- What follows the first body of a branch: further conditions with their bodies, then perhaps the
body that stands for all other cases, and the end. -/
inductive Arms : List Segment → List (Expr × List Node) → List Node → Prop where
  | elif {s : Segment} {source : String} {condition : Expr} {inner tail : List Segment}
      {body otherwise : List Node} {arms : List (Expr × List Node)}
      (helif : Tag s "elif" source) (hcondition : parseExpr source = .ok condition)
      (hbody : Block inner body) (harms : Arms tail arms otherwise) :
      Arms (s :: (inner ++ tail)) ((condition, body) :: arms) otherwise
  | otherwise {s closing : Segment} {rest ending : String} {inner : List Segment}
      {body : List Node} (helse : Tag s "else" rest) (hbody : Block inner body)
      (hend : Tag closing "endif" ending) : Arms (s :: (inner ++ [closing])) [] body
  | ending {s : Segment} {rest : String} (hend : Tag s "endif" rest) : Arms [s] [] []

end

/-! What is written in a template besides the words of its tags, in order. -/

inductive Part where
  | text (text : String)
  | output (expr : Expr)
  | condition (expr : Expr)
  | header (name : String) (iterable : Expr)

/-- The part that a segment holds, if what it embeds can be read. -/
def Segment.part? : Segment → Option Part
  | .text t => some (.text t)
  | .output source => (parseExpr source).toOption.map .output
  | .tag source =>
    let (keyword, rest) := splitKeyword source
    if keyword = "if" ∨ keyword = "elif" then (parseExpr rest).toOption.map .condition
    else if keyword = "for" then
      (parseHeader rest).toOption.map fun (name, iterable) => .header name iterable
    else none

mutual

def Node.parts : Node → List Part
  | .text t => [.text t]
  | .output e => [.output e]
  | .branch arms otherwise => armParts arms ++ nodeParts otherwise
  | .loop name iterable body => .header name iterable :: nodeParts body

def armParts : List (Expr × List Node) → List Part
  | [] => []
  | (condition, body) :: rest => .condition condition :: nodeParts body ++ armParts rest

def nodeParts : List Node → List Part
  | [] => []
  | node :: rest => node.parts ++ nodeParts rest

end

theorem Leaf.parts_eq {s : Segment} {node : Node} (h : Leaf s node) :
    node.parts = s.part?.toList := by
  cases h with
  | text t => simp [Node.parts, Segment.part?]
  | output hsource => simp [Node.parts, Segment.part?, hsource, Except.toOption]

theorem part?_condition {s : Segment} {keyword source : String} {condition : Expr}
    (htag : Tag s keyword source) (hkeyword : keyword = "if" ∨ keyword = "elif")
    (hcondition : parseExpr source = .ok condition) : s.part? = some (.condition condition) := by
  obtain ⟨text, rfl, hsplit⟩ := htag
  rw [Segment.part?, hsplit]
  simp only [if_pos hkeyword, hcondition, Except.toOption, Option.map_some]

theorem part?_header {s : Segment} {header name : String} {iterable : Expr}
    (htag : Tag s "for" header) (hheader : parseHeader header = .ok (name, iterable)) :
    s.part? = some (.header name iterable) := by
  obtain ⟨text, rfl, hsplit⟩ := htag
  rw [Segment.part?, hsplit]
  simp [hheader, Except.toOption]

theorem part?_none {s : Segment} {keyword rest : String} (htag : Tag s keyword rest)
    (hkeyword : keyword = "else" ∨ keyword = "endif" ∨ keyword = "endfor") : s.part? = none := by
  obtain ⟨text, rfl, hsplit⟩ := htag
  rw [Segment.part?, hsplit]
  rcases hkeyword with rfl | rfl | rfl <;> rfl

mutual

/-- Every part of the segments is in the tree once, and in its place. -/
theorem Block.parts_eq {segs : List Segment} {nodes : List Node} :
    Block segs nodes → nodeParts nodes = segs.filterMap Segment.part?
  | .nil => by simp [nodeParts]
  | .leaf hleaf hrest => by
    rw [nodeParts, hleaf.parts_eq, hrest.parts_eq, List.filterMap_cons]
    cases Segment.part? _ <;> rfl
  | .branch hif hcondition hbody harms hrest => by
    rw [nodeParts, Node.parts, armParts, hrest.parts_eq, List.filterMap_append,
      List.filterMap_cons, part?_condition hif (.inl rfl) hcondition, List.filterMap_append,
      ← hbody.parts_eq, ← harms.parts_eq]
    simp only [List.append_assoc, List.cons_append]
  | .loop hfor hheader hbody hend hrest => by
    rw [nodeParts, Node.parts, hrest.parts_eq, hbody.parts_eq, List.filterMap_append,
      List.filterMap_cons, part?_header hfor hheader, List.filterMap_append, List.filterMap_cons,
      part?_none hend (by simp)]
    simp

theorem Arms.parts_eq {segs : List Segment} {arms : List (Expr × List Node)}
    {otherwise : List Node} :
    Arms segs arms otherwise →
      armParts arms ++ nodeParts otherwise = segs.filterMap Segment.part?
  | .elif helif hcondition hbody harms => by
    rw [armParts, List.filterMap_cons, part?_condition helif (.inr rfl) hcondition,
      List.filterMap_append, ← hbody.parts_eq, ← harms.parts_eq]
    simp only [List.append_assoc, List.cons_append]
  | .otherwise helse hbody hend => by
    rw [armParts, List.nil_append, hbody.parts_eq, List.filterMap_cons,
      part?_none helse (by simp), List.filterMap_append, List.filterMap_cons,
      part?_none hend (by simp)]
    simp
  | .ending hend => by
    rw [armParts, nodeParts, List.filterMap_cons, part?_none hend (by simp)]
    rfl

end

/-! What one segment does to the open blocks. -/

namespace Builder

inductive Move : Builder → Segment → Builder → Prop where
  | leaf {b : Builder} {s : Segment} {node : Node} (hleaf : Leaf s node) : Move b s (b.push node)
  | openBranch {b : Builder} {s : Segment} {source : String} {condition : Expr}
      (hif : Tag s "if" source) (hcondition : parseExpr source = .ok condition) :
      Move b s (b.openFrame (.branch [] condition))
  | openLoop {b : Builder} {s : Segment} {header name : String} {iterable : Expr}
      (hfor : Tag s "for" header) (hheader : parseHeader header = .ok (name, iterable)) :
      Move b s (b.openFrame (.loop name iterable))
  | elif {s : Segment} {source : String} {condition next : Expr} {body outer : List Node}
      {done : List (Expr × List Node)} {frames : List (List Node × Frame)}
      (helif : Tag s "elif" source) (hnext : parseExpr source = .ok next) :
      Move ⟨body, (outer, .branch done condition) :: frames⟩ s
        ⟨[], (outer, .branch (done ++ [(condition, body)]) next) :: frames⟩
  | otherwise {s : Segment} {rest : String} {condition : Expr} {body outer : List Node}
      {done : List (Expr × List Node)} {frames : List (List Node × Frame)}
      (helse : Tag s "else" rest) :
      Move ⟨body, (outer, .branch done condition) :: frames⟩ s
        ⟨[], (outer, .otherwise (done ++ [(condition, body)])) :: frames⟩
  | endBranch {s : Segment} {rest : String} {condition : Expr} {body outer : List Node}
      {done : List (Expr × List Node)} {frames : List (List Node × Frame)}
      (hend : Tag s "endif" rest) :
      Move ⟨body, (outer, .branch done condition) :: frames⟩ s
        ⟨outer ++ [.branch (done ++ [(condition, body)]) []], frames⟩
  | endOtherwise {s : Segment} {rest : String} {body outer : List Node}
      {arms : List (Expr × List Node)} {frames : List (List Node × Frame)}
      (hend : Tag s "endif" rest) :
      Move ⟨body, (outer, .otherwise arms) :: frames⟩ s ⟨outer ++ [.branch arms body], frames⟩
  | endLoop {s : Segment} {rest name : String} {iterable : Expr} {body outer : List Node}
      {frames : List (List Node × Frame)} (hend : Tag s "endfor" rest) :
      Move ⟨body, (outer, .loop name iterable) :: frames⟩ s
        ⟨outer ++ [.loop name iterable body], frames⟩

/-- Where a tag belongs to the innermost open block, nothing else is made of it. -/
theorem step_of_continue {b : Builder} {s : Segment} {keyword rest : String}
    {result : Except TemplateError Builder} (htag : Tag s keyword rest)
    (h : b.continue? keyword rest = some result) : b.step s = result := by
  obtain ⟨source, rfl, hsplit⟩ := htag
  simp only [step, tag, hsplit, h]

/-- A tag that opens a block does not continue the one that is open. -/
theorem continue?_opening {keyword : String} (h : keyword = "if" ∨ keyword = "for") (b : Builder) :
    ∀ rest, b.continue? keyword rest = none := by
  intro rest
  obtain ⟨body, _ | ⟨⟨outer, _ | _ | _⟩, frames⟩⟩ := b <;> rcases h with rfl | rfl <;> rfl

theorem step_of_move {b next : Builder} {s : Segment} (h : Move b s next) :
    b.step s = .ok next := by
  cases h with
  | leaf hleaf =>
    cases hleaf with
    | text t => rfl
    | output hsource => rw [step, hsource]; rfl
  | openBranch hif hcondition =>
    obtain ⟨source, rfl, hsplit⟩ := hif
    have hopens := continue?_opening (.inl rfl) b
    simp [step, tag, hsplit, hopens, hcondition, Except.map]
  | openLoop hfor hheader =>
    obtain ⟨source, rfl, hsplit⟩ := hfor
    have hopens := continue?_opening (.inr rfl) b
    simp [step, tag, hsplit, hopens, hheader, Except.map]
  | elif helif hnext =>
    refine step_of_continue helif ?_
    rw [continue?, hnext]
    rfl
  | otherwise helse => exact step_of_continue helse rfl
  | endBranch hend => exact step_of_continue hend rfl
  | endOtherwise hend => exact step_of_continue hend rfl
  | endLoop hend => exact step_of_continue hend rfl

theorem move_of_continue {b next : Builder} {s : Segment} {keyword rest : String}
    (htag : Tag s keyword rest) (h : b.continue? keyword rest = some (.ok next)) :
    Move b s next := by
  obtain ⟨body, _ | ⟨⟨outer, ⟨done, condition⟩ | arms | ⟨name, iterable⟩⟩, frames⟩⟩ := b
  · cases h
  · simp only [continue?] at h
    split_ifs at h with helif helse hend
    · obtain ⟨c, hc, rfl⟩ := ok_of_map (Option.some.inj h)
      rw [beq_iff_eq.mp helif] at htag
      exact .elif htag hc
    · cases h
      rw [beq_iff_eq.mp helse] at htag
      exact .otherwise htag
    · cases h
      rw [beq_iff_eq.mp hend] at htag
      exact .endBranch htag
  · simp only [continue?] at h
    split_ifs at h with hend
    cases h
    rw [beq_iff_eq.mp hend] at htag
    exact .endOtherwise htag
  · simp only [continue?] at h
    split_ifs at h with hend
    cases h
    rw [beq_iff_eq.mp hend] at htag
    exact .endLoop htag

theorem move_of_step {b next : Builder} {s : Segment} (h : b.step s = .ok next) :
    Move b s next := by
  cases s with
  | text t =>
    cases h
    exact .leaf (.text t)
  | output source =>
    obtain ⟨e, he, rfl⟩ := ok_of_map h
    exact .leaf (.output he)
  | tag source =>
    rcases hsplit : splitKeyword source with ⟨keyword, rest⟩
    have htag : Tag (.tag source) keyword rest := ⟨source, rfl, hsplit⟩
    rw [step, tag, hsplit] at h
    dsimp only at h
    split at h
    · rename_i result hcontinue
      rw [h] at hcontinue
      exact move_of_continue htag hcontinue
    · split_ifs at h with hif hfor
      · obtain ⟨c, hc, rfl⟩ := ok_of_map h
        rw [beq_iff_eq.mp hif] at htag
        exact .openBranch htag hc
      · obtain ⟨⟨name, iterable⟩, hheader, rfl⟩ := ok_of_map h
        rw [beq_iff_eq.mp hfor] at htag
        exact .openLoop htag hheader

theorem run_cons {b next : Builder} {s : Segment} (h : Move b s next) (rest : List Segment) :
    b.run (s :: rest) = next.run rest := by
  rw [run, step_of_move h]

end Builder

open Builder (Move run_cons)

mutual

/-- The segments of a block add its nodes to the innermost open block, and leave the others. -/
theorem Block.run_eq {segs : List Segment} {nodes : List Node} :
    Block segs nodes → ∀ before frames rest,
      Builder.run ⟨before, frames⟩ (segs ++ rest) = Builder.run ⟨before ++ nodes, frames⟩ rest
  | .nil => fun before frames rest => by rw [List.nil_append, List.append_nil]
  | .leaf hleaf hrest => fun before frames rest => by
    rw [List.cons_append, run_cons (.leaf hleaf), Builder.push, hrest.run_eq, List.append_assoc]
    rfl
  | .branch hif hcondition hbody harms hrest => fun before frames rest => by
    rw [List.cons_append, List.cons_append, run_cons (.openBranch hif hcondition),
      Builder.openFrame, List.append_assoc, List.append_assoc, hbody.run_eq, harms.run_eq,
      hrest.run_eq, List.append_assoc]
    rfl
  | .loop hfor hheader hbody hend hrest => fun before frames rest => by
    rw [List.cons_append, List.cons_append, run_cons (.openLoop hfor hheader),
      Builder.openFrame, List.append_assoc, List.append_assoc, hbody.run_eq, List.singleton_append,
      run_cons (.endLoop hend), hrest.run_eq, List.append_assoc]
    rfl

theorem Arms.run_eq {segs : List Segment} {arms : List (Expr × List Node)}
    {otherwise : List Node} :
    Arms segs arms otherwise → ∀ outer done condition body frames rest,
      Builder.run ⟨body, (outer, .branch done condition) :: frames⟩ (segs ++ rest) =
        Builder.run
          ⟨outer ++ [.branch (done ++ (condition, body) :: arms) otherwise], frames⟩ rest
  | .elif helif hcondition hbody harms => fun outer done condition body frames rest => by
    rw [List.cons_append, run_cons (.elif helif hcondition), List.append_assoc, hbody.run_eq,
      harms.run_eq, List.append_assoc]
    rfl
  | .otherwise helse hbody hend => fun outer done condition body frames rest => by
    rw [List.cons_append, run_cons (.otherwise helse), List.append_assoc, hbody.run_eq,
      List.singleton_append, run_cons (.endOtherwise hend)]
    rfl
  | .ending hend => fun outer done condition body frames rest => by
    rw [List.singleton_append, run_cons (.endBranch hend)]

end

/-- The segments complete all open blocks, each by what the grammar has after its body, and then
the outermost block has these nodes. -/
inductive Closes : Builder → List Segment → List Node → Prop where
  | outermost {before nodes : List Node} {segs : List Segment} (hbody : Block segs nodes) :
      Closes ⟨before, []⟩ segs (before ++ nodes)
  | branch {outer before body otherwise final : List Node} {done arms : List (Expr × List Node)}
      {condition : Expr} {frames : List (List Node × Frame)} {segs tail rest : List Segment}
      (hbody : Block segs body) (harms : Arms tail arms otherwise)
      (hrest : Closes
        ⟨outer ++ [.branch (done ++ (condition, before ++ body) :: arms) otherwise], frames⟩
        rest final) :
      Closes ⟨before, (outer, .branch done condition) :: frames⟩ (segs ++ (tail ++ rest)) final
  | otherwise {outer before body final : List Node} {arms : List (Expr × List Node)}
      {frames : List (List Node × Frame)} {segs rest : List Segment} {closing : Segment}
      {ending : String} (hbody : Block segs body) (hend : Tag closing "endif" ending)
      (hrest : Closes ⟨outer ++ [.branch arms (before ++ body)], frames⟩ rest final) :
      Closes ⟨before, (outer, .otherwise arms) :: frames⟩ (segs ++ closing :: rest) final
  | loop {outer before body final : List Node} {name ending : String} {iterable : Expr}
      {frames : List (List Node × Frame)} {segs rest : List Segment} {closing : Segment}
      (hbody : Block segs body) (hend : Tag closing "endfor" ending)
      (hrest : Closes ⟨outer ++ [.loop name iterable (before ++ body)], frames⟩ rest final) :
      Closes ⟨before, (outer, .loop name iterable) :: frames⟩ (segs ++ closing :: rest) final

/-- What makes a node by itself may stand before whatever completes the open blocks. -/
theorem Closes.preceded {b : Builder} {node : Node} {part rest : List Segment} {final : List Node}
    (hpart : ∀ segs nodes, Block segs nodes → Block (part ++ segs) (node :: nodes))
    (h : Closes (b.push node) rest final) : Closes b (part ++ rest) final := by
  obtain ⟨before, frames⟩ := b
  cases h with
  | outermost hbody =>
    rw [List.append_assoc]
    exact .outermost (hpart _ _ hbody)
  | branch hbody harms hrest =>
    rw [List.append_assoc] at hrest
    rw [← List.append_assoc]
    exact .branch (hpart _ _ hbody) harms hrest
  | otherwise hbody hend hrest =>
    rw [List.append_assoc] at hrest
    rw [← List.append_assoc]
    exact .otherwise (hpart _ _ hbody) hend hrest
  | loop hbody hend hrest =>
    rw [List.append_assoc] at hrest
    rw [← List.append_assoc]
    exact .loop (hpart _ _ hbody) hend hrest

theorem Closes.of_move {b next : Builder} {s : Segment} (hmove : Move b s next)
    {rest : List Segment} {final : List Node} (h : Closes next rest final) :
    Closes b (s :: rest) final := by
  cases hmove with
  | leaf hleaf =>
    have hnode : ∀ segs nodes, Block segs nodes → Block ([s] ++ segs) (_ :: nodes) :=
      fun segs nodes hafter => .leaf hleaf hafter
    exact h.preceded hnode
  | openBranch hif hcondition =>
    cases h with
    | branch hbody harms hrest =>
      have hnode := hrest.preceded fun segs nodes hafter =>
        Block.branch hif hcondition hbody harms hafter
      simpa using hnode
  | openLoop hfor hheader =>
    cases h with
    | loop hbody hend hrest =>
      have hnode := hrest.preceded fun segs nodes hafter =>
        Block.loop hfor hheader hbody hend hafter
      simpa using hnode
  | elif helif hnext =>
    cases h with
    | branch hbody harms hrest =>
      have harm := Arms.elif helif hnext hbody harms
      have hclosed := Closes.branch .nil harm (by simpa using hrest)
      simpa using hclosed
  | otherwise helse =>
    cases h with
    | otherwise hbody hend hrest =>
      have harm := Arms.otherwise helse hbody hend
      have hclosed := Closes.branch .nil harm (by simpa using hrest)
      simpa using hclosed
  | endBranch hend => exact .branch .nil (.ending hend) (by simpa using h)
  | endOtherwise hend => exact .otherwise .nil hend (by simpa using h)
  | endLoop hend => exact .loop .nil hend (by simpa using h)

theorem closes_of_run {b : Builder} {segs : List Segment} {final : List Node}
    (h : b.run segs = .ok ⟨final, []⟩) : Closes b segs final := by
  induction segs generalizing b with
  | nil =>
    cases h
    have hclosed : Closes ⟨final, []⟩ [] (final ++ []) := .outermost .nil
    rwa [List.append_nil] at hclosed
  | cons s rest ih =>
    rw [Builder.run] at h
    split at h
    · cases h
    · rename_i next hstep
      exact (ih h).of_move (Builder.move_of_step hstep)

theorem Builder.finish_eq_ok {b : Builder} {nodes : List Node} (h : b.finish = .ok nodes) :
    b = ⟨nodes, []⟩ := by
  obtain ⟨body, _ | ⟨⟨outer, _ | _ | _⟩, frames⟩⟩ := b
  · cases h
    rfl
  all_goals cases h

/-- Templates are accepted by the grammar: the tree is the derivation, and holds what the segments
hold, in their order. -/
theorem ofSegments_grammar (segs : List Segment) (nodes : List Node) :
    (ofSegments segs = .ok nodes ↔ Block segs nodes) ∧
      (ofSegments segs = .ok nodes → nodeParts nodes = segs.filterMap Segment.part?) := by
  have hiff : ofSegments segs = .ok nodes ↔ Block segs nodes := by
    constructor
    · intro h
      unfold ofSegments at h
      cases hrun : Builder.run ⟨[], []⟩ segs with
      | error e =>
        rw [hrun] at h
        cases h
      | ok b =>
        rw [hrun] at h
        rw [Builder.finish_eq_ok h] at hrun
        cases closes_of_run hrun with
        | outermost hbody => exact hbody
    · intro h
      have hrun := h.run_eq [] [] []
      rw [List.append_nil] at hrun
      rw [ofSegments, hrun]
      rfl
  exact ⟨hiff, fun h => (hiff.mp h).parts_eq⟩

def nestedSegments : List Segment :=
  [.tag "for x in xs", .tag "if a", .text "A", .tag "elif x", .output "b", .tag "else now",
    .text "C", .tag "endif", .tag "endfor"]

def nestedNodes : List Node :=
  [.loop "x" (.variable "xs")
    [.branch [(.variable "a", [.text "A"]), (.variable "x", [.output (.variable "b")])]
      [.text "C"]]]

theorem tag_of_split {source keyword rest : String} (h : splitKeyword source = (keyword, rest)) :
    Tag (.tag source) keyword rest := ⟨source, rfl, h⟩

theorem nested_arms : Arms [.tag "elif x", .output "b", .tag "else now", .text "C", .tag "endif"]
    [(.variable "x", [.output (.variable "b")])] [.text "C"] := by
  have helif : splitKeyword "elif x" = ("elif", "x") := by decide +kernel
  have helse : splitKeyword "else now" = ("else", "now") := by decide +kernel
  have hend : splitKeyword "endif" = ("endif", "") := by decide +kernel
  have hx : parseExpr "x" = .ok (.variable "x") := rfl
  have hb : parseExpr "b" = .ok (.variable "b") := rfl
  have houtput : Block [.output "b"] [.output (.variable "b")] := .leaf (.output hb) .nil
  have htext : Block [.text "C"] [.text "C"] := .leaf (.text "C") .nil
  have hotherwise := Arms.otherwise (tag_of_split helse) htext (tag_of_split hend)
  exact .elif (tag_of_split helif) hx houtput hotherwise

theorem nested_block : Block nestedSegments nestedNodes := by
  have hif : splitKeyword "if a" = ("if", "a") := by decide +kernel
  have hfor : splitKeyword "for x in xs" = ("for", "x in xs") := by decide +kernel
  have hend : splitKeyword "endfor" = ("endfor", "") := by decide +kernel
  have ha : parseExpr "a" = .ok (.variable "a") := rfl
  have hxs : parseExpr "xs" = .ok (.variable "xs") := rfl
  have hsplit : loopHeader? "x in xs" = some ("x", "xs") := by decide +kernel
  have hheader : parseHeader "x in xs" = .ok ("x", .variable "xs") := by
    rw [parseHeader, hsplit]
    dsimp only
    rw [hxs]
    rfl
  have htext : Block [.text "A"] [.text "A"] := .leaf (.text "A") .nil
  have hbranch := Block.branch (tag_of_split hif) ha htext nested_arms .nil
  exact .loop (tag_of_split hfor) hheader hbranch (tag_of_split hend) .nil

theorem ofSegments_grammar_nested :
    ofSegments nestedSegments = .ok nestedNodes ∧
      nodeParts nestedNodes = nestedSegments.filterMap Segment.part? := by
  obtain ⟨hiff, hparts⟩ := ofSegments_grammar nestedSegments nestedNodes
  have hread := hiff.mpr nested_block
  exact ⟨hread, hparts hread⟩

-- a loop has no other case
example : (ofSegments [.tag "for x in xs", .tag "else", .tag "endfor"]).toOption.isNone := by
  decide +kernel

end QueryCatalog.Template
