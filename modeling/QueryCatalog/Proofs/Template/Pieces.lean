import QueryCatalog.Template.Render
import Mathlib.Tactic.Common

/-!
What a rendering writes, piece by piece: texts of the template, texts of values, and marks of bound
values. As long as `sp` is called around what an output gives out and nowhere else, the pieces of a
template follow from its tree, and a rendering that succeeds has appended them.
-/
namespace QueryCatalog.Template

abbrev Scopes := List (String × Json)

namespace Render

variable {α β : Type}

theorem bind_of_ok {m : Render α} {f : α → Render β} {r s : Rendering} {a : α}
    (h : m r = (.ok a, s)) : (m >>= f) r = f a s := by
  simp only [bind, ExceptT.bind, ExceptT.mk, StateT.bind, h, ExceptT.bindCont]

theorem bind_of_error {m : Render α} {f : α → Render β} {r s : Rendering} {e : TemplateError}
    (h : m r = (.error e, s)) : (m >>= f) r = (.error e, s) := by
  simp only [bind, ExceptT.bind, ExceptT.mk, StateT.bind, h, ExceptT.bindCont]
  rfl

theorem bind_eq_ok {m : Render α} {f : α → Render β} {r s : Rendering} {b : β}
    (h : (m >>= f) r = (.ok b, s)) : ∃ a t, m r = (.ok a, t) ∧ f a t = (.ok b, s) := by
  rcases hm : m r with ⟨e | a, t⟩
  · rw [bind_of_error hm] at h
    cases h
  · rw [bind_of_ok hm] at h
    exact ⟨a, t, rfl, h⟩

/-- The action looks at the scopes and changes nothing. -/
def Silent (m : Render α) : Prop :=
  ∃ answer : Scopes → Except TemplateError α, ∀ r, m r = (answer r.scopes, r)

theorem silent_pure (a : α) : Silent (pure a) := ⟨fun _ => .ok a, fun _ => rfl⟩

theorem silent_throw (e : TemplateError) : Silent (throw e : Render α) :=
  ⟨fun _ => .error e, fun _ => rfl⟩

theorem silent_bind {m : Render α} {f : α → Render β} (hm : Silent m) (hf : ∀ a, Silent (f a)) :
    Silent (m >>= f) := by
  obtain ⟨answer, hanswer⟩ := hm
  choose next hnext using hf
  refine ⟨fun scopes => (answer scopes).bind fun a => next a scopes, fun r => ?_⟩
  have hr := hanswer r
  cases ha : answer r.scopes with
  | error e =>
    rw [ha] at hr
    rw [bind_of_error hr]
    simp only [ha, Except.bind]
  | ok a =>
    rw [ha] at hr
    rw [bind_of_ok hr, hnext]
    simp only [ha, Except.bind]

end Render

mutual

/-- Whether `sp` is called anywhere in the expression. -/
def Expr.binds : Expr → Bool
  | .literal _ => false
  | .variable _ => false
  | .field base _ => base.binds
  | .index base position => base.binds || position.binds
  | .array items => Expr.anyBinds items
  | .not operand => operand.binds
  | .binary left _ right => left.binds || right.binds
  | .call name args => name == "sp" || Expr.anyBinds args

def Expr.anyBinds : List Expr → Bool
  | [] => false
  | e :: rest => e.binds || Expr.anyBinds rest

end

theorem call_silent {name : String} (h : (name == "sp") = false) (args : List Json) :
    (call name args).Silent := by
  unfold call
  rw [if_neg (by simp [h])]
  cases applyFunction name args with
  | error e => exact Render.silent_throw e
  | ok v => exact Render.silent_pure v

open Render (silent_pure silent_throw silent_bind)

mutual

/-- An expression that binds nothing leaves all as it is, and its value hangs on the scopes. -/
theorem evaluate_silent (criteria : Json) :
    (e : Expr) → e.binds = false → (evaluate criteria e).Silent
  | .literal v, _ => silent_pure v
  | .variable name, _ => ⟨fun scopes => .ok (lookupIn criteria scopes name), fun _ => rfl⟩
  | .field base name, h => by
    simp only [evaluate]
    exact silent_bind (evaluate_silent criteria base h) fun _ => silent_pure _
  | .index base position, h => by
    simp only [Expr.binds, Bool.or_eq_false_iff] at h
    simp only [evaluate]
    exact silent_bind (evaluate_silent criteria base h.1) fun _ =>
      silent_bind (evaluate_silent criteria position h.2) fun _ => silent_pure _
  | .array items, h => by
    simp only [evaluate]
    exact silent_bind (evaluateAll_silent criteria items h) fun _ => silent_pure _
  | .not operand, h => by
    simp only [evaluate]
    exact silent_bind (evaluate_silent criteria operand h) fun _ => silent_pure _
  | .binary left op right, h => by
    simp only [Expr.binds, Bool.or_eq_false_iff] at h
    have hleft := evaluate_silent criteria left h.1
    have hright := silent_bind (evaluate_silent criteria right h.2)
      fun b => silent_pure (Json.bool b.truthy)
    -- `and` and `or` look at the right operand only where the left one does not decide
    cases op with
    | and =>
      simp only [evaluate]
      refine silent_bind hleft fun a => ?_
      split
      · exact hright
      · exact silent_pure _
    | or =>
      simp only [evaluate]
      refine silent_bind hleft fun a => ?_
      split
      · exact silent_pure _
      · exact hright
    | _ =>
      simp only [evaluate]
      exact silent_bind hleft fun _ =>
        silent_bind (evaluate_silent criteria right h.2) fun _ => silent_pure _
  | .call name args, h => by
    simp only [Expr.binds, Bool.or_eq_false_iff] at h
    simp only [evaluate]
    exact silent_bind (evaluateAll_silent criteria args h.2) fun _ => call_silent h.1 _

theorem evaluateAll_silent (criteria : Json) :
    (es : List Expr) → Expr.anyBinds es = false → (evaluateAll criteria es).Silent
  | [], _ => silent_pure []
  | e :: rest, h => by
    simp only [Expr.anyBinds, Bool.or_eq_false_iff] at h
    simp only [evaluateAll]
    exact silent_bind (evaluate_silent criteria e h.1) fun _ =>
      silent_bind (evaluateAll_silent criteria rest h.2) fun _ => silent_pure _

end

variable {criteria : Json}

/-- The value of an expression under some scopes. -/
def valueIn (criteria : Json) (scopes : Scopes) (e : Expr) : Except TemplateError Json :=
  (evaluate criteria e { scopes }).1

theorem evaluate_eq {e : Expr} (h : e.binds = false) (r : Rendering) :
    evaluate criteria e r = (valueIn criteria r.scopes e, r) := by
  obtain ⟨answer, hanswer⟩ := evaluate_silent criteria e h
  rw [valueIn, hanswer, hanswer]

/-- A value that is bound: by which call of `sp`, and in which scopes it was made. -/
structure Mark where
  operand : Expr
  scopes : Scopes
  value : Json

inductive Piece where
  | text (text : String)
  | raw (expr : Expr) (value : Json)
  | mark (mark : Mark)

namespace Piece

def shown : Piece → String
  | .text t => t
  | .raw _ v => v.toText
  | .mark _ => "?"

def mark? : Piece → Option Mark
  | .mark m => some m
  | _ => none

/-- The node that a piece is written by. -/
def node : Piece → Node
  | .text t => .text t
  | .raw e _ => .output e
  | .mark m => .output (.call "sp" [m.operand])

end Piece

def shown (ps : List Piece) : String := String.join (ps.map Piece.shown)

def marks (ps : List Piece) : List Mark := ps.filterMap Piece.mark?

def bound (ps : List Piece) : List Json := (marks ps).map (·.value)

theorem shown_append (ps qs : List Piece) : shown (ps ++ qs) = shown ps ++ shown qs := by
  simp [shown]

theorem bound_append (ps qs : List Piece) : bound (ps ++ qs) = bound ps ++ bound qs := by
  simp [bound, marks]

def outputPiece (criteria : Json) (scopes : Scopes) : Expr → Except TemplateError Piece
  | .call "sp" [operand] =>
    (valueIn criteria scopes operand).map fun value => .mark ⟨operand, scopes, value⟩
  | e => (valueIn criteria scopes e).map (.raw e)

def eachPieces (name : String) (count : Nat) (body : Scopes → Except TemplateError (List Piece))
    (scopes : Scopes) : Nat → List Json → Except TemplateError (List Piece)
  | _, [] => .ok []
  | index, item :: rest => do
    let first ← body ((name, item) :: ("loop", loopInfo index count) :: scopes)
    let others ← eachPieces name count body scopes (index + 1) rest
    return first ++ others

mutual

/-- The pieces that a node writes under some scopes. -/
def nodePieces (criteria : Json) (scopes : Scopes) : Node → Except TemplateError (List Piece)
  | .text t => .ok [.text t]
  | .output e => (outputPiece criteria scopes e).map fun p => [p]
  | .branch branches otherwise =>
    branchPieces criteria scopes (allPieces criteria scopes otherwise) branches
  | .loop name iterable body =>
    (valueIn criteria scopes iterable).bind fun value =>
      eachPieces name (iterationItems value).length (fun inner => allPieces criteria inner body)
        scopes 0 (iterationItems value)

def allPieces (criteria : Json) (scopes : Scopes) : List Node → Except TemplateError (List Piece)
  | [] => .ok []
  | node :: rest => do
    let first ← nodePieces criteria scopes node
    let others ← allPieces criteria scopes rest
    return first ++ others

def branchPieces (criteria : Json) (scopes : Scopes)
    (otherwise : Except TemplateError (List Piece)) :
    List (Expr × List Node) → Except TemplateError (List Piece)
  | [] => otherwise
  | (condition, body) :: rest =>
    (valueIn criteria scopes condition).bind fun value =>
      if value.truthy then allPieces criteria scopes body
      else branchPieces criteria scopes otherwise rest

end

mutual

/-- The texts and outputs of a template, at any depth. -/
def Node.leaves : Node → List Node
  | .text t => [.text t]
  | .output e => [.output e]
  | .branch branches otherwise => branchLeaves branches ++ leavesOf otherwise
  | .loop _ _ body => leavesOf body

def leavesOf : List Node → List Node
  | [] => []
  | node :: rest => node.leaves ++ leavesOf rest

def branchLeaves : List (Expr × List Node) → List Node
  | [] => []
  | (_, body) :: rest => leavesOf body ++ branchLeaves rest

end

mutual

/-- The conditions of a template and what its loops run over, at any depth. -/
def Node.guards : Node → List Expr
  | .text _ => []
  | .output _ => []
  | .branch branches otherwise => branchGuards branches ++ guardsOf otherwise
  | .loop _ iterable body => iterable :: guardsOf body

def guardsOf : List Node → List Expr
  | [] => []
  | node :: rest => node.guards ++ guardsOf rest

def branchGuards : List (Expr × List Node) → List Expr
  | [] => []
  | (condition, body) :: rest => condition :: guardsOf body ++ branchGuards rest

end

/-- The expression is a call of `sp` around one without any. -/
def Expr.BindsOne (e : Expr) : Prop := ∃ operand, e = .call "sp" [operand] ∧ operand.binds = false

/-- An output that gives its value out as text, or binds it. -/
def Expr.Separate (e : Expr) : Prop := e.binds = false ∨ e.BindsOne

namespace Rendering

def wrote (r : Rendering) (ps : List Piece) : Rendering :=
  { r with text := r.text ++ shown ps, args := r.args ++ bound ps }

theorem wrote_append (r : Rendering) (ps qs : List Piece) :
    r.wrote (ps ++ qs) = (r.wrote ps).wrote qs := by
  simp [wrote, shown_append, bound_append, String.append_assoc, List.append_assoc]

end Rendering

/-- Where the action succeeds it has appended the pieces. -/
def Writes (m : Render Unit) (pieces : Scopes → Except TemplateError (List Piece)) : Prop :=
  ∀ r s, m r = (.ok (), s) → ∃ ps, pieces r.scopes = .ok ps ∧ s = r.wrote ps

theorem writes_nothing : Writes (pure ()) fun _ => .ok [] := by
  intro r s h
  obtain rfl : r = s := congrArg Prod.snd h
  exact ⟨[], rfl, by simp [Rendering.wrote, shown, bound, marks]⟩

theorem writes_text (text : String) : Writes (write text) fun _ => .ok [.text text] := by
  intro r s h
  obtain rfl : { r with text := r.text ++ text } = s := congrArg Prod.snd h
  exact ⟨_, rfl, by simp [Rendering.wrote, shown, bound, marks, Piece.shown, Piece.mark?]⟩

theorem writes_append {m n : Render Unit} {f g : Scopes → Except TemplateError (List Piece)}
    (hm : Writes m f) (hn : Writes n g) :
    Writes (m >>= fun _ => n) fun scopes => do return (← f scopes) ++ (← g scopes) := by
  intro r s h
  obtain ⟨_, t, hfirst, hrest⟩ := Render.bind_eq_ok h
  obtain ⟨ps, hps, rfl⟩ := hm r t hfirst
  obtain ⟨qs, hqs, rfl⟩ := hn _ s hrest
  have hscopes : (r.wrote ps).scopes = r.scopes := rfl
  rw [hscopes] at hqs
  refine ⟨ps ++ qs, ?_, (r.wrote_append ps qs).symm⟩
  simp only [hps, hqs, bind, Except.bind, pure, Except.pure]

/-- What follows an expression that binds nothing is written with its value. -/
theorem writes_after {e : Expr} {k : Json → Render Unit}
    {f : Json → Scopes → Except TemplateError (List Piece)} (he : e.binds = false)
    (hk : ∀ v, Writes (k v) (f v)) :
    Writes (evaluate criteria e >>= k) fun scopes =>
      (valueIn criteria scopes e).bind fun v => f v scopes := by
  intro r s h
  obtain ⟨v, t, hvalue, hrest⟩ := Render.bind_eq_ok h
  rw [evaluate_eq he, Prod.mk.injEq] at hvalue
  obtain ⟨hv, rfl⟩ := hvalue
  obtain ⟨ps, hps, hs⟩ := hk v r s hrest
  exact ⟨ps, by simp only [hv, Except.bind, hps], hs⟩

theorem writes_within {m : Render Unit} {f : Scopes → Except TemplateError (List Piece)}
    (hm : Writes m f) (bindings : Scopes) :
    Writes (withScopes bindings m) fun scopes => f (bindings ++ scopes) := by
  intro r s h
  rcases hrun : m { r with scopes := bindings ++ r.scopes } with ⟨answer, t⟩
  simp only [withScopes, hrun] at h
  obtain ⟨rfl, rfl⟩ := h
  obtain ⟨ps, hps, rfl⟩ := hm _ t hrun
  exact ⟨ps, hps, by simp [Rendering.wrote]⟩

theorem writes_raw {e : Expr} (he : e.binds = false) :
    Writes (renderNode criteria (.output e)) fun scopes =>
      (outputPiece criteria scopes e).map fun p => [p] := by
  intro r s h
  obtain ⟨v, t, hvalue, hwrite⟩ := Render.bind_eq_ok h
  rw [evaluate_eq he, Prod.mk.injEq] at hvalue
  obtain ⟨hv, rfl⟩ := hvalue
  obtain rfl : { r with text := r.text ++ v.toText } = s := congrArg Prod.snd hwrite
  refine ⟨[.raw e v], ?_, by simp [Rendering.wrote, shown, bound, marks, Piece.shown, Piece.mark?]⟩
  unfold outputPiece
  split
  · simp [Expr.binds] at he
  · simp only [hv, Except.map]

/-- A call of `sp` binds the value of its operand and stands for a mark. -/
theorem evaluate_sp {operand : Expr} (h : operand.binds = false) {r : Rendering} {v : Json}
    (hv : valueIn criteria r.scopes operand = .ok v) :
    evaluate criteria (.call "sp" [operand]) r =
      (.ok (.str "?"), { r with args := r.args ++ [v] }) := by
  have hoperand : evaluate criteria operand r = (.ok v, r) := by rw [evaluate_eq h, hv]
  have hargs : evaluateAll criteria [operand] r = (.ok [v], r) := by
    simp only [evaluateAll]
    rw [Render.bind_of_ok hoperand]
    rfl
  simp only [evaluate]
  rw [Render.bind_of_ok hargs]
  rfl

theorem value_of_evaluate_sp {operand : Expr} (h : operand.binds = false) {r s : Rendering}
    {answer : Json} (hsp : evaluate criteria (.call "sp" [operand]) r = (.ok answer, s)) :
    ∃ v, valueIn criteria r.scopes operand = .ok v := by
  simp only [evaluate, evaluateAll] at hsp
  obtain ⟨args, t, hargs, -⟩ := Render.bind_eq_ok hsp
  obtain ⟨v, t', hv, -⟩ := Render.bind_eq_ok hargs
  rw [evaluate_eq h, Prod.mk.injEq] at hv
  exact ⟨v, hv.1⟩

theorem writes_mark {operand : Expr} (h : operand.binds = false) :
    Writes (renderNode criteria (.output (.call "sp" [operand]))) fun scopes =>
      (outputPiece criteria scopes (.call "sp" [operand])).map fun p => [p] := by
  intro r s hrun
  obtain ⟨answer, t, hsp, hwrite⟩ := Render.bind_eq_ok hrun
  obtain ⟨v, hv⟩ := value_of_evaluate_sp h hsp
  rw [evaluate_sp h hv, Prod.mk.injEq] at hsp
  obtain ⟨hanswer, rfl⟩ := hsp
  obtain rfl : Json.str "?" = answer := Except.ok.inj hanswer
  refine ⟨[.mark ⟨operand, r.scopes, v⟩], by simp only [outputPiece, hv, Except.map], ?_⟩
  obtain rfl : { r with text := r.text ++ "?", args := r.args ++ [v] } = s :=
    congrArg Prod.snd hwrite
  simp [Rendering.wrote, shown, bound, marks, Piece.shown, Piece.mark?]

theorem writes_output {e : Expr} (h : e.Separate) :
    Writes (renderNode criteria (.output e)) fun scopes =>
      nodePieces criteria scopes (.output e) := by
  rcases h with hraw | ⟨operand, rfl, hoperand⟩
  · exact writes_raw hraw
  · exact writes_mark hoperand

theorem writes_each {name : String} {count : Nat} {body : Render Unit}
    {f : Scopes → Except TemplateError (List Piece)} (hbody : Writes body f) (items : List Json) :
    ∀ index, Writes (eachItem name count body index items) fun scopes =>
      eachPieces name count f scopes index items := by
  induction items with
  | nil => exact fun _ => writes_nothing
  | cons item rest ih =>
    intro index
    exact writes_append (writes_within hbody [(name, item), ("loop", loopInfo index count)])
      (ih (index + 1))

/-- `sp` is called at most around what is given out. -/
structure Separate (leaves : List Node) (guards : List Expr) : Prop where
  outputs : ∀ e, .output e ∈ leaves → e.Separate
  guards : ∀ e ∈ guards, e.binds = false

namespace Separate

variable {ls ms : List Node} {gs hs : List Expr}

theorem mono (h : Separate ls gs) (hl : ms ⊆ ls) (hg : hs ⊆ gs) : Separate ms hs :=
  ⟨fun e he => h.outputs e (hl he), fun e he => h.guards e (hg he)⟩

theorem left (h : Separate (ls ++ ms) (gs ++ hs)) : Separate ls gs :=
  h.mono (List.subset_append_left _ _) (List.subset_append_left _ _)

theorem right (h : Separate (ls ++ ms) (gs ++ hs)) : Separate ms hs :=
  h.mono (List.subset_append_right _ _) (List.subset_append_right _ _)

theorem tail {g : Expr} (h : Separate ls (g :: gs)) : Separate ls gs :=
  h.mono (List.Subset.refl _) (List.subset_cons_self _ _)

theorem head {g : Expr} (h : Separate ls (g :: gs)) : g.binds = false := h.guards g (by simp)

end Separate

mutual

theorem renderNode_writes (criteria : Json) : (n : Node) → Separate n.leaves n.guards →
    Writes (renderNode criteria n) fun scopes => nodePieces criteria scopes n
  | .text t, _ => writes_text t
  | .output e, h => writes_output (h.outputs e (by simp [Node.leaves]))
  | .branch branches otherwise, h =>
    renderBranches_writes criteria (renderNodes_writes criteria otherwise h.right) branches h.left
  | .loop name iterable body, h =>
    writes_after h.head fun _ => writes_each (renderNodes_writes criteria body h.tail) _ 0

theorem renderNodes_writes (criteria : Json) : (ns : List Node) →
    Separate (leavesOf ns) (guardsOf ns) →
      Writes (renderNodes criteria ns) fun scopes => allPieces criteria scopes ns
  | [], _ => writes_nothing
  | n :: rest, h =>
    writes_append (renderNode_writes criteria n h.left) (renderNodes_writes criteria rest h.right)

theorem renderBranches_writes (criteria : Json) {otherwise : Render Unit}
    {f : Scopes → Except TemplateError (List Piece)} (hotherwise : Writes otherwise f) :
    (branches : List (Expr × List Node)) →
    Separate (branchLeaves branches) (branchGuards branches) →
      Writes (renderBranches criteria otherwise branches) fun scopes =>
        branchPieces criteria scopes (f scopes) branches
  | [], _ => hotherwise
  | (condition, body) :: rest, h => by
    refine writes_after h.head fun v => ?_
    split
    · exact renderNodes_writes criteria body h.tail.left
    · exact renderBranches_writes criteria hotherwise rest h.tail.right

end

end QueryCatalog.Template
