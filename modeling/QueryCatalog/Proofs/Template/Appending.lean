import QueryCatalog.Proofs.Template.Pieces

/-!
Renderings that go on from any point. What is written and bound already stays before what a template
adds to it and decides nothing, and the scopes are left as they were found, also where the rendering
fails. So a template can be rendered part by part.
-/
namespace QueryCatalog.Template

namespace Rendering

/-- The same scopes with nothing written and nothing bound. -/
def fresh (r : Rendering) : Rendering := { scopes := r.scopes }

/-- Adds what another rendering has written and bound. -/
def extend (r added : Rendering) : Rendering :=
  { r with text := r.text ++ added.text, args := r.args ++ added.args }

theorem extend_fresh (r : Rendering) : r.extend r.fresh = r := by
  simp [extend, fresh]

theorem fresh_extend (r added : Rendering) : (r.extend added).fresh = r.fresh := rfl

theorem extend_extend (r v w : Rendering) : (r.extend v).extend w = r.extend (v.extend w) := by
  simp [extend, String.append_assoc]

end Rendering

namespace Render

variable {α β : Type}

/-- From any point on, the action does what it does from the beginning, behind what is there. -/
def Appends (m : Render α) : Prop := ∀ r, m r = ((m r.fresh).1, r.extend (m r.fresh).2)

theorem Silent.appends {m : Render α} (h : Silent m) : Appends m := by
  obtain ⟨answer, hanswer⟩ := h
  intro r
  rw [hanswer r, hanswer r.fresh, r.extend_fresh]
  rfl

theorem Appends.fresh_after {m : Render α} (h : Appends m) (r : Rendering) :
    (m r).2.fresh = r.fresh := by rw [h r, Rendering.fresh_extend]

theorem appends_bind {m : Render α} {f : α → Render β} (hm : Appends m)
    (hf : ∀ a, Appends (f a)) : Appends (m >>= f) := by
  intro r
  have hr := hm r
  have hscopes := hm.fresh_after r.fresh
  rcases hfresh : m r.fresh with ⟨error | a, w⟩
  · rw [hfresh] at hr
    rw [bind_of_error hr, bind_of_error hfresh]
  · rw [hfresh] at hr hscopes
    rw [bind_of_ok hr, bind_of_ok hfresh, hf a (r.extend w), hf a w, Rendering.fresh_extend,
      Rendering.extend_extend]
    -- the second part begins in the scopes that the first one has left
    rw [show w.fresh = r.fresh from hscopes]

theorem appends_write (text : String) : Appends (write text) := by
  intro r
  change (Except.ok (), { r with text := r.text ++ text }) =
    (Except.ok (), r.extend { r.fresh with text := "" ++ text })
  simp [Rendering.extend, Rendering.fresh]

theorem appends_bindValue (value : Json) : Appends (bindValue value) := by
  intro r
  change (Except.ok (Json.str "?"), { r with args := r.args ++ [value] }) =
    (Except.ok (Json.str "?"), r.extend { r.fresh with args := [] ++ [value] })
  simp [Rendering.extend, Rendering.fresh]

/-- The scopes that were added are gone again, and only they. -/
theorem appends_within {m : Render Unit} (hm : Appends m) (bindings : Scopes) :
    Appends (withScopes bindings m) := by
  intro r
  have hinner := hm { r with scopes := bindings ++ r.scopes }
  rcases hw : m { scopes := bindings ++ r.scopes } with ⟨answer, w⟩
  simp only [Rendering.fresh, hw] at hinner
  simp [withScopes, hinner, hw, Rendering.extend, Rendering.fresh]

end Render

open Render (Appends Silent silent_pure silent_throw appends_bind)

theorem appends_call (name : String) (args : List Json) : (call name args).Appends := by
  by_cases hsp : name = "sp"
  · subst hsp
    match args with
    | [] => exact (silent_throw _).appends
    | [value] => exact Render.appends_bindValue value
    | _ :: _ :: _ => exact (silent_throw _).appends
  · exact (call_silent (by simpa using hsp) args).appends

mutual

theorem evaluate_appends (criteria : Json) : (e : Expr) → (evaluate criteria e).Appends
  | .literal v => (silent_pure v).appends
  | .variable name =>
    Silent.appends ⟨fun scopes => .ok (lookupIn criteria scopes name), fun _ => rfl⟩
  | .field base name => by
    simp only [evaluate]
    exact appends_bind (evaluate_appends criteria base) fun _ => (silent_pure _).appends
  | .index base position => by
    simp only [evaluate]
    exact appends_bind (evaluate_appends criteria base) fun _ =>
      appends_bind (evaluate_appends criteria position) fun _ => (silent_pure _).appends
  | .array items => by
    simp only [evaluate]
    exact appends_bind (evaluateAll_appends criteria items) fun _ => (silent_pure _).appends
  | .not operand => by
    simp only [evaluate]
    exact appends_bind (evaluate_appends criteria operand) fun _ => (silent_pure _).appends
  | .binary left op right => by
    have hleft := evaluate_appends criteria left
    have hright := evaluate_appends criteria right
    have hdecided := appends_bind hright fun b => (silent_pure (Json.bool b.truthy)).appends
    cases op with
    | and =>
      simp only [evaluate]
      refine appends_bind hleft fun a => ?_
      split
      · exact hdecided
      · exact (silent_pure _).appends
    | or =>
      simp only [evaluate]
      refine appends_bind hleft fun a => ?_
      split
      · exact (silent_pure _).appends
      · exact hdecided
    | _ =>
      simp only [evaluate]
      exact appends_bind hleft fun _ => appends_bind hright fun _ => (silent_pure _).appends
  | .call name args => by
    simp only [evaluate]
    exact appends_bind (evaluateAll_appends criteria args) fun _ => appends_call name _

theorem evaluateAll_appends (criteria : Json) :
    (es : List Expr) → (evaluateAll criteria es).Appends
  | [] => (silent_pure []).appends
  | e :: rest => by
    simp only [evaluateAll]
    exact appends_bind (evaluate_appends criteria e) fun _ =>
      appends_bind (evaluateAll_appends criteria rest) fun _ => (silent_pure _).appends

end

theorem eachItem_appends (name : String) (count : Nat) {body : Render Unit} (hbody : body.Appends)
    (items : List Json) : ∀ index, (eachItem name count body index items).Appends := by
  induction items with
  | nil => exact fun _ => (silent_pure ()).appends
  | cons item rest ih =>
    exact fun index => appends_bind (Render.appends_within hbody _) fun _ => ih (index + 1)

mutual

theorem renderNode_appends (criteria : Json) : (n : Node) → (renderNode criteria n).Appends
  | .text t => Render.appends_write t
  | .output e => appends_bind (evaluate_appends criteria e) fun _ => Render.appends_write _
  | .branch branches otherwise =>
    renderBranches_appends criteria (renderNodes_appends criteria otherwise) branches
  | .loop name iterable body =>
    appends_bind (evaluate_appends criteria iterable) fun _ =>
      eachItem_appends name _ (renderNodes_appends criteria body) _ 0

theorem renderNodes_appends (criteria : Json) : (ns : List Node) →
    (renderNodes criteria ns).Appends
  | [] => (silent_pure ()).appends
  | n :: rest =>
    appends_bind (renderNode_appends criteria n) fun _ => renderNodes_appends criteria rest

theorem renderBranches_appends (criteria : Json) {otherwise : Render Unit}
    (hotherwise : otherwise.Appends) : (branches : List (Expr × List Node)) →
    (renderBranches criteria otherwise branches).Appends
  | [] => hotherwise
  | (condition, body) :: rest => by
    refine appends_bind (evaluate_appends criteria condition) fun v => ?_
    split
    · exact renderNodes_appends criteria body
    · exact renderBranches_appends criteria hotherwise rest

end

theorem renderNodes_append (criteria : Json) (nodes others : List Node) (r : Rendering) :
    renderNodes criteria (nodes ++ others) r =
      match renderNodes criteria nodes r with
      | (.ok _, after) => renderNodes criteria others after
      | (.error e, after) => (.error e, after) := by
  induction nodes generalizing r with
  | nil => rfl
  | cons n rest ih =>
    rw [List.cons_append, renderNodes, renderNodes]
    rcases hn : renderNode criteria n r with ⟨error | done, s⟩
    · rw [Render.bind_of_error hn, Render.bind_of_error hn]
    · rw [Render.bind_of_ok hn, Render.bind_of_ok hn, ih]

/-- Where nodes are rendered after some others, they leave the scopes as they are, fail or succeed
as on their own, and add what they write on their own. Those after them go on from there. -/
structure GoesOn (criteria : Json) (nodes : List Node) (r : Rendering) : Prop where
  scopes : (renderNodes criteria nodes r).2.scopes = r.scopes
  answer : (renderNodes criteria nodes r).1 = (renderNodes criteria nodes { scopes := r.scopes }).1
  text : (renderNodes criteria nodes r).2.text =
    r.text ++ (renderNodes criteria nodes { scopes := r.scopes }).2.text
  args : (renderNodes criteria nodes r).2.args =
    r.args ++ (renderNodes criteria nodes { scopes := r.scopes }).2.args
  append : ∀ others, renderNodes criteria (nodes ++ others) r =
    match renderNodes criteria nodes r with
    | (.ok _, after) => renderNodes criteria others after
    | (.error e, after) => (.error e, after)

/-- A template in two parts is rendered as the first part and then the second one. -/
theorem render_append (criteria : Json) (nodes others : List Node) :
    render (nodes ++ others) criteria =
      (render nodes criteria).bind fun first =>
        (render others criteria).map fun second =>
          (first.1 ++ second.1, first.2 ++ second.2) := by
  have hboth := renderNodes_append criteria nodes others {}
  have hscopes := (renderNodes_appends criteria nodes).fresh_after {}
  unfold render
  rw [hboth]
  rcases hfirst : renderNodes criteria nodes {} with ⟨error | done, r⟩
  · rfl
  · have hothers := renderNodes_appends criteria others r
    rw [hfirst] at hscopes
    rw [show r.fresh = {} from hscopes] at hothers
    simp only [hothers, Except.bind]
    rcases renderNodes criteria others {} with ⟨error | done, s⟩ <;> rfl

/-- Whatever has been written and bound before, and in whatever scopes. -/
theorem rendering_goes_on (criteria : Json) (nodes : List Node) :
    (∀ r, GoesOn criteria nodes r) ∧
      ∀ others, render (nodes ++ others) criteria =
        (render nodes criteria).bind fun first =>
          (render others criteria).map fun second =>
            (first.1 ++ second.1, first.2 ++ second.2) := by
  refine ⟨fun r => ?_, render_append criteria nodes⟩
  have h := renderNodes_appends criteria nodes r
  exact ⟨by rw [h]; rfl, by rw [h]; rfl, by rw [h]; rfl, by rw [h]; rfl,
    fun others => renderNodes_append criteria nodes others r⟩

end QueryCatalog.Template
