import QueryCatalog.Proofs.Template.Pieces

/-!
Where the pieces of a rendering come from. A template that gives values out through `sp` only writes
its own texts and marks, and the values that it binds are those of its marks, in the same order.
-/
namespace QueryCatalog.Template

variable {criteria : Json}

/-- The piece is written by one of the nodes; a mark is for the value that its operand has. -/
structure Piece.From (criteria : Json) (leaves : List Node) (p : Piece) : Prop where
  node : p.node ∈ leaves
  mark : ∀ m, p = .mark m → valueIn criteria m.scopes m.operand = .ok m.value
  raw : ∀ e v, p = .raw e v → ¬e.BindsOne

/-- All pieces of the outcome come from the nodes. -/
def From (criteria : Json) (leaves : List Node) (x : Except TemplateError (List Piece)) : Prop :=
  ∀ ps, x = .ok ps → ∀ p ∈ ps, p.From criteria leaves

theorem From.mono {ls ms : List Node} {x : Except TemplateError (List Piece)}
    (h : From criteria ls x) (hsub : ls ⊆ ms) : From criteria ms x :=
  fun ps hps p hp => ⟨hsub (h ps hps p hp).node, (h ps hps p hp).mark, (h ps hps p hp).raw⟩

theorem from_append {ls : List Node} {x y : Except TemplateError (List Piece)}
    (hx : From criteria ls x) (hy : From criteria ls y) :
    From criteria ls (do return (← x) ++ (← y)) := by
  intro all h p hp
  cases hxs : x with
  | error e => rw [hxs] at h; cases h
  | ok ps =>
    cases hys : y with
    | error e => rw [hxs, hys] at h; cases h
    | ok qs =>
      rw [hxs, hys] at h
      obtain rfl : ps ++ qs = all := Except.ok.inj h
      rcases List.mem_append.mp hp with hin | hin
      · exact hx ps hxs p hin
      · exact hy qs hys p hin

theorem from_bind {ls : List Node} {x : Except TemplateError Json}
    {f : Json → Except TemplateError (List Piece)} (hf : ∀ v, From criteria ls (f v)) :
    From criteria ls (x.bind f) := by
  intro ps h
  cases x with
  | error e => cases h
  | ok v => exact hf v ps h

theorem from_output (criteria : Json) (scopes : Scopes) (e : Expr) :
    From criteria [.output e] (nodePieces criteria scopes (.output e)) := by
  intro ps h p hp
  simp only [nodePieces, outputPiece] at h
  split at h
  · rename_i operand
    cases hv : valueIn criteria scopes operand with
    | error failure => rw [hv] at h; cases h
    | ok v =>
      rw [hv] at h
      obtain rfl : [Piece.mark ⟨operand, scopes, v⟩] = ps := Except.ok.inj h
      rw [List.mem_singleton.mp hp]
      refine ⟨List.mem_singleton.mpr rfl, fun m hm => ?_, fun e v hraw => by cases hraw⟩
      cases hm
      exact hv
  · rename_i hsingle
    cases hv : valueIn criteria scopes e with
    | error failure => rw [hv] at h; cases h
    | ok v =>
      rw [hv] at h
      obtain rfl : [Piece.raw e v] = ps := Except.ok.inj h
      rw [List.mem_singleton.mp hp]
      refine ⟨List.mem_singleton.mpr rfl, fun m hm => (by cases hm), fun e' v' hraw => ?_⟩
      cases hraw
      rintro ⟨operand, heq, -⟩
      exact hsingle operand heq

theorem from_each {name : String} {count : Nat} {ls : List Node}
    {f : Scopes → Except TemplateError (List Piece)} (hf : ∀ scopes, From criteria ls (f scopes))
    (scopes : Scopes) (items : List Json) :
    ∀ index, From criteria ls (eachPieces name count f scopes index items) := by
  induction items with
  | nil =>
    intro index ps h p hp
    obtain rfl : [] = ps := Except.ok.inj h
    cases hp
  | cons item rest ih => exact fun index => from_append (hf _) (ih (index + 1))

mutual

theorem nodePieces_from (criteria : Json) (scopes : Scopes) : (n : Node) →
    From criteria n.leaves (nodePieces criteria scopes n)
  | .text t => by
    intro ps h p hp
    obtain rfl : [Piece.text t] = ps := Except.ok.inj h
    rw [List.mem_singleton.mp hp]
    exact ⟨List.mem_singleton.mpr rfl, fun m hm => (by cases hm), fun e v hraw => by cases hraw⟩
  | .output e => from_output criteria scopes e
  | .branch branches otherwise =>
    branchPieces_from criteria scopes branches
      ((allPieces_from criteria scopes otherwise).mono (List.subset_append_right _ _))
      (List.subset_append_left _ _)
  | .loop name iterable body =>
    from_bind fun _ => from_each (fun inner => allPieces_from criteria inner body) scopes _ 0

theorem allPieces_from (criteria : Json) (scopes : Scopes) : (ns : List Node) →
    From criteria (leavesOf ns) (allPieces criteria scopes ns)
  | [] => by
    intro ps h p hp
    obtain rfl : [] = ps := Except.ok.inj h
    cases hp
  | n :: rest =>
    from_append ((nodePieces_from criteria scopes n).mono (List.subset_append_left _ _))
      ((allPieces_from criteria scopes rest).mono (List.subset_append_right _ _))

theorem branchPieces_from (criteria : Json) (scopes : Scopes) {ls : List Node}
    {otherwise : Except TemplateError (List Piece)} : (branches : List (Expr × List Node)) →
    From criteria ls otherwise → branchLeaves branches ⊆ ls →
      From criteria ls (branchPieces criteria scopes otherwise branches)
  | [], h, _ => h
  | (condition, body) :: rest, h, hsub => by
    have hbody : leavesOf body ⊆ ls := List.Subset.trans (List.subset_append_left _ _) hsub
    have hrest : branchLeaves rest ⊆ ls := List.Subset.trans (List.subset_append_right _ _) hsub
    refine from_bind fun v => ?_
    split
    · exact (allPieces_from criteria scopes body).mono hbody
    · exact branchPieces_from criteria scopes rest h hrest

end

/-- A template that gives a value out only where it binds it. -/
structure BindsOnly (nodes : List Node) : Prop where
  outputs : ∀ e, .output e ∈ leavesOf nodes → e.BindsOne
  guards : ∀ e ∈ guardsOf nodes, e.binds = false

theorem BindsOnly.separate {nodes : List Node} (h : BindsOnly nodes) :
    Separate (leavesOf nodes) (guardsOf nodes) :=
  ⟨fun e he => .inr (h.outputs e he), h.guards⟩

/-- The piece is a text of the template, or the mark of one of its calls of `sp`. -/
def Piece.Own (nodes : List Node) : Piece → Prop
  | .text t => .text t ∈ leavesOf nodes
  | .raw _ _ => False
  | .mark m => .output (.call "sp" [m.operand]) ∈ leavesOf nodes

theorem Piece.From.own {nodes : List Node} (h : BindsOnly nodes) {p : Piece}
    (hp : p.From criteria (leavesOf nodes)) : p.Own nodes := by
  cases p with
  | text t => exact hp.node
  | raw e v => exact hp.raw e v rfl (h.outputs e hp.node)
  | mark m => exact hp.node

theorem mem_shown {c : Char} {ps : List Piece} (hc : c ∈ (shown ps).toList) :
    ∃ p ∈ ps, c ∈ p.shown.toList := by
  induction ps with
  | nil => simp [shown] at hc
  | cons p rest ih =>
    have hsplit : shown (p :: rest) = p.shown ++ shown rest := shown_append [p] rest
    rw [hsplit, String.toList_append, List.mem_append] at hc
    rcases hc with hfirst | hlater
    · exact ⟨p, List.mem_cons_self, hfirst⟩
    · obtain ⟨q, hq, hin⟩ := ih hlater
      exact ⟨q, List.mem_cons_of_mem p hq, hin⟩

/-- A rendering whose pieces are texts of the template and marks, the values of the marks being the
bound ones in their order. Each mark is what a call of `sp` adds to what stands before it. -/
structure WritesOwn (criteria : Json) (nodes : List Node) (text : String) (args : List Json)
    (ps : List Piece) : Prop where
  run : allPieces criteria [] nodes = .ok ps
  written : text = shown ps
  own : ∀ p ∈ ps, p.Own nodes
  count : (marks ps).length = args.length
  calls : ∀ before m after, ps = before ++ .mark m :: after →
    args[(marks before).length]? = some m.value ∧
      renderNode criteria (.output (.call "sp" [m.operand]))
          ⟨m.scopes, shown before, bound before⟩ =
        (.ok (), ⟨m.scopes, shown before ++ "?", bound before ++ [m.value]⟩)
  chars : ∀ c ∈ text.toList, c = '?' ∨ ∃ t, .text t ∈ leavesOf nodes ∧ c ∈ t.toList

/-- A template that gives values out only through `sp` lets nothing of the criteria into the
statement's text: it consists of texts of the template and of one mark for each bound value. -/
theorem render_writes_own_texts {nodes : List Node} {criteria : Json} {text : String}
    {args : List Json} (h : BindsOnly nodes) (hr : render nodes criteria = .ok (text, args)) :
    ∃ ps, WritesOwn criteria nodes text args ps := by
  unfold render at hr
  rcases hrun : renderNodes criteria nodes {} with ⟨e | done, r⟩
  · rw [hrun] at hr; cases hr
  rw [hrun] at hr
  obtain ⟨ps, hps, rfl⟩ := renderNodes_writes criteria nodes h.separate _ r hrun
  obtain ⟨rfl, rfl⟩ := Prod.mk.inj (Except.ok.inj hr)
  have hfrom := allPieces_from criteria [] nodes ps hps
  have hown : ∀ p ∈ ps, p.Own nodes := fun p hp => (hfrom p hp).own h
  -- a rendering starts with nothing written, so its text and values are those of the pieces
  refine ⟨ps, hps, by simp [Rendering.wrote], hown, by simp [Rendering.wrote, bound], ?_, ?_⟩
  · intro before m after hsplit
    have hin : Piece.mark m ∈ ps := by simp [hsplit]
    have hvalue := (hfrom _ hin).mark m rfl
    obtain ⟨operand, hoperand, hfree⟩ := h.outputs _ (hfrom _ hin).node
    cases hoperand
    refine ⟨by simp [Rendering.wrote, bound, marks, hsplit, Piece.mark?], ?_⟩
    simp only [renderNode]
    rw [Render.bind_of_ok (evaluate_sp hfree hvalue)]
    rfl
  · intro c hc
    have htext : c ∈ (shown ps).toList := by simpa [Rendering.wrote] using hc
    obtain ⟨p, hp, hin⟩ := mem_shown htext
    cases p with
    | text t => exact .inr ⟨t, hown _ hp, hin⟩
    | raw e v => exact (hown _ hp).elim
    | mark m => exact .inl (by simpa [Piece.shown] using hin)

/-- A statement with a group of marks for each row. -/
def insertNodes : List Node :=
  [.text "INSERT INTO t VALUES ",
    .loop "r" (.variable "rows")
      [.text "(", .output (.call "sp" [.field (.variable "r") "id"]), .text ")",
        .branch [(.not (.field (.variable "loop") "last"), [.text ","])] []]]

def insertCriteria : Json :=
  .obj [("rows", .arr [.obj [("id", .str "1); DROP TABLE t")], .obj [("id", .int 2)]])]

theorem insert_writes_own_texts :
    BindsOnly insertNodes ∧
    render insertNodes insertCriteria =
      .ok ("INSERT INTO t VALUES (?),(?)", [.str "1); DROP TABLE t", .int 2]) ∧
    ∃ ps, WritesOwn insertCriteria insertNodes "INSERT INTO t VALUES (?),(?)"
      [.str "1); DROP TABLE t", .int 2] ps := by
  have hbinds : BindsOnly insertNodes := by
    constructor
    · intro e he
      simp [insertNodes, leavesOf, Node.leaves, branchLeaves] at he
      exact ⟨.field (.variable "r") "id", he, rfl⟩
    · intro e he
      simp [insertNodes, guardsOf, Node.guards, branchGuards] at he
      rcases he with rfl | rfl <;> rfl
  have hrender : render insertNodes insertCriteria =
      .ok ("INSERT INTO t VALUES (?),(?)", [.str "1); DROP TABLE t", .int 2]) := by rfl
  exact ⟨hbinds, hrender, render_writes_own_texts hbinds hrender⟩

end QueryCatalog.Template
