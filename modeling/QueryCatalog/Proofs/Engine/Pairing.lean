import QueryCatalog.Proofs.Engine.Run

/-!
Two engines side by side, over sessions that correspond. Where their calls of the storage go alike,
their operations do so as far as preparation and completion do.
-/
namespace QueryCatalog.Engine

variable {σ τ α β : Type}

/-- The same answer, which has the property if it is a result, and sessions that correspond. -/
structure PairedAt (S : Session σ → Session τ → Prop) (Q : α → Prop)
    (a : Except QueryError α × Session σ) (b : Except QueryError α × Session τ) : Prop where
  answer : b.1 = a.1
  sessions : S a.2 b.2
  result : ∀ x, a.1 = .ok x → Q x

/-- From sessions that correspond both runs come to the same. -/
def Paired (S : Session σ → Session τ → Prop) (Q : α → Prop) (m : Run σ α) (m' : Run τ α) : Prop :=
  ∀ s t, S s t → PairedAt S Q (m.on s) (m'.on t)

variable {S : Session σ → Session τ → Prop} {Q : α → Prop} {Q' : β → Prop}

theorem paired_lift {x : Except QueryError α} (h : ∀ a, x = .ok a → Q a) :
    Paired S Q (liftM x : Run σ α) (liftM x : Run τ α) := by
  intro s t hst
  rw [Run.on_lift, Run.on_lift]
  exact ⟨rfl, hst, h⟩

theorem paired_pure {a : α} (h : Q a) : Paired S Q (pure a : Run σ α) (pure a : Run τ α) :=
  paired_lift fun _ hx => Except.ok.inj hx ▸ h

theorem paired_throw (error : QueryError) :
    Paired S Q (throw error : Run σ α) (throw error : Run τ α) :=
  paired_lift (x := .error error) fun _ h => nomatch h

/-- The second parts go on where the first ones end. -/
theorem PairedAt.bind {m : Run σ α} {m' : Run τ α} {f : α → Run σ β} {f' : α → Run τ β}
    {s : Session σ} {t : Session τ} (hm : PairedAt S Q (m.on s) (m'.on t))
    (hf : ∀ a u v, m.on s = (.ok a, u) → S u v → Q a → PairedAt S Q' ((f a).on u) ((f' a).on v)) :
    PairedAt S Q' ((m >>= f).on s) ((m' >>= f').on t) := by
  rcases hleft : m.on s with ⟨answer, u⟩
  rcases hright : m'.on t with ⟨answer', v⟩
  rw [hleft, hright] at hm
  obtain rfl : answer' = answer := hm.answer
  cases answer' with
  | error error =>
    rw [Run.on_bind_error hleft, Run.on_bind_error hright]
    exact ⟨rfl, hm.sessions, fun _ h => nomatch h⟩
  | ok a =>
    rw [Run.on_bind_ok hleft, Run.on_bind_ok hright]
    exact hf a u v hleft hm.sessions (hm.result a rfl)

theorem paired_bind {m : Run σ α} {m' : Run τ α} {f : α → Run σ β} {f' : α → Run τ β}
    (hm : Paired S Q m m') (hf : ∀ a, Q a → Paired S Q' (f a) (f' a)) :
    Paired S Q' (m >>= f) (m' >>= f') :=
  fun s t hst => (hm s t hst).bind fun a u v _ huv ha => hf a ha u v huv

theorem paired_foldlM {f : β → α → Run σ β} {f' : β → α → Run τ β}
    (hf : ∀ b a, Paired S (fun _ => True) (f b a) (f' b a)) (items : List α) :
    ∀ b, Paired S (fun _ => True) (items.foldlM f b) (items.foldlM f' b) := by
  induction items with
  | nil => exact fun _ => paired_pure trivial
  | cons a rest ih =>
    intro b
    rw [List.foldlM_cons, List.foldlM_cons]
    exact paired_bind (hf b a) fun b' _ => ih b'

/-- Engines of one kind whose calls of the storage go alike. -/
structure CallsPaired (S : Session σ → Session τ → Prop) (e : Engine σ) (e' : Engine τ) : Prop where
  settings : e'.settings = e.settings
  dialect : e'.dialect = e.dialect
  depth : Paired S (fun _ => True) depth depth
  getRow : ∀ p name statement args,
    Paired S (fun _ => True) (e.getRow p name statement args) (e'.getRow p name statement args)
  selectRows : ∀ p name statement expected args, Paired S (fun _ => True)
    (e.selectRows p name statement expected args) (e'.selectRows p name statement expected args)

namespace CallsPaired

variable {e : Engine σ} {e' : Engine τ} (h : CallsPaired S e e')

include h

theorem total (p : Prepared) (name : String) (final : BoundStatement) (offset limit size : Nat) :
    Paired S (fun _ => True) (e.total p name final offset limit size)
      (e'.total p name final offset limit size) := by
  unfold Engine.total
  rw [h.dialect]
  by_cases hsize : size < limit
  · simp only [hsize, if_true]
    exact paired_pure trivial
  · simp only [hsize, if_false]
    exact paired_bind (h.getRow _ _ _ _) fun _ _ => paired_pure trivial

variable {Prepares : Prepared → Prop} {name : String} {request : Request}
  {complete : Prepared → List Row → Run σ (List Row)}
  {complete' : Prepared → List Row → Run τ (List Row)}
  (hprepare : Paired S Prepares (e.prepare name request) (e'.prepare name request))
  (hcomplete : ∀ p rows, Prepares p → Paired S (fun _ => True) (complete p rows) (complete' p rows))

include hprepare hcomplete

theorem selectBy (maximum : Option Nat) : Paired S (fun _ => True)
    (e.selectBy complete name request maximum) (e'.selectBy complete' name request maximum) := by
  have hcapped : e'.capped = e.capped := by
    unfold capped
    rw [h.settings]
  refine paired_bind hprepare fun p hp => ?_
  refine paired_bind (paired_lift fun _ _ => trivial) fun final _ => ?_
  rw [h.settings, hcapped]
  refine paired_bind (h.selectRows _ _ _ _ _) fun rows _ => ?_
  exact paired_bind (paired_lift fun _ _ => trivial) fun rows _ => hcomplete p rows hp

theorem getBy : Paired S (fun _ => True) (e.getBy complete name request)
    (e'.getBy complete' name request) := by
  refine paired_bind hprepare fun p hp => ?_
  refine paired_bind (paired_lift fun _ _ => trivial) fun final _ => ?_
  refine paired_bind (h.getRow _ _ _ _) fun row _ => ?_
  cases row with
  | none => exact paired_pure trivial
  | some row => exact paired_bind (hcomplete p [row] hp) fun _ _ => paired_pure trivial

theorem pageBy : Paired S (fun _ => True) (e.pageBy complete name request)
    (e'.pageBy complete' name request) := by
  refine paired_bind hprepare fun p hp => ?_
  refine paired_bind (paired_lift fun _ _ => trivial) fun final _ => ?_
  rw [h.settings, h.dialect]
  refine paired_bind (h.selectRows _ _ _ _ _) fun found _ => ?_
  refine paired_bind (h.total _ _ _ _ _ _) fun total _ => ?_
  exact paired_bind (hcomplete p _ hp) fun _ _ => paired_pure trivial

theorem forwardBy : Paired S (fun _ => True) (e.forwardBy complete name request)
    (e'.forwardBy complete' name request) := by
  refine paired_bind hprepare fun p hp => ?_
  refine paired_bind (paired_lift fun _ _ => trivial) fun final _ => ?_
  rw [h.settings, h.dialect]
  refine paired_bind (h.selectRows _ _ _ _ _) fun found _ => ?_
  exact paired_bind (hcomplete p _ hp) fun _ _ => paired_pure trivial

end CallsPaired

end QueryCatalog.Engine
