import QueryCatalog.Proofs.Engine.Pairing
import QueryCatalog.Proofs.Engine.Parallel

/-!
Operations with a journal beside the storage. What they enter there changes neither their answer
nor the session that they leave; a property that each entry has when it is made is one of the whole
journal.
-/
namespace QueryCatalog

variable {σ ι α β : Type}

/-- Calls of the storage leave the journal alone. -/
def Executor.beside (x : Executor σ) (ι : Type) : Executor (σ × List ι) where
  get statement timeout args s :=
    let (answer, storage) := x.get statement timeout args s.1
    (answer, storage, s.2)
  select statement expected timeout args s :=
    let (answer, storage) := x.select statement expected timeout args s.1
    (answer, storage, s.2)

namespace Engine

def beside (e : Engine σ) (ι : Type) : Engine (σ × List ι) :=
  e.withExecutor (e.executor.beside ι)

def journal (s : Session (σ × List ι)) : List ι := s.storage.2

/-- The session without its journal. -/
def bare (s : Session (σ × List ι)) : Session σ := ⟨s.store, s.storage.1⟩

/-- A session before the first entry. -/
def blank (s : Session σ) (ι : Type) : Session (σ × List ι) := ⟨s.store, s.storage, []⟩

def enter (x : ι) : Run (σ × List ι) Unit := fun s =>
  (.ok (), { s with storage := (s.storage.1, s.storage.2 ++ [x]) })

/-- The run with the journal does what the run without it does, and all entries have the
property. -/
structure Journals (P : ι → Prop) (plain : Except QueryError α × Session σ)
    (run : Except QueryError α × Session (σ × List ι)) : Prop where
  answer : run.1 = plain.1
  session : bare run.2 = plain.2
  entries : ∀ x ∈ journal run.2, P x

/-- It does so in every session whose journal has the property. -/
def Journaled (P : ι → Prop) (plain : Run σ α) (run : Run (σ × List ι) α) : Prop :=
  ∀ s, (∀ x ∈ journal s, P x) → Journals P (plain.on (bare s)) (run.on s)

/-- A session and the same one with a journal that has the property. -/
def Beside (P : ι → Prop) (s : Session σ) (t : Session (σ × List ι)) : Prop :=
  bare t = s ∧ ∀ x ∈ journal t, P x

variable {e : Engine σ} {P : ι → Prop}

theorem journals_iff {plain : Except QueryError α × Session σ}
    {run : Except QueryError α × Session (σ × List ι)} :
    Journals P plain run ↔ PairedAt (Beside P) (fun _ => True) plain run := by
  constructor
  · exact fun h => ⟨h.answer, ⟨h.session, h.entries⟩, fun _ _ => trivial⟩
  · exact fun h => ⟨h.answer, h.sessions.1, h.sessions.2⟩

theorem journaled_iff {plain : Run σ α} {run : Run (σ × List ι) α} :
    Journaled P plain run ↔ Paired (Beside P) (fun _ => True) plain run := by
  constructor
  · rintro h s t ⟨rfl, ht⟩
    exact journals_iff.mp (h t ht)
  · exact fun h t ht => journals_iff.mpr (h (bare t) t ⟨rfl, ht⟩)

theorem journaled_lift (x : Except QueryError α) :
    Journaled P (liftM x : Run σ α) (liftM x : Run (σ × List ι) α) :=
  journaled_iff.mpr (paired_lift fun _ _ => trivial)

theorem journaled_pure (a : α) : Journaled P (pure a : Run σ α) (pure a : Run (σ × List ι) α) :=
  journaled_lift (.ok a)

theorem journaled_throw (error : QueryError) :
    Journaled P (throw error : Run σ α) (throw error : Run (σ × List ι) α) :=
  journaled_lift (.error error)

/-- The second part goes on where the first one ends. -/
theorem Journals.bind {m : Run σ α} {m' : Run (σ × List ι) α} {f : α → Run σ β}
    {f' : α → Run (σ × List ι) β} {s : Session σ} {s' : Session (σ × List ι)}
    (hm : Journals P (m.on s) (m'.on s'))
    (hf : ∀ a t, m.on s = (.ok a, bare t) → (∀ x ∈ journal t, P x) →
      Journals P ((f a).on (bare t)) ((f' a).on t)) :
    Journals P ((m >>= f).on s) ((m' >>= f').on s') := by
  refine journals_iff.mpr ((journals_iff.mp hm).bind ?_)
  rintro a _ t hplain ⟨rfl, ht⟩ -
  exact journals_iff.mp (hf a t hplain ht)

theorem journaled_bind {m : Run σ α} {m' : Run (σ × List ι) α} {f : α → Run σ β}
    {f' : α → Run (σ × List ι) β} (hm : Journaled P m m') (hf : ∀ a, Journaled P (f a) (f' a)) :
    Journaled P (m >>= f) (m' >>= f') :=
  fun s hs => (hm s hs).bind fun a t _ ht => hf a t ht

/-- An entry has to have the property when it is made. -/
theorem journals_enter {x : ι} {m : Run σ α} {m' : Run (σ × List ι) α} (hm : Journaled P m m')
    {s : Session (σ × List ι)} (hs : ∀ y ∈ journal s, P y) (hx : P x) :
    Journals P (m.on (bare s)) ((enter x >>= fun _ => m').on s) := by
  have henter : (enter x : Run (σ × List ι) Unit).on s =
      (.ok (), { s with storage := (s.storage.1, s.storage.2 ++ [x]) }) := rfl
  rw [Run.on_bind_ok henter]
  refine hm { s with storage := (s.storage.1, s.storage.2 ++ [x]) } ?_
  exact List.forall_mem_append.mpr ⟨hs, List.forall_mem_singleton.mpr hx⟩

/-! The parts of which the engine is made enter nothing, so an operation enters what its completion
enters. -/

theorem journaled_depth : Journaled P (depth : Run σ Nat) (depth : Run (σ × List ι) Nat) :=
  fun _ hs => ⟨rfl, rfl, hs⟩

theorem journaled_prepare (name : String) (request : Request) :
    Journaled P (e.prepare name request) ((e.beside ι).prepare name request) :=
  fun _ hs => ⟨rfl, rfl, hs⟩

theorem callsPaired_beside : CallsPaired (Beside P) e (e.beside ι) where
  settings := rfl
  dialect := rfl
  depth := journaled_iff.mp journaled_depth
  getRow _ _ _ _ := journaled_iff.mp fun _ hs => ⟨rfl, rfl, hs⟩
  selectRows _ _ _ _ _ := journaled_iff.mp fun _ hs => ⟨rfl, rfl, hs⟩

section

variable {complete : Prepared → List Row → Run σ (List Row)}
  {complete' : Prepared → List Row → Run (σ × List ι) (List Row)}
  (hcomplete : ∀ p rows, Journaled P (complete p rows) (complete' p rows)) (name : String)
  (request : Request)

include hcomplete

theorem journaled_selectBy (maximum : Option Nat) :
    Journaled P (e.selectBy complete name request maximum)
      ((e.beside ι).selectBy complete' name request maximum) :=
  journaled_iff.mpr (callsPaired_beside.selectBy (journaled_iff.mp (journaled_prepare _ _))
    (fun p rows _ => journaled_iff.mp (hcomplete p rows)) maximum)

theorem journaled_getBy : Journaled P (e.getBy complete name request)
    ((e.beside ι).getBy complete' name request) :=
  journaled_iff.mpr (callsPaired_beside.getBy (journaled_iff.mp (journaled_prepare _ _))
    fun p rows _ => journaled_iff.mp (hcomplete p rows))

theorem journaled_pageBy : Journaled P (e.pageBy complete name request)
    ((e.beside ι).pageBy complete' name request) :=
  journaled_iff.mpr (callsPaired_beside.pageBy (journaled_iff.mp (journaled_prepare _ _))
    fun p rows _ => journaled_iff.mp (hcomplete p rows))

theorem journaled_forwardBy : Journaled P (e.forwardBy complete name request)
    ((e.beside ι).forwardBy complete' name request) :=
  journaled_iff.mpr (callsPaired_beside.forwardBy (journaled_iff.mp (journaled_prepare _ _))
    fun p rows _ => journaled_iff.mp (hcomplete p rows))

end

end Engine

end QueryCatalog
