import QueryCatalog.Proofs.Engine.Failures
import QueryCatalog.Proofs.Mapping.Trails
import QueryCatalog.Proofs.Engine.Reachable

/-!
Operations that keep the path of query names in their state: a name is pushed before a nested
selection and popped after it, whether it succeeds or fails. They do what the operations do that
are given their path.
-/
namespace QueryCatalog

/-- A nested selection, by the path that it finds, its own name last, and the path that it leaves. -/
structure Visit where
  found : List String
  left : List String

/-- Storage with the path beside it, and the nested selections so far. -/
structure Tracked (σ : Type) where
  storage : σ
  path : List String := []
  visits : List Visit := []

variable {σ α β : Type}

def Executor.tracked (x : Executor σ) : Executor (Tracked σ) where
  get statement timeout args s :=
    let (answer, storage) := x.get statement timeout args s.storage
    (answer, { s with storage })
  select statement expected timeout args s :=
    let (answer, storage) := x.select statement expected timeout args s.storage
    (answer, { s with storage })

/-- A nested selection along a trail, which leaves the path as it was. -/
structure Visit.Sound (catalog : Catalog) (root : String) (v : Visit) : Prop where
  left : v.left = v.found
  trail : catalog.Trail root v.found
  depth : v.found.length ≤ catalog.length

namespace Engine

/-! The engine over tracked storage. -/

def tracked (e : Engine σ) : Engine (Tracked σ) :=
  { executor := e.executor.tracked
    dialect := e.dialect
    workshop := e.workshop
    handlers := e.handlers
    settings := e.settings }

def untracked (s : Session (Tracked σ)) : Session σ := ⟨s.store, s.storage.storage⟩

def currentPath : Run (Tracked σ) (List String) := do
  return (← MonadState.get).storage.path

def setPath (path : List String) : Run (Tracked σ) Unit :=
  modify fun s => { s with storage := { s.storage with path } }

/-- Pushes a name, runs the action and pops the name again. -/
def within (name : String) (action : Run (Tracked σ) α) : Run (Tracked σ) α := fun s =>
  let found := s.storage.path ++ [name]
  let (answer, t) := action.on { s with storage := { s.storage with path := found } }
  let visit : Visit := { found, left := t.storage.path }
  (answer, { t with
    storage := { t.storage with path := visit.left.dropLast, visits := t.storage.visits ++ [visit] } })

/-- Selects a query by its name, a request and the size it may have. -/
abbrev Selects (σ : Type) := String → Request → Option Nat → Run (Tracked σ) (List Row)

variable (e : Engine σ)

def fetchTracked (nested : Selects σ) (p : Prepared) (rows : List Row) (f : Fetch) :
    Run (Tracked σ) (List Row) := do
  let path ← currentPath
  e.tracked.runFetch (fun _ name request size => within name (nested name request (some size)))
    path p rows f

def fetchesTracked (nested : Selects σ) (p : Prepared) (rows : List Row) :
    Run (Tracked σ) (List Row) :=
  if rows.isEmpty then return rows
  else p.query.fetches.foldlM (e.fetchTracked nested p) rows

def completeTracked (nested : Selects σ) (p : Prepared) (rows : List Row) :
    Run (Tracked σ) (List Row) := do
  let rows ← e.fetchesTracked nested p rows
  e.tracked.handleHints p rows

/-- Selects to any depth; what is done at the bottom is left open. -/
def selectTracked (bottom : Selects σ) : Nat → Selects σ
  | 0 => bottom
  | depth + 1 => e.tracked.selectBy (e.completeTracked (selectTracked bottom depth))

theorem selectWithin_succ (depth : Nat) (path : List String) (name : String) (request : Request)
    (maximum : Option Nat) : e.selectWithin (depth + 1) path name request maximum =
      e.selectBy (e.complete (e.nestedOf depth) path) name request maximum := rfl

/-- An operation that starts at a query. -/
def rooted (bottom : Selects σ) (name : String)
    (operation : (Prepared → List Row → Run (Tracked σ) (List Row)) → Run (Tracked σ) α) :
    Run (Tracked σ) α := do
  setPath [name]
  let depth ← depth
  operation (e.completeTracked (e.selectTracked bottom depth))

variable (name : String) (request : Request) (s : Session σ)

theorem on_select : (e.select name request).on s =
    (e.selectBy (e.complete (e.nestedOf s.store.catalog.length) [name]) name request none).on s := by
  rw [select, Run.on_bind_ok (on_depth s), selectWithin_succ]

/-! What the other operations do with the rows they find is completion as well. -/

theorem get_eq : e.get name request = (depth >>= fun depth =>
    e.getBy (e.complete (e.nestedOf depth) [name]) name request) := rfl

theorem page_eq : e.page name request = (depth >>= fun depth =>
    e.pageBy (e.complete (e.nestedOf depth) [name]) name request) := rfl

theorem forward_eq : e.forward name request = (depth >>= fun depth =>
    e.forwardBy (e.complete (e.nestedOf depth) [name]) name request) := rfl

theorem on_get : (e.get name request).on s =
    (e.getBy (e.complete (e.nestedOf (s.store.catalog.length + 1)) [name]) name request).on s := by
  rw [get_eq, Run.on_bind_ok (on_depth s)]

theorem on_page : (e.page name request).on s =
    (e.pageBy (e.complete (e.nestedOf (s.store.catalog.length + 1)) [name]) name request).on s := by
  rw [page_eq, Run.on_bind_ok (on_depth s)]

theorem on_forward : (e.forward name request).on s =
    (e.forwardBy (e.complete (e.nestedOf (s.store.catalog.length + 1)) [name]) name request).on s := by
  rw [forward_eq, Run.on_bind_ok (on_depth s)]

end Engine

end QueryCatalog
