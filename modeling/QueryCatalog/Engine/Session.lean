import QueryCatalog.Plan.Store
import QueryCatalog.Hint.Handler
import QueryCatalog.Settings.Basic
import QueryCatalog.Engine.Dialect
import QueryCatalog.Engine.Executor

/-!
The engine that executes queries, and the sessions it works in. What an operation has changed
stays changed when it fails.
-/
namespace QueryCatalog

structure Engine (σ : Type) where
  executor : Executor σ
  dialect : Dialect := .ansi
  workshop : Workshop := {}
  handlers : HintHandlers := .standard
  settings : Settings := {}

/-- The store of plans, and the state of the storage. -/
structure Session (σ : Type) where
  store : PlanStore
  storage : σ

abbrev Run (σ α : Type) := ExceptT QueryError (StateM (Session σ)) α

namespace Engine

variable {σ : Type} (e : Engine σ)

def evaluate (owner : String) (script : Script) (bindings : Bindings) : Except QueryError Json :=
  (script.evaluate e.workshop bindings).mapError (.script owner)

def prepare (name : String) (request : Request) : Run σ Prepared := fun s =>
  let (prepared, store) := s.store.prepare e.workshop name request
  (prepared, { s with store })

/-- A call of the storage on behalf of a query. -/
def call {α : Type} (name : String) (action : σ → Except String α × σ) : Run σ α := fun s =>
  let (result, storage) := action s.storage
  (result.mapError (.execution name), { s with storage })

def getRow (p : Prepared) (name statement : String) (args : List Json) : Run σ (Option Row) :=
  call name (e.executor.get statement (e.settings.timeoutOf p.query) args)

def selectRows (p : Prepared) (name statement : String) (expected : Nat) (args : List Json) :
    Run σ (List Row) :=
  call name (e.executor.select statement expected (e.settings.timeoutOf p.query) args)

def handleHints (p : Prepared) (rows : List Row) : Except QueryError (List Row) :=
  e.handlers.apply e.workshop p rows

end Engine

end QueryCatalog
