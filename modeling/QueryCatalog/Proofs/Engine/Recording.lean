import QueryCatalog.Proofs.Engine.Reachable

/-!
Executors that keep a record of what they are given. The record tells which statement and which
values an operation hands over to the storage, and in which order.
-/
namespace QueryCatalog

variable {σ : Type}

/-- Notes the statement and the values of each call after those of the calls before it. -/
def Executor.recorded (x : Executor σ) : Executor (σ × List BoundStatement) where
  get statement timeout args s :=
    let (answer, storage) := x.get statement timeout args s.1
    (answer, storage, s.2 ++ [⟨statement, args⟩])
  select statement expected timeout args s :=
    let (answer, storage) := x.select statement expected timeout args s.1
    (answer, storage, s.2 ++ [⟨statement, args⟩])

namespace Engine

def recorded (e : Engine σ) : Engine (σ × List BoundStatement) :=
  { executor := e.executor.recorded
    dialect := e.dialect
    workshop := e.workshop
    handlers := e.handlers
    settings := e.settings }

/-- The calls that were given before the session and in it, first ones first. -/
def calls (s : Session (σ × List BoundStatement)) : List BoundStatement := s.storage.2

/-- A session before the first call. -/
def recording (s : Session σ) : Session (σ × List BoundStatement) := ⟨s.store, s.storage, []⟩

variable {e : Engine σ}

theorem calls_prepare (name : String) (request : Request)
    (s : Session (σ × List BoundStatement)) :
    calls ((e.recorded.prepare name request).on s).2 = calls s := rfl

theorem calls_selectRows (p : Prepared) (name statement : String) (expected : Nat)
    (args : List Json) (s : Session (σ × List BoundStatement)) :
    calls ((e.recorded.selectRows p name statement expected args).on s).2 =
      calls s ++ [⟨statement, args⟩] := rfl

theorem calls_getRow (p : Prepared) (name statement : String) (args : List Json)
    (s : Session (σ × List BoundStatement)) :
    calls ((e.recorded.getRow p name statement args).on s).2 = calls s ++ [⟨statement, args⟩] := rfl

/-- What was recorded stays recorded. -/
theorem kept_calls (e : Engine σ) (before : List BoundStatement) :
    e.recorded.Kept (fun s => before <+: calls s) := by
  constructor
  · intro name request s hs
    rw [calls_prepare]
    exact hs
  · intro p name statement args s hs
    rw [calls_getRow]
    exact hs.trans (List.prefix_append _ _)
  · intro p name statement expected args s hs
    rw [calls_selectRows]
    exact hs.trans (List.prefix_append _ _)

/-- The first thing that a selection hands over is what its query is prepared to. -/
theorem first_call_of_select {name : String} {request : Request}
    {s : Session (σ × List BoundStatement)} {call : BoundStatement} {rest : List BoundStatement}
    (h : calls ((e.recorded.select name request).on s).2 = calls s ++ call :: rest) :
    ∃ p t, (e.recorded.prepare name request).on s = (.ok p, t) ∧ p.final = .ok call := by
  have hnone : calls s ≠ calls s ++ call :: rest := by simp
  rw [select, Run.on_bind_ok (on_depth s), selectWithin, selectBy] at h
  rcases hp : (e.recorded.prepare name request).on s with ⟨error | p, t⟩
  · have ht : calls t = calls s := by
      rw [← calls_prepare (e := e) name request s, hp]
    rw [Run.on_bind_error hp, ht] at h
    exact absurd h hnone
  · have ht : calls t = calls s := by
      rw [← calls_prepare (e := e) name request s, hp]
    rw [Run.on_bind_ok hp] at h
    cases hfinal : p.final with
    | error error =>
      rw [Run.on_bind_error (by rw [Run.on_lift, hfinal]), ht] at h
      exact absurd h hnone
    | ok final =>
      refine ⟨p, t, rfl, ?_⟩
      rw [Run.on_bind_ok (by rw [Run.on_lift, hfinal])] at h
      have hgiven : calls ((e.recorded.selectRows p name final.statement
          (expectedFor (e.recorded.settings.maxSelectSizeOf p.query)) final.args).on t).2 =
            calls s ++ [final] := by
        rw [calls_selectRows, ht]
      have hgrows : calls s ++ [final] <+: calls s ++ call :: rest := by
        rw [← h]
        refine Run.holds_bind (I := fun u => calls s ++ [final] <+: calls u)
          (hgiven ▸ List.prefix_rfl) fun rows => ?_
        refine Run.keeps_bind (Run.keeps_lift _) fun rows => ?_
        exact (kept_calls e _).carried.complete ((kept_calls e _).carried.nestedOf _) _ _ _
      have hsame : [final] <+: call :: rest := by simpa using hgrows
      have : final = call := by simpa using hsame
      rw [hfinal, this]

end Engine

end QueryCatalog
