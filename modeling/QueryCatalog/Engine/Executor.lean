import QueryCatalog.Json.Value

/-!
Access to the storage. Each call takes the statement, a timeout in seconds and the values to bind,
and may change the state of the storage.
-/
namespace QueryCatalog

structure Executor (σ : Type) where
  /-- The first row, if there is one. -/
  get : String → Option Nat → List Json → σ → Except String (Option Row) × σ
  /-- All rows; the number tells how many of them can be used. -/
  select : String → Nat → Option Nat → List Json → σ → Except String (List Row) × σ

end QueryCatalog
