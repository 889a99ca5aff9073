import QueryCatalog.Engine.Selection

/-!
Windows of a query's rows: with the number of all rows, or with the knowledge whether any rows
follow.
-/
namespace QueryCatalog

structure Page where
  offset : Nat
  limit : Nat
  total : Nat
  rows : List Row

structure Window where
  offset : Nat
  limit : Nat
  hasNext : Bool
  rows : List Row

namespace Engine

/-- A count in any form in which storage gives it. -/
def countValue? : Json → Option Nat
  | .num (.int n) => some n.toNat
  | .num (.float x) => some (Convert.truncatedWord x)
  | .str s => Text.word? (Text.trimChars s.toList)
  | _ => none

def totalOf (field : String) (row : Option Row) : Nat :=
  ((row.bind fun r => r.get? field).bind countValue?).getD 0

variable {σ : Type} (e : Engine σ)

/-- The number of all rows, of which a short window tells without a statement of its own. -/
def total (p : Prepared) (name : String) (final : BoundStatement) (offset limit size : Nat) :
    Run σ Nat := do
  if size < limit then return offset + size
  let row ← e.getRow p name (e.dialect.count final.statement p.query.hints) final.args
  return totalOf e.dialect.totalField row

section

/-! What completes the rows of a window is open here. -/

variable (complete : Prepared → List Row → Run σ (List Row)) (name : String) (request : Request)

def pageBy : Run σ Page := do
  let p ← e.prepare name request
  let final ← p.final
  let offset := p.request.offset.getD 0
  let limit := e.settings.limitOf p.query p.request.limit
  let statement := e.dialect.limit final.statement offset limit p.query.hints
  let rows := (← e.selectRows p name statement limit final.args).take limit
  let total ← e.total p name final offset limit rows.length
  let rows ← complete p rows
  return { offset, limit, total, rows }

/-- Reads one row more than the window holds to see whether any follow. -/
def forwardBy : Run σ Window := do
  let p ← e.prepare name request
  let final ← p.final
  let offset := p.request.offset.getD 0
  let limit := e.settings.limitOf p.query p.request.limit
  let statement := e.dialect.limit final.statement offset (limit + 1) p.query.hints
  let found ← e.selectRows p name statement (limit + 1) final.args
  let rows ← complete p (found.take limit)
  return { offset, limit, hasNext := limit < found.length, rows }

end

def page (name : String) (request : Request) : Run σ Page := do
  e.pageBy (e.complete (e.nestedOf (← depth)) [name]) name request

def forward (name : String) (request : Request) : Run σ Window := do
  e.forwardBy (e.complete (e.nestedOf (← depth)) [name]) name request

end Engine

end QueryCatalog
