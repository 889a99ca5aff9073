import QueryCatalog.Plan.Prepared

/-!
Hints change the rows of a result. A hint is handled by its script if it has one, or else by the
handler of its key.
-/
namespace QueryCatalog

abbrev HintHandler := Prepared → Hint → List Row → Except QueryError (List Row)

namespace HintHandler

def convertField (query field : String) (type : ParameterType) (row : Row) : Except QueryError Row :=
  match row.get? field with
  | none => .ok row
  | some v =>
    match Convert.value type v with
    | .ok w => .ok (row.put field w)
    | .error e => .error (.conversion (.resultField query field e))

/-- Converts the fields under `field-name` to the type under `target-type`. -/
def fieldConvert : HintHandler := fun p hint rows =>
  match hint.parameter "target-type" with
  | [] => .ok rows
  | target :: _ => do
    let type ← ParameterType.parse target
    (hint.parameter "field-name").foldlM
      (fun rows field => rows.mapM (convertField p.name field type)) rows

/-- Rows that agree in all but the aggregated fields, with what they hold in those. -/
abbrev Groups := List (Row × List Json)

def addToGroup (key : Row) (item : Json) : Groups → Groups
  | [] => [(key, [item])]
  | (k, items) :: rest =>
    if Json.obj k == .obj key then (k, items ++ [item]) :: rest
    else (k, items) :: addToGroup key item rest

/-- A row without the fields, and the fields alone. -/
def splitRow (fields : List String) (row : Row) : Row × Row :=
  row.partition fun field => !fields.contains field.1

def group (fields : List String) (rows : List Row) : Groups :=
  rows.foldl (fun groups row =>
    let (key, item) := splitRow fields row
    addToGroup key (.obj item) groups) []

/-- Makes one row of those that agree in all but the fields under `aggs-field-names`, and lists
these under `aggs-name`. -/
def aggregation : HintHandler := fun _ hint rows =>
  match hint.parameter "aggs-name", hint.parameter "aggs-field-names" with
  | name :: _, field :: fields =>
    .ok ((group (field :: fields) rows).map fun g => g.1.put name (.arr g.2))
  | _, _ => .ok rows

end HintHandler

abbrev HintHandlers := Dictionary HintHandler

namespace HintHandlers

def standard : HintHandlers :=
  Dictionary.ofList
    [("result-field-convert", HintHandler.fieldConvert),
      ("result-aggregation", HintHandler.aggregation)]

/-- A script's answer replaces the rows unless it is null. -/
def runScript (w : Workshop) (p : Prepared) (hint : Hint) (script : Script)
    (rows : List Row) : Except QueryError (List Row) := do
  let answer ← (script.evaluate w { p.request.bindings with rows := some rows }).mapError
    (.script p.name)
  if answer.isNull then return rows
  match answer.rows? with
  | some rows => return rows
  | none => throw (.script p.name (.hintRows hint.key))

/-- A hint of an unknown key changes nothing. -/
def applyHint (handlers : HintHandlers) (w : Workshop) (p : Prepared) (hint : Hint)
    (rows : List Row) : Except QueryError (List Row) :=
  match hint.script with
  | some script => runScript w p hint script rows
  | none =>
    match Dictionary.find? handlers hint.key with
    | some handle => handle p hint rows
    | none => .ok rows

def apply (handlers : HintHandlers) (w : Workshop) (p : Prepared) (rows : List Row) :
    Except QueryError (List Row) :=
  p.query.hints.foldlM (fun rows hint => applyHint handlers w p hint rows) rows

end HintHandlers

end QueryCatalog
