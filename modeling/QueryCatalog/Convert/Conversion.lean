import QueryCatalog.Json.Printer
import QueryCatalog.Convert.ParameterType
import QueryCatalog.Calendar.Instant
import QueryCatalog.Decimal.Reading

/-!
Conversion of values to declared types. Null stays null and arrays are converted element by
element; only the type `json` takes an array as it is.
-/
namespace QueryCatalog

inductive ConversionError where
  /-- Text that is not written as the type asks. -/
  | text (shown : String) (target : ParameterType)
  /-- A number without a counterpart in the type. -/
  | number (value : Number) (target : ParameterType)
  /-- A value of a kind that the type does not take. -/
  | kind (value : Json) (target : ParameterType)

namespace ConversionError

def withArticle (target : ParameterType) : String :=
  (if target == .integer then "an " else "a ") ++ target.name

def message : ConversionError → String
  | .text shown target => s!"'{shown}' is not " ++ withArticle target
  | .number n .integer => n.render ++ " is not an integer"
  | .number n _ => n.render ++ " is not a valid timestamp"
  | .kind v target => s!"cannot convert {v.compact} to {target.name}"

end ConversionError

namespace Convert

/-- The size of a float without its fraction, at most `2 ^ 64`. -/
def truncatedSize (x : Float) : Nat :=
  let b := Decimal.Binary.ofFloat x
  if b.exponent ≥ 0 then
    if b.exponent > 64 then Text.wordBound
    else min Text.wordBound (b.mantissa * Nat.pow 2 b.exponent.toNat)
  else b.mantissa / Nat.pow 2 (-b.exponent).toNat

/-- A float without fraction as an integer, as near as 64 bits allow. -/
def truncate (x : Float) : Int :=
  if Decimal.isNegative x then max Text.minInt64 (-(truncatedSize x : Int))
  else min Text.maxInt64 (truncatedSize x)

/-- Whether a float is finite and has no fraction. -/
def isWhole (x : Float) : Bool :=
  let b := Decimal.Binary.ofFloat x
  x.isFinite && (b.exponent ≥ 0 || b.mantissa % Nat.pow 2 (-b.exponent).toNat == 0)

/-- A float without its fraction as an unsigned number, as near as 64 bits allow. -/
def truncatedWord (x : Float) : Nat :=
  if Decimal.isNegative x then 0 else min (Text.wordBound - 1) (truncatedSize x)

def toInteger : Json → Except ConversionError Json
  | .num (.int n) => .ok (.num (.int n))
  | .num (.float x) =>
    if isWhole x then .ok (.int (truncate x)) else .error (.number (.float x) .integer)
  | .str s =>
    match Text.int64? (Text.trimChars s.toList) with
    | some n => .ok (.int n)
    | none => .error (.text s .integer)
  | .bool b => .ok (.int (if b then 1 else 0))
  | other => .error (.kind other .integer)

def toDecimal : Json → Except ConversionError Json
  | .num n => .ok (.num (.ofFloat n.toFloat))
  | .str s =>
    match Decimal.float? (Text.trimChars s.toList) with
    | some x => .ok (.num (.ofFloat x))
    | none => .error (.text s .decimal)
  | other => .error (.kind other .decimal)

def trueWords : List String := ["true", "1", "yes", "y", "on"]

def falseWords : List String := ["false", "0", "no", "n", "off"]

def toBoolean : Json → Except ConversionError Json
  | .bool b => .ok (.bool b)
  | .num n => .ok (.bool (n.toFloat != 0.0))
  | .str s =>
    let word := Text.toAsciiLower (Text.trim s)
    if trueWords.contains word then .ok (.bool true)
    else if falseWords.contains word then .ok (.bool false)
    else .error (.text s .boolean)
  | other => .error (.kind other .boolean)

/-- Text in any accepted notation, or milliseconds since 1970. -/
def instant (target : ParameterType) : Json → Except ConversionError Calendar.Instant
  | .str s =>
    match Calendar.Instant.parse? (Text.trimChars s.toList) with
    | some i => .ok i
    | none => .error (.text (Text.trim s) target)
  | .num n =>
    match n.int64?.bind Calendar.Instant.ofMillis? with
    | some i => .ok i
    | none => .error (.number n target)
  | other => .error (.kind other target)

def toDate (value : Json) : Except ConversionError Calendar.Date :=
  match value with
  | .str s =>
    match Calendar.Date.parse? (Text.trimChars s.toList) with
    | some d => .ok d
    | none => (instant .date value).map (·.date)
  | _ => (instant .date value).map (·.date)

def scalar (value : Json) : ParameterType → Except ConversionError Json
  | .json => .ok value
  | .string =>
    match value with
    | .str s => .ok (.str s)
    | other => .ok (.str other.compact)
  | .integer => toInteger value
  | .decimal => toDecimal value
  | .boolean => toBoolean value
  | .date => (toDate value).map fun d => .str d.render
  | .datetime => (instant .datetime value).map fun i => .str i.render

mutual

def value (type : ParameterType) : Json → Except ConversionError Json
  | .null => .ok .null
  | .arr items =>
    if type == .json then .ok (.arr items) else (values type items).map .arr
  | other => scalar other type

def values (type : ParameterType) : List Json → Except ConversionError (List Json)
  | [] => .ok []
  | v :: rest =>
    match value type v with
    | .error e => .error e
    | .ok w =>
      match values type rest with
      | .error e => .error e
      | .ok ws => .ok (w :: ws)

end

/-- Parameter names with their declared types, in the order of the names. -/
abbrev Schema := List (String × ParameterType)

/-- Converts the declared fields one after the other; the first failure names its field. -/
def fields : Schema → Row → Except (String × ConversionError) Row
  | [], row => .ok row
  | (name, type) :: rest, row =>
    match row.get? name with
    | none => fields rest row
    | some v =>
      match value type v with
      | .error e => .error (name, e)
      | .ok w => fields rest (row.put name w)

/-- Criteria that are no object pass as they are. -/
def criteria (schema : Schema) : Json → Except (String × ConversionError) Json
  | .obj row => (fields schema row).map .obj
  | other => .ok other

end Convert

end QueryCatalog
