import QueryCatalog.Mapping.Descriptor
import QueryCatalog.Settings.Basic
import QueryCatalog.Settings.Environment

/-!
Settings as they are loaded: from a document, from the document and the environment of a
directory, and from variables.
-/
namespace QueryCatalog

namespace StreamSettings

/-- The bound of retry counts, which have 32 bits. -/
def retryBound : Nat := 4294967296

def decode (v : Json) : Option StreamSettings := do
  let field ← Descriptor.fieldsOf .toml ["batch-size", "retry-times", "retry-interval-ms"] v
  let d : StreamSettings := {}
  return {
    batchSize := ← Descriptor.withDefault d.batchSize Descriptor.count (field "batch-size")
    retryTimes :=
      ← Descriptor.withDefault d.retryTimes (Descriptor.countBelow retryBound) (field "retry-times")
    retryInterval :=
      ← Descriptor.withDefault d.retryInterval Descriptor.count (field "retry-interval-ms") }

end StreamSettings

namespace Settings

def decode (v : Json) : Option Settings := do
  let field ← Descriptor.fieldsOf .toml
    ["default-limit", "max-limit", "max-select-size", "size-violation", "default-timeout-secs",
      "stream"] v
  let d : Settings := {}
  return {
    defaultLimit := ← Descriptor.withDefault d.defaultLimit Descriptor.count (field "default-limit")
    maxLimit := ← Descriptor.withDefault d.maxLimit Descriptor.count (field "max-limit")
    maxSelectSize :=
      ← Descriptor.withDefault d.maxSelectSize Descriptor.count (field "max-select-size")
    sizeViolation := ← Descriptor.withDefault d.sizeViolation
      (Descriptor.word .toml SizeViolation.ofName?) (field "size-violation")
    defaultTimeout := ← Descriptor.optional Descriptor.count (field "default-timeout-secs")
    stream := ← Descriptor.withDefault d.stream StreamSettings.decode (field "stream") }

/-- Settings written in a document; what it leaves out has its default. -/
def parse (text : String) : Except SettingsError Settings :=
  match (Toml.parse? text).bind decode with
  | some s => s.check
  | none => .error .malformed

def ofFile (files : Files) (path : String) : Except SettingsError Settings :=
  match files path with
  | .ok text => parse text
  | .error e => .error (.unreadable e)

/-- A variable's value as a number below a bound. -/
def numberOf? (lookup? : String → Option String) (bound : Nat) (name : String) :
    Option Nat :=
  (lookup? name).bind fun v => Text.natBelow? bound (Text.trimChars v.toList)

/-- Replaces what variables say; one that cannot be read is passed over. -/
def withVariables (s : Settings) (lookup? : String → Option String) : Settings :=
  let number := numberOf? lookup?
  let policy? := (lookup? "NAMEDQL_SIZE_VIOLATION").bind fun v => (SizeViolation.parse v).toOption
  { defaultLimit := (number Text.wordBound "NAMEDQL_DEFAULT_LIMIT").getD s.defaultLimit
    maxLimit := (number Text.wordBound "NAMEDQL_MAX_LIMIT").getD s.maxLimit
    maxSelectSize := (number Text.wordBound "NAMEDQL_MAX_SELECT_SIZE").getD s.maxSelectSize
    sizeViolation := policy?.getD s.sizeViolation
    defaultTimeout := (number Text.wordBound "NAMEDQL_TIMEOUT_SECS").or s.defaultTimeout
    stream := {
      batchSize := (number Text.wordBound "NAMEDQL_STREAM_BATCH_SIZE").getD s.stream.batchSize
      retryTimes := (number StreamSettings.retryBound "NAMEDQL_STREAM_RETRY_TIMES").getD
        s.stream.retryTimes
      retryInterval := (number Text.wordBound "NAMEDQL_STREAM_RETRY_INTERVAL_MS").getD
        s.stream.retryInterval } }

def fileName : String := "namedql.toml"

def environmentFileName : String := ".env"

def environmentOf (files : Files) : Environment :=
  match files environmentFileName with
  | .ok text => Environment.parse text
  | .error _ => []

/-- The settings of a directory: its document if there is one, replaced by its environment. -/
def load (files : Files) : Except SettingsError Settings := do
  let s ← if files.found fileName then ofFile files fileName else .ok {}
  (s.withVariables (environmentOf files).find?).check

end Settings

end QueryCatalog
