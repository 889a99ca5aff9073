import QueryCatalog.Files
import QueryCatalog.Mapping.Query

/-!
Settings of the engine: page sizes, the size that a selection may have, timeouts, and how streams
read. Properties of a query take precedence over them.
-/
namespace QueryCatalog

/-- What becomes of a selection with more rows than it may have. -/
inductive SizeViolation where
  | raise
  | truncate
  deriving DecidableEq, Repr

namespace SizeViolation

def name : SizeViolation → String
  | .raise => "raise"
  | .truncate => "truncate"

/-- The words of a settings document. -/
def ofName? (word : String) : Option SizeViolation :=
  [("raise", SizeViolation.raise), ("truncate", .truncate)].lookup word

end SizeViolation

inductive SettingsError where
  | malformed
  | unreadable (error : ReadError)
  | limitNotPositive
  | defaultAboveMaximum (default maximum : Nat)
  | batchNotPositive
  | unknownPolicy (word : String)

def SettingsError.message : SettingsError → String
  | .malformed => "TOML error: the document holds no settings"
  | .unreadable e => "IO error: " ++ e.message
  | .limitNotPositive => "Configuration error: default-limit and max-limit must be positive"
  | .defaultAboveMaximum d m => s!"Configuration error: default-limit {d} exceeds max-limit {m}"
  | .batchNotPositive => "Configuration error: stream batch-size must be positive"
  | .unknownPolicy word => s!"Configuration error: Unknown size violation policy '{word}'"

/-- A policy as people write it: blanks around it and case do not count. -/
def SizeViolation.parse (text : String) : Except SettingsError SizeViolation :=
  match Text.toAsciiLower (Text.trim text) with
  | "raise" => .ok .raise
  | "error" => .ok .raise
  | "truncate" => .ok .truncate
  | other => .error (.unknownPolicy other)

structure StreamSettings where
  batchSize : Nat := 16
  /-- How often a failed batch is tried again. -/
  retryTimes : Nat := 0
  /-- Milliseconds before each retry. -/
  retryInterval : Nat := 2000
  deriving DecidableEq, Repr

structure Settings where
  defaultLimit : Nat := 16
  maxLimit : Nat := 1024
  maxSelectSize : Nat := 128
  sizeViolation : SizeViolation := .raise
  /-- Seconds that a statement may take. -/
  defaultTimeout : Option Nat := none
  stream : StreamSettings := {}
  deriving DecidableEq, Repr

namespace Settings

def check (s : Settings) : Except SettingsError Settings :=
  if s.maxLimit == 0 || s.defaultLimit == 0 then .error .limitNotPositive
  else if s.maxLimit < s.defaultLimit then .error (.defaultAboveMaximum s.defaultLimit s.maxLimit)
  else if s.stream.batchSize == 0 then .error .batchNotPositive
  else .ok s

def maxSelectSizeOf (s : Settings) (q : Query) : Nat :=
  (q.wordProperty? "max-select-size").getD s.maxSelectSize

def maxLimitOf (s : Settings) (q : Query) : Nat := (q.wordProperty? "max-limit").getD s.maxLimit

/-- The size of a page: at least one row and, unless the maximum is zero, no more than that. -/
def limitOf (s : Settings) (q : Query) (requested : Option Nat) : Nat :=
  let limit := (requested.or (q.wordProperty? "limit")).getD s.defaultLimit
  min (max limit 1) (max (s.maxLimitOf q) 1)

def timeoutOf (s : Settings) (q : Query) : Option Nat :=
  (q.wordProperty? "timeout").or s.defaultTimeout

end Settings

end QueryCatalog
