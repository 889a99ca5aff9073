import QueryCatalog.Dictionary
import QueryCatalog.Text.Blank
import QueryCatalog.Text.Numeric

/-!
Environments: variables with their values, read from lines `NAME=value`. Values may be quoted, may
go over several lines inside quotes, and may refer to variables before them. The first value of a
variable stays. Reading ends at the first line that is not well formed.
-/
namespace QueryCatalog

abbrev Environment := Dictionary String

namespace Environment

/-- Where a character stands in its line. -/
inductive Place where
  | plain
  | blank
  | escaped
  | quoted (quote : Char)
  | quotedEscape (quote : Char)
  deriving DecidableEq, Repr

namespace Place

def afterPlain (c : Char) : Place :=
  if c == '\\' then .escaped else if c == '"' || c == '\'' then .quoted c else .plain

/-- The place behind a character. -/
def next (place : Place) (c : Char) : Place :=
  match place with
  | .plain => if Text.isBlank c && c != '\n' && c != '\r' then .blank else afterPlain c
  | .blank => afterPlain c
  | .escaped => .plain
  | .quoted quote =>
    if c == '\\' then .quotedEscape quote else if c == quote then .plain else .quoted quote
  | .quotedEscape quote => .quoted quote

end Place

def dropLine (cs : List Char) : List Char := (cs.dropWhile (· != '\n')).drop 1

/-- A line without the end of line; `reversed` is what stands before it, backwards. -/
def closeLine (reversed : List Char) : List Char :=
  match reversed with
  | '\r' :: rest => rest.reverse
  | _ => reversed.reverse

/-- The next line, none if it is not finished, and what follows it. A `#` after a blank begins a
comment. -/
def readLine (place : Place) (reversed : List Char) : List Char → Option (List Char) × List Char
  | [] => (if place == .plain then some reversed.reverse else none, [])
  | c :: rest =>
    if place == .blank && c == '#' then (some reversed.reverse, dropLine rest)
    else if c == '\n' && place.next c == .plain then (some (closeLine reversed), rest)
    else readLine (place.next c) (c :: reversed) rest

def isComment (cs : List Char) : Bool :=
  (Text.trimStart (cs.takeWhile (· != '\n'))).head? == some '#'

/-- What a reader of values is doing. -/
inductive Mode where
  | text
  | escape
  | ending
  /-- Inside single quotes everything stands for itself. -/
  | literal
  | variable (name : List Char)
  | bracedVariable (name : List Char)
  deriving DecidableEq, Repr

def valueOf (env : Environment) (reversedName : List Char) : List Char :=
  ((env.find? (String.ofList reversedName.reverse)).getD "").toList

/-- Reads a value; `weak` says whether double quotes are open. -/
def readValue (env : Environment) (out : List Char) (weak : Bool) (mode : Mode) :
    List Char → Option (List Char)
  | [] =>
    match mode with
    | .literal => none
    | .bracedVariable _ => none
    | .variable name => if weak then none else some (out ++ valueOf env name)
    | _ => if weak then none else some out
  | c :: rest =>
    match mode with
    | .ending =>
      if c == ' ' || c == '\t' then readValue env out weak .ending rest
      else if c == '#' then (if weak then none else some out)
      else none
    | .escape =>
      if ['\\', '\'', '"', '$', ' '].contains c then readValue env (out ++ [c]) weak .text rest
      else if c == 'n' then readValue env (out ++ ['\n']) weak .text rest
      else none
    | .literal =>
      if c == '\'' then readValue env out weak .text rest
      else readValue env (out ++ [c]) weak .literal rest
    | .variable name =>
      if Text.isAlphanumeric c then readValue env out weak (.variable (c :: name)) rest
      else if c == '\x7b' && name.isEmpty then readValue env out weak (.bracedVariable []) rest
      else if c == '$' then readValue env (out ++ valueOf env name) weak (.variable []) rest
      else readValue env (out ++ valueOf env name ++ [c]) weak .text rest
    | .bracedVariable name =>
      if c == '\x7d' then readValue env (out ++ valueOf env name) weak .text rest
      else readValue env out weak (.bracedVariable (c :: name)) rest
    | .text =>
      if c == '$' then readValue env out weak (.variable []) rest
      else if c == '"' then readValue env out (!weak) .text rest
      else if c == '\\' then readValue env out weak .escape rest
      else if weak then readValue env (out ++ [c]) weak .text rest
      else if c == '\'' then readValue env out weak .literal rest
      else if c == ' ' || c == '\t' then readValue env out weak .ending rest
      else readValue env (out ++ [c]) weak .text rest

def isNameStart (c : Char) : Bool := c.isAlpha || c == '_'

def isNamePart (c : Char) : Bool := c.isAlphanum || c == '_' || c == '.'

/-- A name with the text behind it and behind blanks. -/
def readName (cs : List Char) : Option (List Char × List Char) :=
  match cs with
  | [] => none
  | c :: _ =>
    if isNameStart c then
      some (cs.takeWhile isNamePart, Text.trimStart (cs.dropWhile isNamePart))
    else none

def afterEquals : List Char → Option (List Char)
  | '=' :: rest => some rest
  | _ => none

/-- A name, before which `export` may stand, and what follows the equals sign. -/
def readAssigned (cs : List Char) : Option (List Char × List Char) := do
  let (name, rest) ← readName cs
  match afterEquals rest with
  | some value => return (name, value)
  | none =>
    if name == "export".toList then
      let (name, rest) ← readName rest
      return (name, ← afterEquals rest)
    else none

def isValueless (cs : List Char) : Bool := cs.isEmpty || cs.head? == some '#'

/-- The environment after a line, unless the line is not well formed. -/
def addLine (env : Environment) (line : List Char) : Option Environment := do
  let line := Text.trimStart line
  if isValueless line then return env
  let (name, rest) ← readAssigned line
  let rest := Text.trimStart rest
  let value ← if isValueless rest then some [] else readValue env [] false .text rest
  let name := String.ofList name
  return if env.contains name then env else env.insert name (String.ofList value)

/-- Adds lines as long as they are well formed; each one takes at least a character. -/
def addLines : Nat → Environment → List Char → Environment
  | 0, env, _ => env
  | fuel + 1, env, cs =>
    if cs.isEmpty then env
    else if isComment cs then addLines fuel env (dropLine cs)
    else
      match readLine .plain [] cs with
      | (some line, rest) =>
        match addLine env line with
        | some env => addLines fuel env rest
        | none => env
      | (none, _) => env

/-- The variables of a text, which may begin with a byte order mark. -/
def parse (text : String) : Environment :=
  let cs := match text.toList with
    | '\uFEFF' :: rest => rest
    | cs => cs
  addLines (cs.length + 1) [] cs

end Environment

end QueryCatalog
