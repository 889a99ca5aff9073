/-!
The command line: a command, then files and options in any order. An option's value follows it as
the next argument, behind an equals sign, or, for a short option, at once. Each option may be given
once, and after `--` everything is a file.
-/
namespace QueryCatalog

inductive Command where
  | validate (files : List String)
  | list (files : List String)
  | render (files : List String) (query param context : String)
  deriving DecidableEq, Repr

inductive HelpTopic where
  | program
  | validate
  | list
  | render
  deriving DecidableEq, Repr

inductive Invocation where
  | run (command : Command)
  | help (topic : HelpTopic)
  | misuse
  deriving DecidableEq, Repr

namespace Command

structure OptionName where
  short : Option Char := none
  long : String
  deriving DecidableEq, Repr

def queryOption : OptionName := ⟨some 'q', "query"⟩

def paramOption : OptionName := ⟨some 'p', "param"⟩

def contextOption : OptionName := ⟨none, "context"⟩

/-- What an argument is on its own. -/
inductive Argument where
  | file
  | help
  | option (name : OptionName) (value : Option String)
  | unknown
  deriving DecidableEq, Repr

def longArgument (names : List OptionName) (cs : List Char) : Argument :=
  let word := String.ofList (cs.takeWhile (· != '='))
  let value := match cs.dropWhile (· != '=') with
    | _ :: value => some (String.ofList value)
    | [] => none
  match names.find? (·.long == word) with
  | some name => .option name value
  | none => if word == "help" && value.isNone then .help else .unknown

def attachedValue : List Char → Option String
  | [] => none
  | '=' :: value => some (String.ofList value)
  | value => some (String.ofList value)

def argument (names : List OptionName) (text : String) : Argument :=
  match text.toList with
  | '-' :: '-' :: cs => longArgument names cs
  | '-' :: c :: cs =>
    match names.find? (·.short == some c) with
    | some name => .option name (attachedValue cs)
    | none => if c == 'h' then .help else .unknown
  | _ => .file

/-- A single hyphen is a value like any other. -/
def isOptionLike (text : String) : Bool :=
  match text.toList with
  | '-' :: _ :: _ => true
  | _ => false

structure Given where
  files : List String := []
  values : List (OptionName × String) := []

namespace Given

def value? (g : Given) (name : OptionName) : Option String := g.values.lookup name

def add (g : Given) (name : OptionName) (value : String) : Option Given :=
  if (g.value? name).isSome then none else some { g with values := (name, value) :: g.values }

end Given

/-- Why arguments are not taken. -/
inductive Refusal where
  | help
  | misuse
  deriving DecidableEq, Repr

def addValue (g : Given) (name : OptionName) (value : String) : Except Refusal Given :=
  match g.add name value with
  | some g => .ok g
  | none => .error .misuse

/-- A file has a name. -/
def addFile (g : Given) (file : String) : Except Refusal Given :=
  if file.isEmpty then .error .misuse else .ok { g with files := g.files ++ [file] }

def readArguments (names : List OptionName) (g : Given) : List String → Except Refusal Given
  | [] => .ok g
  | text :: rest =>
    if text == "--" then rest.foldlM addFile g
    else
      match argument names text with
      | .file => do readArguments names (← addFile g text) rest
      | .help => .error .help
      | .unknown => .error .misuse
      | .option name (some value) => do readArguments names (← addValue g name value) rest
      | .option name none =>
        match rest with
        | [] => .error .misuse
        | value :: rest =>
          if isOptionLike value then .error .misuse
          else do readArguments names (← addValue g name value) rest

/-- A command's arguments; there must be a file among them. -/
def invocation (names : List OptionName) (topic : HelpTopic) (command : Given → Option Command)
    (args : List String) : Invocation :=
  match readArguments names {} args with
  | .error .help => .help topic
  | .error .misuse => .misuse
  | .ok g =>
    match if g.files.isEmpty then none else command g with
    | some command => .run command
    | none => .misuse

def renderOf (g : Given) : Option Command :=
  (g.value? queryOption).map fun query =>
    .render g.files query ((g.value? paramOption).getD "{}")
      ((g.value? contextOption).getD "null")

def helpTopic? : List String → Option HelpTopic
  | [] => some .program
  | ["validate"] => some .validate
  | ["list"] => some .list
  | ["render"] => some .render
  | _ => none

def isHelp (text : String) : Bool := argument [] text == .help

def parse : List String → Invocation
  | [] => .misuse
  | "validate" :: args => invocation [] .validate (fun g => some (.validate g.files)) args
  | "list" :: args => invocation [] .list (fun g => some (.list g.files)) args
  | "render" :: args => invocation [queryOption, paramOption, contextOption] .render renderOf args
  | "help" :: topics =>
    match helpTopic? topics with
    | some topic => .help topic
    | none => .misuse
  | text :: _ => if isHelp text then .help .program else .misuse

def files : Command → List String
  | .validate files => files
  | .list files => files
  | .render files _ _ _ => files

end Command

end QueryCatalog
