import QueryCatalog.Template.Segment
import QueryCatalog.Template.Expr

/-!
Templates as trees. The segments are read in order with the open blocks on a stack; each tag either
opens a block, belongs to the innermost open one, or is an error.
-/
namespace QueryCatalog.Template

inductive Node where
  | text (text : String)
  | output (expr : Expr)
  | branch (branches : List (Expr × List Node)) (otherwise : List Node)
  | loop (name : String) (iterable : Expr) (body : List Node)
  deriving Inhabited

/-- An open block. Its body so far is kept beside the stack. -/
inductive Frame where
  | branch (done : List (Expr × List Node)) (condition : Expr)
  | otherwise (branches : List (Expr × List Node))
  | loop (name : String) (iterable : Expr)

/-- The nodes of the innermost block, and the open blocks with the nodes before each. -/
structure Builder where
  body : List Node
  frames : List (List Node × Frame)

/-- The first word of a tag and the rest of it. -/
def splitKeyword (tag : String) : String × String :=
  let cs := tag.toList
  (String.ofList (cs.takeWhile (!Text.isBlank ·)),
    String.ofList (Text.trimChars (cs.dropWhile (!Text.isBlank ·))))

/-- The text before and after the first occurrence of a separator. -/
def cutAt (separator : List Char) (before : List Char) : List Char → Option (List Char × List Char)
  | [] => if separator.isEmpty then some (before.reverse, []) else none
  | c :: rest =>
    if separator.isPrefixOf (c :: rest) then
      some (before.reverse, (c :: rest).drop separator.length)
    else cutAt separator (c :: before) rest

/-- The variable of a loop header and the source of what it runs over. -/
def loopHeader? (header : String) : Option (String × String) :=
  match cutAt " in ".toList [] header.toList with
  | some (name, iterable) =>
    let name := Text.trimChars name
    if !name.isEmpty && name.all Text.isIdentifier then
      some (String.ofList name, String.ofList (Text.trimChars iterable))
    else none
  | none => none

def parseHeader (header : String) : Except TemplateError (String × Expr) :=
  match loopHeader? header with
  | none => .error (.invalidLoop header)
  | some (name, iterable) => (parseExpr iterable).map fun e => (name, e)

namespace Builder

def push (b : Builder) (node : Node) : Builder := { b with body := b.body ++ [node] }

def openFrame (b : Builder) (frame : Frame) : Builder := ⟨[], (b.body, frame) :: b.frames⟩

/-- A tag inside the innermost open block that continues or ends it. -/
def continue? (b : Builder) (keyword rest : String) : Option (Except TemplateError Builder) :=
  match b.frames with
  | (outer, .branch done condition) :: enclosing =>
    let branches := done ++ [(condition, b.body)]
    if keyword == "elif" then
      some ((parseExpr rest).map fun next => ⟨[], (outer, .branch branches next) :: enclosing⟩)
    else if keyword == "else" then some (.ok ⟨[], (outer, .otherwise branches) :: enclosing⟩)
    else if keyword == "endif" then some (.ok ⟨outer ++ [.branch branches []], enclosing⟩)
    else none
  | (outer, .otherwise branches) :: enclosing =>
    if keyword == "endif" then some (.ok ⟨outer ++ [.branch branches b.body], enclosing⟩) else none
  | (outer, .loop name iterable) :: enclosing =>
    if keyword == "endfor" then some (.ok ⟨outer ++ [.loop name iterable b.body], enclosing⟩)
    else none
  | [] => none

def tag (b : Builder) (tag : String) : Except TemplateError Builder :=
  let (keyword, rest) := splitKeyword tag
  match b.continue? keyword rest with
  | some result => result
  | none =>
    if keyword == "if" then (parseExpr rest).map fun c => b.openFrame (.branch [] c)
    else if keyword == "for" then
      (parseHeader rest).map fun (name, iterable) => b.openFrame (.loop name iterable)
    else .error (.unexpectedTag tag)

def step (b : Builder) : Segment → Except TemplateError Builder
  | .text text => .ok (b.push (.text text))
  | .output source => (parseExpr source).map fun e => b.push (.output e)
  | .tag source => b.tag source

def run (b : Builder) : List Segment → Except TemplateError Builder
  | [] => .ok b
  | s :: rest =>
    match b.step s with
    | .error e => .error e
    | .ok next => next.run rest

def finish (b : Builder) : Except TemplateError (List Node) :=
  match b.frames with
  | [] => .ok b.body
  | (_, .loop _ _) :: _ => .error .missingEndFor
  | _ :: _ => .error .missingEndIf

end Builder

def ofSegments (segments : List Segment) : Except TemplateError (List Node) :=
  (Builder.run ⟨[], []⟩ segments).bind Builder.finish

def compile (source : String) : Except TemplateError (List Node) :=
  (split source).bind ofSegments

end QueryCatalog.Template
