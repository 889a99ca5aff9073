import QueryCatalog.Template.Token

/-!
Template source cut at its delimiters: `\{\{ }}` encloses an output, `\{% %}` a tag and `\{# #}` a
comment. A hyphen just inside a delimiter trims the text on that side. The splitting knows nothing
of quotes.
-/
namespace QueryCatalog.Template

inductive Segment where
  | text (text : String)
  | output (source : String)
  | tag (source : String)
  deriving DecidableEq, Repr

inductive Delimiter where
  | output
  | tag
  | comment
  deriving DecidableEq, Repr

/-- The character that makes a brace a delimiter. -/
def Delimiter.char : Delimiter → Char
  | .output => '{'
  | .tag => '%'
  | .comment => '#'

/-- The character that a closing brace completes. -/
def Delimiter.close : Delimiter → Char
  | .output => '}'
  | .tag => '%'
  | .comment => '#'

def Delimiter.opener (d : Delimiter) : String := String.ofList ['{', d.char]

def delimiter? (c : Char) : Option Delimiter :=
  if c == '{' then some .output
  else if c == '%' then some .tag
  else if c == '#' then some .comment
  else none

/-- Where the splitting stands: the text since the last delimiter in reverse, whether that
delimiter trims it, and the body being read, in reverse as well. -/
inductive SplitMode where
  | text (held : List Char) (trim : Bool)
  | brace (held : List Char) (trim : Bool)
  | body (kind : Delimiter) (before : List Char) (trim : Bool) (held : List Char)
  | closing (kind : Delimiter) (before : List Char) (trim : Bool) (held : List Char)
  deriving DecidableEq, Repr

def textSegment (text : List Char) (trimStart trimEnd : Bool) : List Segment :=
  let text := if trimStart then Text.trimStart text else text
  let text := if trimEnd then Text.trimEnd text else text
  if text.isEmpty then [] else [.text (String.ofList text)]

def bodySegment (kind : Delimiter) (body : List Char) : List Segment :=
  let source := String.ofList (Text.trimChars body)
  match kind with
  | .output => [.output source]
  | .tag => [.tag source]
  | .comment => []

/-- A body without its hyphens, and whether it trims the text before it and after it. -/
def cutHyphens (body : List Char) : Bool × List Char × Bool :=
  let (before, body) := match body with
    | '-' :: rest => (true, rest)
    | _ => (false, body)
  if body.getLast? == some '-' then (before, body.dropLast, true) else (before, body, false)

def closeBody (kind : Delimiter) (before : List Char) (trim : Bool) (held : List Char) :
    SplitMode × List Segment :=
  let (trimBefore, body, trimAfter) := cutHyphens held.reverse
  (.text [] trimAfter, textSegment before.reverse trim trimBefore ++ bodySegment kind body)

def splitStep : SplitMode → Char → SplitMode × List Segment
  | .text held trim, c =>
    if c == '{' then (.brace held trim, []) else (.text (c :: held) trim, [])
  | .brace held trim, c =>
    match delimiter? c with
    | some kind => (.body kind held trim [], [])
    | none => (.text (c :: '{' :: held) trim, [])
  | .body kind before trim held, c =>
    if c == kind.close then (.closing kind before trim held, [])
    else (.body kind before trim (c :: held), [])
  | .closing kind before trim held, c =>
    if c == '}' then closeBody kind before trim held
    else if c == kind.close then (.closing kind before trim (kind.close :: held), [])
    else (.body kind before trim (c :: kind.close :: held), [])

def splitFinish : SplitMode → Except TemplateError (List Segment)
  | .text held trim => .ok (textSegment held.reverse trim false)
  | .brace held trim => .ok (textSegment ('{' :: held).reverse trim false)
  | .body kind _ _ _ => .error (.unclosed kind.opener)
  | .closing kind _ _ _ => .error (.unclosed kind.opener)

def splitter : Scanner SplitMode Segment TemplateError where
  start := .text [] false
  step mode c := .ok (splitStep mode c)
  finish := splitFinish

def split (source : String) : Except TemplateError (List Segment) := splitter.scan source.toList

end QueryCatalog.Template
