import QueryCatalog.Text.Scanner
import QueryCatalog.Text.Numeric
import QueryCatalog.Text.Blank
import QueryCatalog.Text.Digits
import QueryCatalog.Text.Visible
import QueryCatalog.Decimal.Notation
import QueryCatalog.Decimal.Reading
import QueryCatalog.Pattern.Parser

/-!
The tokens of template expressions, the ways in which a template can fail, and the scanner that
cuts an expression into tokens.
-/
namespace QueryCatalog.Template

inductive Token where
  | identifier (name : String)
  | integer (value : Int)
  | float (value : Float)
  | string (value : String)
  | true
  | false
  | null
  | and
  | or
  | not
  | in
  | equal
  | notEqual
  | less
  | lessEqual
  | greater
  | greaterEqual
  | plus
  | dot
  | comma
  | leftParen
  | rightParen
  | leftBracket
  | rightBracket

namespace Token

/-- Equality of tokens; floats are compared as numbers. -/
def same : Token → Token → Bool
  | .identifier a, .identifier b => a == b
  | .integer a, .integer b => a == b
  | .float a, .float b => a == b
  | .string a, .string b => a == b
  | a, b => a.ctorIdx == b.ctorIdx

instance : BEq Token := ⟨same⟩

/-- In messages floats are positional from the fourth decimal place up to sixteen digits. -/
def floatLayout : Decimal.Layout := ⟨-4, 16, ".0", "e", 1⟩

def describe : Token → String
  | .identifier name => "Identifier(" ++ Text.quoted name ++ ")"
  | .integer n => "Integer(" ++ toString n ++ ")"
  | .float x => "Float(" ++ (if x.isFinite then Decimal.render x floatLayout else "inf") ++ ")"
  | .string s => "String(" ++ Text.quoted s ++ ")"
  | .true => "True"
  | .false => "False"
  | .null => "Null"
  | .and => "And"
  | .or => "Or"
  | .not => "Not"
  | .in => "In"
  | .equal => "Equal"
  | .notEqual => "NotEqual"
  | .less => "LessThan"
  | .lessEqual => "LessThanEq"
  | .greater => "GreaterThan"
  | .greaterEqual => "GreaterThanEq"
  | .plus => "Plus"
  | .dot => "Dot"
  | .comma => "Comma"
  | .leftParen => "LeftParen"
  | .rightParen => "RightParen"
  | .leftBracket => "LeftBracket"
  | .rightBracket => "RightBracket"

/-- The end of the tokens counts as one in messages. -/
def describe? : Option Token → String
  | some token => token.describe
  | none => "Eof"

end Token

end Template

inductive TemplateError where
  | unclosed (opener : String)
  | unexpectedTag (tag : String)
  | missingEndIf
  | missingEndFor
  | invalidLoop (header : String)
  | unexpectedChar (c : Char)
  | invalidNumber (text : String)
  | openString
  | trailing (token : Template.Token) (source : String)
  | expected (wanted : Template.Token) (found : Option Template.Token)
  | expectedField (found : Option Template.Token)
  | unexpected (found : Option Template.Token)
  | bindArity
  | badPattern (cause : PatternError)
  | unknownFunction (name : String)

def TemplateError.message : TemplateError → String
  | .unclosed opener => s!"Unclosed '{opener}' in template"
  | .unexpectedTag tag => s!"Unexpected tag '{tag}'"
  | .missingEndIf => "Missing '\x7b% endif %\x7d'"
  | .missingEndFor => "Missing '\x7b% endfor %\x7d'"
  | .invalidLoop header => s!"Invalid for loop '{header}'"
  | .unexpectedChar c => s!"Unexpected character: {c}"
  | .invalidNumber text => s!"Invalid number: {text}"
  | .openString => "Unterminated string"
  | .trailing token source => s!"Unexpected token {token.describe} in '{source}'"
  | .expected wanted found =>
    s!"Expected {wanted.describe}, found " ++ Template.Token.describe? found
  | .expectedField found => "Expected field name after '.', found " ++ Template.Token.describe? found
  | .unexpected found => "Unexpected token " ++ Template.Token.describe? found
  | .bindArity => "sp() takes exactly one argument"
  | .badPattern cause => "Invalid regex: " ++ cause.message
  | .unknownFunction name => s!"Unknown function '{name}'"

namespace Template

/-- Where the reading of an expression stands; characters held back are in reverse. -/
inductive LexMode where
  | idle
  | number (held : List Char)
  | numberDot (held : List Char)
  | fraction (held : List Char)
  | string (quote : Char) (held : List Char)
  | stringEscape (quote : Char) (held : List Char)
  | word (held : List Char)
  | operator (first : Char)
  deriving DecidableEq, Repr

abbrev LexStep := Except TemplateError (LexMode × List Token)

def keyword? (word : String) : Option Token :=
  match word with
  | "true" => some .true
  | "false" => some .false
  | "null" => some .null
  | "none" => some .null
  | "and" => some .and
  | "or" => some .or
  | "not" => some .not
  | "in" => some .in
  | _ => none

def wordToken (held : List Char) : Token :=
  let word := String.ofList held.reverse
  (keyword? word).getD (.identifier word)

def integerToken (held : List Char) : Except TemplateError Token :=
  match Text.int64? held.reverse with
  | some n => .ok (.integer n)
  | none => .error (.invalidNumber (String.ofList held.reverse))

def fractionToken (held : List Char) : Except TemplateError Token :=
  match Decimal.float? held.reverse with
  | some x => .ok (.float x)
  | none => .error (.invalidNumber (String.ofList held.reverse))

/-- Operators of two characters, by their first: the second one, their token, and the token of the
first alone. -/
def operator? (first : Char) : Option (Char × Token × Option Token) :=
  match first with
  | '=' => some ('=', .equal, none)
  | '!' => some ('=', .notEqual, some .not)
  | '<' => some ('=', .lessEqual, some .less)
  | '>' => some ('=', .greaterEqual, some .greater)
  | '&' => some ('&', .and, none)
  | '|' => some ('|', .or, none)
  | _ => none

def punctuation? (c : Char) : Option Token :=
  match c with
  | '+' => some .plus
  | '.' => some .dot
  | ',' => some .comma
  | '(' => some .leftParen
  | ')' => some .rightParen
  | '[' => some .leftBracket
  | ']' => some .rightBracket
  | _ => none

/-- Reads a character with nothing held back. -/
def enter (c : Char) : LexStep :=
  if Text.isBlank c then .ok (.idle, [])
  else if c.isDigit then .ok (.number [c], [])
  else if c == '\'' || c == '"' then .ok (.string c [], [])
  else if Text.isAlphabetic c || c == '_' then .ok (.word [c], [])
  else if (operator? c).isSome then .ok (.operator c, [])
  else match punctuation? c with
    | some token => .ok (.idle, [token])
    | none => .error (.unexpectedChar c)

/-- Gives out tokens and goes on with the character that ended them. -/
def release (tokens : List Token) (c : Char) : LexStep :=
  match enter c with
  | .error e => .error e
  | .ok (mode, out) => .ok (mode, tokens ++ out)

def unescape (c : Char) : Char :=
  if c == 'n' then '\n' else if c == 't' then '\t' else c

/-- A first character that no second one follows. -/
def loneOperator (first : Char) : Except TemplateError (List Token) :=
  match operator? first with
  | some (_, _, some token) => .ok [token]
  | _ => .error (.unexpectedChar first)

def lexStep : LexMode → Char → LexStep
  | .idle, c => enter c
  | .number held, c =>
    if c.isDigit then .ok (.number (c :: held), [])
    else if c == '.' then .ok (.numberDot held, [])
    else match integerToken held with
      | .error e => .error e
      | .ok token => release [token] c
  | .numberDot held, c =>
    if c.isDigit then .ok (.fraction (c :: '.' :: held), [])
    else match integerToken held with
      | .error e => .error e
      | .ok token => release [token, .dot] c
  | .fraction held, c =>
    if c.isDigit then .ok (.fraction (c :: held), [])
    else match fractionToken held with
      | .error e => .error e
      | .ok token => release [token] c
  | .string quote held, c =>
    if c == quote then .ok (.idle, [.string (String.ofList held.reverse)])
    else if c == '\\' then .ok (.stringEscape quote held, [])
    else .ok (.string quote (c :: held), [])
  | .stringEscape quote held, c => .ok (.string quote (unescape c :: held), [])
  | .word held, c =>
    if Text.isIdentifier c then .ok (.word (c :: held), []) else release [wordToken held] c
  | .operator first, c =>
    match operator? first with
    | some (second, token, _) =>
      if c == second then .ok (.idle, [token])
      else match loneOperator first with
        | .error e => .error e
        | .ok tokens => release tokens c
    | none => .error (.unexpectedChar first)

def lexFinish : LexMode → Except TemplateError (List Token)
  | .idle => .ok []
  | .number held => (integerToken held).map ([·])
  | .numberDot held => (integerToken held).map ([·, .dot])
  | .fraction held => (fractionToken held).map ([·])
  | .string _ _ => .error .openString
  | .stringEscape _ _ => .error .openString
  | .word held => .ok [wordToken held]
  | .operator first => loneOperator first

def lexer : Scanner LexMode Token TemplateError where
  start := .idle
  step := lexStep
  finish := lexFinish

def tokenize (source : String) : Except TemplateError (List Token) := lexer.scan source.toList

end Template

end QueryCatalog
