import QueryCatalog.Text.Scanner
import QueryCatalog.Text.Numeric
import QueryCatalog.Text.Digits

/-!
Statement text cut into plain characters and placeholders. Nothing is lost: the texts of the
pieces, joined, are the statement. Quoted text, comments, casts and assignments hold no
placeholders.
-/
namespace QueryCatalog

inductive Placeholder where
  | positional
  | indexed (index : Nat)
  | named (name : String)
  deriving DecidableEq, Repr

inductive StatementError where
  | openComment
  | openQuote (quote : Char)
  | namedAmongPositional
  | indexedAmongPositional
  | countMismatch (placeholders arguments : Nat)
  deriving DecidableEq, Repr

def StatementError.message : StatementError → String
  | .openComment => "Unterminated block comment"
  | .openQuote quote => s!"Unterminated quoted text starting with {quote}"
  | .namedAmongPositional => "Statement mixes named and positional placeholders"
  | .indexedAmongPositional => "Statement mixes fixed-index and positional placeholders"
  | .countMismatch placeholders arguments =>
    s!"Statement has {placeholders} placeholders but {arguments} arguments were bound"

namespace Statement

inductive Piece where
  | plain (c : Char)
  | marker (placeholder : Placeholder) (text : List Char)
  deriving DecidableEq, Repr

def Piece.chars : Piece → List Char
  | .plain c => [c]
  | .marker _ text => text

def Piece.placeholder? : Piece → Option Placeholder
  | .plain _ => none
  | .marker p _ => some p

/-- Where the reading of a statement stands. What may turn out to be a placeholder is held back,
the last character first. -/
inductive Mode where
  | code
  | dash
  | slash
  | colon
  | name (held : List Char)
  | question (digits : List Char)
  | lineComment
  | blockComment
  | blockStar
  | quoted (quote : Char)
  | escaped
  | quoteEnd (quote : Char)
  deriving DecidableEq, Repr

def plainChars (cs : List Char) : List Piece := cs.map .plain

def isQuote (c : Char) : Bool := c == '\'' || c == '"' || c == '`'

/-- One dot at the end of a name belongs to the text after it. -/
def namePieces : List Char → List Piece
  | '.' :: held => [.marker (.named (String.ofList held.reverse)) (':' :: held.reverse), .plain '.']
  | held => [.marker (.named (String.ofList held.reverse)) (':' :: held.reverse)]

/-- An index that exceeds 64 bits makes no placeholder. -/
def questionPieces (digits : List Char) : List Piece :=
  let text := '?' :: digits.reverse
  if digits.isEmpty then [.marker .positional text]
  else match Text.word? digits.reverse with
    | some n => [.marker (.indexed n) text]
    | none => plainChars text

/-- Reads a character outside quotes and comments, with nothing held back. -/
def enter (c : Char) : Mode × List Piece :=
  if c == ':' then (.colon, [])
  else if c == '?' then (.question [], [])
  else if c == '-' then (.dash, [.plain c])
  else if c == '/' then (.slash, [.plain c])
  else if isQuote c then (.quoted c, [.plain c])
  else (.code, [.plain c])

/-- Gives out pieces and goes on with the character that ended them. -/
def release (pieces : List Piece) (c : Char) : Mode × List Piece :=
  let (mode, out) := enter c
  (mode, pieces ++ out)

def isNameStart (c : Char) : Bool := Text.isAlphabetic c || c == '_'

def isNamePart (c : Char) : Bool := Text.isIdentifier c || c == '.'

def step : Mode → Char → Mode × List Piece
  | .code, c => enter c
  | .dash, c => if c == '-' then (.lineComment, [.plain c]) else enter c
  | .slash, c => if c == '*' then (.blockComment, [.plain c]) else enter c
  | .colon, c =>
    if c == ':' || c == '=' then (.code, [.plain ':', .plain c])
    else if isNameStart c then (.name [c], [])
    else release [.plain ':'] c
  | .name held, c => if isNamePart c then (.name (c :: held), []) else release (namePieces held) c
  | .question digits, c =>
    if c.isDigit then (.question (c :: digits), []) else release (questionPieces digits) c
  | .lineComment, c => (if c == '\n' then .code else .lineComment, [.plain c])
  | .blockComment, c => (if c == '*' then .blockStar else .blockComment, [.plain c])
  | .blockStar, c =>
    (if c == '/' then .code else if c == '*' then .blockStar else .blockComment, [.plain c])
  | .quoted quote, c =>
    (if c == quote then .quoteEnd quote
      else if c == '\\' && quote == '\'' then .escaped
      else .quoted quote, [.plain c])
  | .escaped, c => (.quoted '\'', [.plain c])
  | .quoteEnd quote, c => if c == quote then (.quoted quote, [.plain c]) else enter c

def finish : Mode → Except StatementError (List Piece)
  | .colon => .ok [.plain ':']
  | .name held => .ok (namePieces held)
  | .question digits => .ok (questionPieces digits)
  | .blockComment => .error .openComment
  | .blockStar => .error .openComment
  | .quoted quote => .error (.openQuote quote)
  | .escaped => .error (.openQuote '\'')
  | .code => .ok []
  | .dash => .ok []
  | .slash => .ok []
  | .lineComment => .ok []
  | .quoteEnd _ => .ok []

def scanner : Scanner Mode Piece StatementError where
  start := .code
  step mode c := .ok (step mode c)
  finish := finish

/-- The pieces of a statement. -/
def pieces (text : List Char) : Except StatementError (List Piece) := scanner.scan text

def parse (statement : String) : Except StatementError (List Piece) := pieces statement.toList

def placeholders (ps : List Piece) : List Placeholder := ps.filterMap Piece.placeholder?

def hasPositional (ps : List Piece) : Bool := (placeholders ps).any (· == .positional)

def hasIndexed (ps : List Piece) : Bool :=
  (placeholders ps).any fun
    | .indexed _ => true
    | _ => false

def hasNamed (ps : List Piece) : Bool :=
  (placeholders ps).any fun
    | .named _ => true
    | _ => false

/-- A placeholder with its text and the range of bytes that it takes. -/
structure Located where
  placeholder : Placeholder
  start : Nat
  stop : Nat
  text : String

def byteSize (cs : List Char) : Nat := cs.foldr (fun c n => c.utf8Size + n) 0

def locate (start : Nat) : List Piece → List Located
  | [] => []
  | .plain c :: rest => locate (start + c.utf8Size) rest
  | .marker p text :: rest =>
    let stop := start + byteSize text
    ⟨p, start, stop, String.ofList text⟩ :: locate stop rest

end Statement

end QueryCatalog
