import QueryCatalog.Pattern.Match
import QueryCatalog.Json.Reader

/-!
Search patterns from text. Groups nest at most 250 deep; looking around and references back to a
group are no part of the notation.
-/
namespace QueryCatalog

inductive PatternError where
  | tooLong
  | unclosedGroup
  | unopenedGroup
  | unclosedClass
  | badRange
  | badEscape
  | nothingToRepeat
  | badCount
  | badGroup
  | tooDeep
  | tooLarge
  deriving DecidableEq, Repr

def PatternError.message : PatternError → String
  | .tooLong => "Pattern too long (max 1000 chars)"
  | .unclosedGroup => "unclosed group"
  | .unopenedGroup => "unopened group"
  | .unclosedClass => "unclosed character class"
  | .badRange => "invalid character class range"
  | .badEscape => "unrecognized escape sequence"
  | .nothingToRepeat => "repetition operator missing expression"
  | .badCount => "invalid repetition count"
  | .badGroup => "unrecognized group or flag"
  | .tooDeep => "groups nested too deeply"
  | .tooLarge => "pattern exceeds the size limit"

namespace Pattern

structure Flags where
  ignoreCase : Bool := false
  multiLine : Bool := false
  dotAll : Bool := false
  verbose : Bool := false
  deriving Repr

abbrev Parser (α : Type) := Except PatternError (α × List Char)

def literal (flags : Flags) (c : Char) : Pattern :=
  .set (if flags.ignoreCase then .folded (.single c) else .single c)

def hexNumber? (cs : List Char) : Option Nat :=
  cs.foldl (fun n c => n.bind fun n => (Json.hexValue? c).map (n * 16 + ·)) (some 0)

def scalar? (cs : List Char) : Option Char :=
  match hexNumber? cs with
  | some n => if n.isValidChar then some (Char.ofNat n) else none
  | none => none

/-- A character by its hexadecimal number: a fixed number of digits, or any in braces. -/
def readHex (width : Nat) : List Char → Parser Char
  | '{' :: rest =>
    let digits := rest.takeWhile (· != '}')
    match scalar? digits, rest.dropWhile (· != '}') with
    | some c, '}' :: rest => if digits.isEmpty then .error .badEscape else .ok (c, rest)
    | _, _ => .error .badEscape
  | cs =>
    match scalar? (cs.take width) with
    | some c => if (cs.take width).length == width then .ok (c, cs.drop width) else .error .badEscape
    | none => .error .badEscape

inductive Escape where
  | char (c : Char)
  | set (s : CharSet)
  | assertion (a : Assertion)

/-- What follows a backslash. -/
def readEscape : List Char → Parser Escape
  | [] => .error .badEscape
  | c :: rest =>
    match c with
    | 'd' => .ok (.set .digit, rest)
    | 'D' => .ok (.set (.complement .digit), rest)
    | 's' => .ok (.set .blank, rest)
    | 'S' => .ok (.set (.complement .blank), rest)
    | 'w' => .ok (.set .word, rest)
    | 'W' => .ok (.set (.complement .word), rest)
    | 'a' => .ok (.char (Char.ofNat 7), rest)
    | 'f' => .ok (.char (Char.ofNat 12), rest)
    | 't' => .ok (.char '\t', rest)
    | 'n' => .ok (.char '\n', rest)
    | 'r' => .ok (.char '\r', rest)
    | 'v' => .ok (.char (Char.ofNat 11), rest)
    | 'A' => .ok (.assertion .textStart, rest)
    | 'z' => .ok (.assertion .textEnd, rest)
    | 'b' => .ok (.assertion .wordEdge, rest)
    | 'B' => .ok (.assertion .notWordEdge, rest)
    | '<' => .ok (.assertion .wordStart, rest)
    | '>' => .ok (.assertion .wordEnd, rest)
    | 'x' => (readHex 2 rest).map fun (c, rest) => (.char c, rest)
    | 'u' => (readHex 4 rest).map fun (c, rest) => (.char c, rest)
    | 'U' => (readHex 8 rest).map fun (c, rest) => (.char c, rest)
    | _ =>
      if c.toNat < 0x80 && !c.isAlphanum then .ok (.char c, rest)
      else .error .badEscape

/-- One end of a range in a class. -/
def readClassItem : List Char → Parser (Except CharSet Char)
  | [] => .error .unclosedClass
  | '\\' :: rest =>
    match readEscape rest with
    | .ok (.char c, rest) => .ok (.ok c, rest)
    | .ok (.set s, rest) => .ok (.error s, rest)
    | .ok (.assertion _, _) => .error .badEscape
    | .error e => .error e
  | c :: rest => .ok (.ok c, rest)

/-- A single character, an escaped set, or a range. -/
def readClassRange (cs : List Char) : Parser CharSet :=
  match readClassItem cs with
  | .error e => .error e
  | .ok (.error s, rest) => .ok (s, rest)
  | .ok (.ok low, rest) =>
    match rest with
    | '-' :: ']' :: _ => .ok (.single low, rest)
    | '-' :: '-' :: _ => .ok (.single low, rest)
    | '-' :: more =>
      match readClassItem more with
      | .error e => .error e
      | .ok (.error _, _) => .error .badRange
      | .ok (.ok high, rest) => if low ≤ high then .ok (.range low high, rest) else .error .badRange
    | _ => .ok (.single low, rest)

/-- A named class after its opening `[:`. -/
def namedClass? (cs : List Char) : Option (CharSet × List Char) :=
  let (negated, cs) := match cs with
    | '^' :: more => (true, more)
    | _ => (false, cs)
  match cs.dropWhile Char.isAlpha with
  | ':' :: ']' :: rest =>
    (CharSet.ascii? (String.ofList (cs.takeWhile Char.isAlpha))).map fun s =>
      (if negated then .complement s else s, rest)
  | _ => none

inductive SetOperator where
  | intersection
  | difference
  | symmetric

def SetOperator.apply : SetOperator → CharSet → CharSet → CharSet
  | .intersection, a, b => .intersection a b
  | .difference, a, b => .intersection a (.complement b)
  | .symmetric, a, b =>
    .union (.intersection a (.complement b)) (.intersection b (.complement a))

def closeClass (flags : Flags) (negated : Bool) (s : CharSet) : CharSet :=
  let s := if flags.ignoreCase then .folded s else s
  if negated then .complement s else s

def combine (left : Option (CharSet × SetOperator)) (items : CharSet) : CharSet :=
  match left with
  | none => items
  | some (s, operator) => operator.apply s items

mutual

/-- The items of a class up to its closing bracket. -/
def readClassItems (flags : Flags) (negated : Bool) :
    Nat → Option (CharSet × SetOperator) → CharSet → List Char → Parser CharSet
  | 0, _, _, _ => .error .unclosedClass
  | fuel + 1, left, items, cs =>
    match cs with
    | [] => .error .unclosedClass
    | ']' :: rest => .ok (closeClass flags negated (combine left items), rest)
    | '&' :: '&' :: rest =>
      readClassItems flags negated fuel (some (combine left items, .intersection)) .none rest
    | '-' :: '-' :: rest =>
      readClassItems flags negated fuel (some (combine left items, .difference)) .none rest
    | '~' :: '~' :: rest =>
      readClassItems flags negated fuel (some (combine left items, .symmetric)) .none rest
    | '[' :: rest =>
      match (match rest with
        | ':' :: more => namedClass? more
        | _ => none) with
      | some (s, rest) => readClassItems flags negated fuel left (.union items s) rest
      | none =>
        match readClass flags fuel rest with
        | .error e => .error e
        | .ok (s, rest) => readClassItems flags negated fuel left (.union items s) rest
    | _ =>
      match readClassRange cs with
      | .error e => .error e
      | .ok (s, rest) => readClassItems flags negated fuel left (.union items s) rest

/-- A class after its opening bracket. A closing bracket, or hyphens, that stand first are members
of it. -/
def readClass (flags : Flags) : Nat → List Char → Parser CharSet
  | 0, _ => .error .unclosedClass
  | fuel + 1, cs =>
    let (negated, cs) := match cs with
      | '^' :: more => (true, more)
      | _ => (false, cs)
    let hyphens := cs.takeWhile (· == '-')
    let cs := cs.dropWhile (· == '-')
    let items : CharSet := if hyphens.isEmpty then .none else .single '-'
    match cs with
    | ']' :: rest =>
      if hyphens.isEmpty then readClassItems flags negated fuel none (.union items (.single ']')) rest
      else readClassItems flags negated fuel none items cs
    | _ => readClassItems flags negated fuel none items cs

end

/-- Flags up to `:` or `)`, which is left standing. -/
def readFlags (value : Bool) (flags : Flags) : List Char → Parser Flags
  | ':' :: rest => .ok (flags, ':' :: rest)
  | ')' :: rest => .ok (flags, ')' :: rest)
  | '-' :: rest => if value then readFlags false flags rest else .error .badGroup
  | 'i' :: rest => readFlags value { flags with ignoreCase := value } rest
  | 'm' :: rest => readFlags value { flags with multiLine := value } rest
  | 's' :: rest => readFlags value { flags with dotAll := value } rest
  | 'x' :: rest => readFlags value { flags with verbose := value } rest
  | 'U' :: rest => readFlags value flags rest
  | 'u' :: rest => readFlags value flags rest
  | 'R' :: rest => readFlags value flags rest
  | _ => .error .badGroup

inductive Opening where
  | group (flags : Flags)
  | setFlags (flags : Flags)

def groupName? (cs : List Char) : Option (List Char) :=
  let name := cs.takeWhile (· != '>')
  match name, cs.dropWhile (· != '>') with
  | first :: more, '>' :: rest =>
    if (Text.isAlphabetic first || first == '_') &&
        more.all (fun c => Text.isIdentifier c || c == '.' || c == '[' || c == ']') then
      some rest
    else none
  | _, _ => none

/-- How a group begins, after its parenthesis. -/
def readOpening (flags : Flags) : List Char → Parser Opening
  | '?' :: 'P' :: '<' :: rest =>
    match groupName? rest with
    | some rest => .ok (.group flags, rest)
    | none => .error .badGroup
  | '?' :: '<' :: rest =>
    match groupName? rest with
    | some rest => .ok (.group flags, rest)
    | none => .error .badGroup
  | '?' :: ')' :: _ => .error .nothingToRepeat
  | '?' :: rest =>
    match readFlags true flags rest with
    | .ok (changed, ':' :: rest) => .ok (.group changed, rest)
    | .ok (changed, _ :: rest) => .ok (.setFlags changed, rest)
    | .ok (_, []) => .error .unclosedGroup
    | .error e => .error e
  | cs => .ok (.group flags, cs)

def countBound : Nat := 4294967296

def readCount (cs : List Char) : Option (Nat × List Char) :=
  let cs := Text.trimStart cs
  let digits := cs.takeWhile Char.isDigit
  if digits.isEmpty || Text.digitsValue digits ≥ countBound then none
  else some (Text.digitsValue digits, Text.trimStart (cs.dropWhile Char.isDigit))

/-- Counts after an opening brace, up to the closing one. -/
def readCounts (cs : List Char) : Parser (Nat × Option Nat) :=
  match readCount cs with
  | none => .error .badCount
  | some (least, '}' :: rest) => .ok ((least, some least), rest)
  | some (least, ',' :: rest) =>
    match Text.trimStart rest with
    | '}' :: rest => .ok ((least, none), rest)
    | _ =>
      match readCount rest with
      | some (most, '}' :: rest) =>
        if least ≤ most then .ok ((least, some most), rest) else .error .badCount
      | _ => .error .badCount
  | some _ => .error .badCount

/-- Repetition is lazy when a question mark follows, which changes nothing here. -/
def skipLazy : List Char → List Char
  | '?' :: rest => rest
  | cs => cs

/-- What has been read of a sequence: finished alternatives, and the items of the last one in
reverse. A flag setting is an item that cannot be repeated. -/
structure Sequence where
  flags : Flags
  done : List Pattern := []
  items : List (Option Pattern) := []

namespace Sequence

def concatItems (items : List (Option Pattern)) : Pattern :=
  items.foldl (fun tail item => match item with
    | some p => .concat p tail
    | none => tail) .empty

def push (s : Sequence) (p : Pattern) : Sequence := { s with items := some p :: s.items }

def nextAlternative (s : Sequence) : Sequence :=
  { s with done := s.done ++ [concatItems s.items], items := [] }

def finish (s : Sequence) : Pattern :=
  s.done.foldr .either (concatItems s.items)

def repeatLast (s : Sequence) (least : Nat) (most : Option Nat) : Except PatternError Sequence :=
  match s.items with
  | some p :: items => .ok { s with items := some (.repeated p least most) :: items }
  | _ => .error .nothingToRepeat

end Sequence

/-- Reads alternatives up to the end or a closing parenthesis, which is left standing. -/
def readSequence (depth : Nat) : Nat → Sequence → List Char → Parser Pattern
  | 0, s, cs => .ok (s.finish, cs)
  | fuel + 1, s, cs =>
    let repetition := fun (least : Nat) (most : Option Nat) (rest : List Char) =>
      match s.repeatLast least most with
      | .error e => .error e
      | .ok s => readSequence depth fuel s (skipLazy rest)
    match cs with
    | [] => .ok (s.finish, [])
    | ')' :: rest => .ok (s.finish, ')' :: rest)
    | '|' :: rest => readSequence depth fuel s.nextAlternative rest
    | '*' :: rest => repetition 0 none rest
    | '+' :: rest => repetition 1 none rest
    | '?' :: rest => repetition 0 (some 1) rest
    | '{' :: rest =>
      match s.items with
      | some _ :: _ =>
        match readCounts rest with
        | .error e => .error e
        | .ok ((least, most), rest) => repetition least most rest
      | _ => .error .nothingToRepeat
    | '(' :: rest =>
      if depth == 0 then .error .tooDeep
      else match readOpening s.flags rest with
        | .error e => .error e
        | .ok (.setFlags flags, rest) =>
          readSequence depth fuel { s with flags := flags, items := none :: s.items } rest
        | .ok (.group flags, rest) =>
          match readSequence (depth - 1) fuel { flags := flags } rest with
          | .error e => .error e
          | .ok (p, ')' :: rest) => readSequence depth fuel (s.push p) rest
          | .ok _ => .error .unclosedGroup
    | '[' :: rest =>
      match readClass s.flags (rest.length + 1) rest with
      | .error e => .error e
      | .ok (chars, rest) => readSequence depth fuel (s.push (.set chars)) rest
    | '^' :: rest =>
      readSequence depth fuel
        (s.push (.assertion (if s.flags.multiLine then .lineStart else .textStart))) rest
    | '$' :: rest =>
      readSequence depth fuel
        (s.push (.assertion (if s.flags.multiLine then .lineEnd else .textEnd))) rest
    | '.' :: rest =>
      readSequence depth fuel
        (s.push (.set (if s.flags.dotAll then .any else .complement (.single '\n')))) rest
    | '\\' :: rest =>
      match readEscape rest with
      | .error e => .error e
      | .ok (.char c, rest) => readSequence depth fuel (s.push (literal s.flags c)) rest
      | .ok (.set chars, rest) => readSequence depth fuel (s.push (.set chars)) rest
      | .ok (.assertion a, rest) => readSequence depth fuel (s.push (.assertion a)) rest
    | c :: rest =>
      if s.flags.verbose && Text.isBlank c then readSequence depth fuel s rest
      else if s.flags.verbose && c == '#' then
        readSequence depth fuel s (rest.dropWhile (· != '\n'))
      else readSequence depth fuel (s.push (literal s.flags c)) rest

/-- The number of single steps when every repetition is written out. -/
def weight : Pattern → Nat
  | .empty => 1
  | .set _ => 1
  | .assertion _ => 1
  | .concat first second => weight first + weight second
  | .either left right => weight left + weight right + 1
  | .repeated body least most => weight body * max 1 (most.getD least) + 1

def maxWeight : Nat := 250000

def maxBytes : Nat := 1000

/-- A pattern of at most a thousand bytes. -/
def parse (text : String) : Except PatternError Pattern :=
  if text.utf8ByteSize > maxBytes then .error .tooLong
  else
    let cs := text.toList
    match readSequence 250 (cs.length + 1) { flags := {} } cs with
    | .error e => .error e
    | .ok (p, []) => if weight p > maxWeight then .error .tooLarge else .ok p
    | .ok _ => .error .unopenedGroup

end Pattern

end QueryCatalog
