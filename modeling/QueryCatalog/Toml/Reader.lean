import QueryCatalog.Toml.Document
import QueryCatalog.Json.Reader

/-!
Reading TOML: comments, tables and arrays of tables, dotted and quoted keys, inline tables, arrays,
the four forms of strings, integers in four bases, floats and booleans. Dates are not among the
values. Arrays and inline tables nest less than eighty deep.
-/
namespace QueryCatalog.Toml

abbrev Reader (α : Type) := List Char → Option (α × List Char)

def maxNesting : Nat := 79

def isBlank (c : Char) : Bool := c == ' ' || c == '\t'

def skipBlanks (cs : List Char) : List Char := cs.dropWhile isBlank

/-- Controls other than the tab stand nowhere but in line breaks. -/
def isPrintable (c : Char) : Bool := c == '\t' || (0x20 ≤ c.toNat && c.toNat != 0x7F)

def skipComment (cs : List Char) : List Char :=
  match cs with
  | '#' :: rest => rest.dropWhile isPrintable
  | _ => cs

def newline? : List Char → Option (List Char)
  | '\n' :: rest => some rest
  | '\r' :: '\n' :: rest => some rest
  | _ => none

/-- The end of a line: blanks, a comment, and a line break or the end of the text. -/
def lineEnd? (cs : List Char) : Option (List Char) :=
  match skipComment (skipBlanks cs) with
  | [] => some []
  | rest => newline? rest

/-- Blanks, comments and line breaks between the items of an array. -/
def skipLines : Nat → List Char → List Char
  | 0, cs => cs
  | fuel + 1, cs =>
    let rest := skipComment (skipBlanks cs)
    match newline? rest with
    | some more => skipLines fuel more
    | none => rest

def hexValue? (digits : List Char) : Option Nat :=
  digits.foldlM (fun n c => (Json.hexValue? c).map (n * 16 + ·)) 0

/-- A character by the number of its code point. -/
def scalar? (width : Nat) (cs : List Char) : Option (Char × List Char) :=
  if cs.length < width then none
  else
    (hexValue? (cs.take width)).bind fun n =>
      if n.isValidChar then some (Char.ofNat n, cs.drop width) else none

/-- What an escape stands for, after its backslash. -/
def escape? (cs : List Char) : Option (Char × List Char) :=
  match cs with
  | 'b' :: rest => some (Char.ofNat 8, rest)
  | 't' :: rest => some ('\t', rest)
  | 'n' :: rest => some ('\n', rest)
  | 'f' :: rest => some (Char.ofNat 12, rest)
  | 'r' :: rest => some ('\r', rest)
  | '"' :: rest => some ('"', rest)
  | '\\' :: rest => some ('\\', rest)
  | 'u' :: rest => scalar? 4 rest
  | 'U' :: rest => scalar? 8 rest
  | _ => none

/-- The rest of a string on one line, after its quote. -/
def basicText : Nat → List Char → Reader String
  | 0, _, _ => none
  | fuel + 1, acc, cs =>
    match cs with
    | '"' :: rest => some (String.ofList acc.reverse, rest)
    | '\\' :: rest =>
      match escape? rest with
      | some (c, rest) => basicText fuel (c :: acc) rest
      | none => none
    | c :: rest => if isPrintable c then basicText fuel (c :: acc) rest else none
    | [] => none

def literalText (cs : List Char) : Option (String × List Char) :=
  match cs.dropWhile fun c => c != '\'' && isPrintable c with
  | '\'' :: rest => some (String.ofList (cs.takeWhile fun c => c != '\'' && isPrintable c), rest)
  | _ => none

/-- Up to two quotes may stand directly before the three that close. -/
def closeLong (quote : Char) (acc : List Char) (cs : List Char) : Option (String × List Char) :=
  let run := cs.takeWhile (· == quote)
  if run.length < 3 then none
  else
    let extra := min (run.length - 3) 2
    some (String.ofList (List.replicate extra quote ++ acc).reverse, cs.drop (3 + extra))

/-- A backslash at the end of a line joins what comes after the white space. -/
def joinLines? (cs : List Char) : Option (List Char) :=
  match newline? (skipBlanks cs) with
  | some rest => some (rest.dropWhile fun c => isBlank c || c == '\n' || c == '\r')
  | none => none

def longBasic : Nat → List Char → Reader String
  | 0, _, _ => none
  | fuel + 1, acc, cs =>
    match closeLong '"' acc cs, newline? cs with
    | some done, _ => some done
    | none, some rest => longBasic fuel ('\n' :: acc) rest
    | none, none =>
      match cs with
      | '\\' :: rest =>
        match joinLines? rest with
        | some rest => longBasic fuel acc rest
        | none =>
          match escape? rest with
          | some (c, rest) => longBasic fuel (c :: acc) rest
          | none => none
      | c :: rest => if isPrintable c then longBasic fuel (c :: acc) rest else none
      | [] => none

def longLiteral : Nat → List Char → Reader String
  | 0, _, _ => none
  | fuel + 1, acc, cs =>
    match closeLong '\'' acc cs, newline? cs with
    | some done, _ => some done
    | none, some rest => longLiteral fuel ('\n' :: acc) rest
    | none, none =>
      match cs with
      | c :: rest => if isPrintable c then longLiteral fuel (c :: acc) rest else none
      | [] => none

/-- A line break directly after three opening quotes does not count. -/
def dropNewline (cs : List Char) : List Char := (newline? cs).getD cs

def readString (cs : List Char) : Option (String × List Char) :=
  match cs with
  | '"' :: '"' :: '"' :: rest => longBasic (rest.length + 1) [] (dropNewline rest)
  | '\'' :: '\'' :: '\'' :: rest => longLiteral (rest.length + 1) [] (dropNewline rest)
  | '"' :: rest => basicText (rest.length + 1) [] rest
  | '\'' :: rest => literalText rest
  | _ => none

def isBare (c : Char) : Bool := c.isAlphanum || c == '_' || c == '-'

def simpleKey (cs : List Char) : Option (String × List Char) :=
  match cs with
  | '"' :: rest => basicText (rest.length + 1) [] rest
  | '\'' :: rest => literalText rest
  | _ =>
    let word := cs.takeWhile isBare
    if word.isEmpty then none else some (String.ofList word, cs.dropWhile isBare)

/-- Keys between dots, at least one, and the blanks after them. -/
def dottedKey : Nat → Reader (List String)
  | 0, _ => none
  | fuel + 1, cs =>
    match simpleKey (skipBlanks cs) with
    | none => none
    | some (key, rest) =>
      match skipBlanks rest with
      | '.' :: rest => (dottedKey fuel rest).map fun (keys, rest) => (key :: keys, rest)
      | rest => some ([key], rest)

/-- Digits of a class; single underscores may stand between them. -/
def digits? (isDigit : Char → Bool) (cs : List Char) : Option (List Char) :=
  let rec go (expectDigit : Bool) : List Char → Option (List Char)
    | [] => if expectDigit then none else some []
    | c :: rest =>
      if c == '_' then (if expectDigit then none else go true rest)
      else if isDigit c then (go false rest).map (c :: ·)
      else none
  go true cs

def decimalDigits? (cs : List Char) : Option (List Char) := digits? Char.isDigit cs

/-- Decimal digits of an integer part: no zero before another digit. -/
def wholeDigits? (cs : List Char) : Option (List Char) :=
  (decimalDigits? cs).filter fun ds => ds.head? != some '0' || ds.length == 1

def inRange? (n : Int) : Option Json :=
  if Text.minInt64 ≤ n ∧ n ≤ Text.maxInt64 then some (.int n) else none

def based? (base : Nat) (isDigit : Char → Bool) (cs : List Char) : Option Json :=
  (digits? isDigit cs).bind fun ds =>
    (ds.foldlM (fun n c => (Json.hexValue? c).map (n * base + ·)) 0).bind fun n => inRange? n

/-- The parts of a decimal literal: before the point, after it, and the exponent. -/
def splitLiteral (cs : List Char) : List Char × Option (List Char) × Option (List Char) :=
  let isMark := fun c => c == 'e' || c == 'E'
  let mantissa := cs.takeWhile fun c => !isMark c
  let exponent := match cs.dropWhile fun c => !isMark c with
    | [] => none
    | _ :: rest => some rest
  let whole := mantissa.takeWhile (· != '.')
  let fraction := match mantissa.dropWhile (· != '.') with
    | [] => none
    | _ :: rest => some rest
  (whole, fraction, exponent)

def exponent? (cs : List Char) : Option Int :=
  match cs with
  | '-' :: rest => (decimalDigits? rest).map fun ds => -(Text.digitsValue ds : Int)
  | '+' :: rest => (decimalDigits? rest).map fun ds => (Text.digitsValue ds : Int)
  | _ => (decimalDigits? cs).map fun ds => (Text.digitsValue ds : Int)

/-- A float above the largest one is refused. -/
def finite? (negative : Bool) (x : Float) : Option Json :=
  if !negative && x.isInf then none else some (.float (Decimal.negateIf negative x))

def magnitude? (negative : Bool) (cs : List Char) : Option Json :=
  if cs == "inf".toList then some (.float (Decimal.negateIf negative Decimal.infinity))
  else if cs == "nan".toList then some (.float (0.0 / 0.0))
  else
    let (whole, fraction, exponent) := splitLiteral cs
    match wholeDigits? whole, fraction, exponent with
    | none, _, _ => none
    | some ds, none, none =>
      let n : Int := Text.digitsValue ds
      inRange? (if negative then -n else n)
    | some ds, none, some e =>
      (exponent? e).bind fun e => finite? negative (Decimal.nearest (Text.digitsValue ds) e)
    | some ds, some f, none =>
      (decimalDigits? f).bind fun f =>
        finite? negative (Decimal.nearest (Text.digitsValue (ds ++ f)) (-f.length))
    | some ds, some f, some e =>
      (decimalDigits? f).bind fun f => (exponent? e).bind fun e =>
        finite? negative (Decimal.nearest (Text.digitsValue (ds ++ f)) (e - f.length))

/-- A number, or a word: everything up to the end of the literal. -/
def readScalar (cs : List Char) : Option (Json × List Char) :=
  let isLiteral := fun c => isBare c || c == '+' || c == '.'
  let literal := cs.takeWhile isLiteral
  let value := match literal with
    | '0' :: 'x' :: rest => based? 16 (fun c => (Json.hexValue? c).isSome) rest
    | '0' :: 'o' :: rest => based? 8 (fun c => '0' ≤ c && c ≤ '7') rest
    | '0' :: 'b' :: rest => based? 2 (fun c => c == '0' || c == '1') rest
    | '+' :: rest => magnitude? false rest
    | '-' :: rest => magnitude? true rest
    | _ =>
      if literal == "true".toList then some (.bool true)
      else if literal == "false".toList then some (.bool false)
      else magnitude? false literal
  value.map (·, cs.dropWhile isLiteral)

mutual

def readValue (nesting : Nat) : Nat → Reader Json
  | 0, _ => none
  | fuel + 1, cs =>
    match cs with
    | '[' :: rest =>
      if nesting ≥ maxNesting then none
      else (readItems (nesting + 1) fuel (skipLines rest.length rest)).map fun (items, rest) =>
        (.arr items, rest)
    | '{' :: rest =>
      if nesting ≥ maxNesting then none
      else match skipBlanks rest with
        | '}' :: rest => some (.obj [], rest)
        | rest => (readInline (nesting + 1) [] fuel rest).map fun (entries, rest) =>
            (.obj (Entries.entriesJson entries), rest)
    | '"' :: _ => (readString cs).map fun (s, rest) => (.str s, rest)
    | '\'' :: _ => (readString cs).map fun (s, rest) => (.str s, rest)
    | _ => readScalar cs
termination_by structural fuel => fuel

/-- The items of an array up to its closing bracket; a comma may follow the last one. -/
def readItems (nesting : Nat) : Nat → Reader (List Json)
  | 0, _ => none
  | fuel + 1, cs =>
    match cs with
    | ']' :: rest => some ([], rest)
    | _ =>
      match readValue nesting fuel cs with
      | none => none
      | some (v, rest) =>
        match skipLines rest.length rest with
        | ',' :: rest =>
          (readItems nesting fuel (skipLines rest.length rest)).map fun (vs, rest) =>
            (v :: vs, rest)
        | ']' :: rest => some ([v], rest)
        | _ => none
termination_by structural fuel => fuel

/-- The fields of an inline table up to its closing brace. -/
def readInline (nesting : Nat) (entries : Entries) : Nat → Reader Entries
  | 0, _ => none
  | fuel + 1, cs =>
    match readField nesting fuel cs with
    | none => none
    | some ((key, v), rest) =>
      match entries.assign v key with
      | none => none
      | some entries =>
        match skipBlanks rest with
        | ',' :: rest => readInline nesting entries fuel rest
        | '}' :: rest => some (entries, rest)
        | _ => none
termination_by structural fuel => fuel

def readField (nesting : Nat) : Nat → Reader (List String × Json)
  | 0, _ => none
  | fuel + 1, cs =>
    match dottedKey cs.length cs with
    | some (key, '=' :: rest) =>
      (readValue nesting fuel (skipBlanks rest)).map fun (v, rest) => ((key, v), rest)
    | _ => none
termination_by structural fuel => fuel

end

/-- The document so far, and the header under which its next fields stand. -/
structure Progress where
  root : Entries := []
  header : List String := []

def Progress.openAt (p : Progress) (update : String → Entries → Option Entries)
    (header : List String) : Option Progress :=
  (p.root.atHeader update header).map fun root => { root, header }

/-- Reads what stands on one line up to its end: nothing, a header or a field. -/
def readLine (p : Progress) (cs : List Char) : Option (Progress × List Char) :=
  match cs with
  | '[' :: '[' :: rest =>
    match dottedKey rest.length rest with
    | some (header, ']' :: ']' :: rest) => (p.openAt Entries.openItem header).map (·, rest)
    | _ => none
  | '[' :: rest =>
    match dottedKey rest.length rest with
    | some (header, ']' :: rest) => (p.openAt Entries.openTable header).map (·, rest)
    | _ => none
  | '#' :: _ => some (p, cs)
  | '\n' :: _ => some (p, cs)
  | '\r' :: _ => some (p, cs)
  | [] => some (p, [])
  | _ =>
    match readField 0 (cs.length + 1) cs with
    | some ((key, v), rest) =>
      (p.root.within (Entries.assign v key) p.header).map fun root => ({ p with root }, rest)
    | none => none

def readLines : Nat → Progress → List Char → Option Entries
  | 0, _, _ => none
  | fuel + 1, p, cs =>
    match readLine p (skipBlanks cs) with
    | none => none
    | some (p, rest) =>
      match lineEnd? rest with
      | none => none
      | some [] => some p.root
      | some rest => readLines fuel p rest

/-- A byte order mark may come first. -/
def parse? (text : String) : Option Json :=
  let cs := match text.toList with
    | c :: rest => if c.toNat == 0xFEFF then rest else c :: rest
    | [] => []
  (readLines (cs.length + 1) {} cs).map fun entries => .obj (Entries.entriesJson entries)

end QueryCatalog.Toml
