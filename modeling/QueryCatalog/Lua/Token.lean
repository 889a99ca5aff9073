import QueryCatalog.Lua.Numeral

/-!
The tokens of a Lua chunk. Texts are byte strings, since an escape may write any byte.
-/
namespace QueryCatalog.Lua

inductive Token where
  | name (text : String)
  /-- A reserved word, an operator or a bracket. -/
  | symbol (text : String)
  | number (value : Numeral)
  | text (bytes : ByteArray)

namespace Token

def reserved : List String :=
  ["and", "break", "do", "else", "elseif", "end", "false", "for", "function", "goto", "if", "in",
    "local", "nil", "not", "or", "repeat", "return", "then", "true", "until", "while"]

/-- Longer symbols come before those they begin with. -/
def symbols : List String :=
  ["...", "..", "==", "~=", "<=", ">=", "//", "+", "-", "*", "/", "%", "^", "#", "<", ">", "=", "(",
    ")", "\x7b", "\x7d", "[", "]", ";", ":", ",", "."]

def isNameStart (c : Char) : Bool := c.isAlpha || c == '_'

def isNamePart (c : Char) : Bool := c.isAlphanum || c == '_'

def isNewline (c : Char) : Bool := c == '\n' || c == '\r'

/-- A line break of two characters counts as one. -/
def dropNewline : List Char → List Char
  | '\r' :: '\n' :: rest => rest
  | '\n' :: '\r' :: rest => rest
  | _ :: rest => rest
  | [] => []

/-- The level of a long bracket, after its first bracket. -/
def longOpening? (cs : List Char) : Option (Nat × List Char) :=
  let level := (cs.takeWhile (· == '=')).length
  match cs.drop level with
  | '[' :: rest => some (level, rest)
  | _ => none

def closing (level : Nat) : List Char := ']' :: List.replicate level '=' ++ [']']

/-- The content of a long bracket and what follows it; line breaks become single newlines. -/
def longContent? (level : Nat) : Nat → List Char → List Char → Option (List Char × List Char)
  | 0, _, _ => none
  | fuel + 1, acc, cs =>
    if (closing level).isPrefixOf cs then some (acc.reverse, cs.drop (level + 2))
    else match cs with
      | [] => none
      | c :: rest =>
        if isNewline c then longContent? level fuel ('\n' :: acc) (dropNewline cs)
        else longContent? level fuel (c :: acc) rest

/-- A first line break in a long bracket does not count. -/
def longBracket? (level : Nat) (cs : List Char) : Option (List Char × List Char) :=
  let cs := match cs with
    | c :: _ => if isNewline c then dropNewline cs else cs
    | [] => cs
  longContent? level (cs.length + 1) [] cs

def simpleEscape? : Char → Option UInt8
  | 'a' => some 7
  | 'b' => some 8
  | 'f' => some 12
  | 'n' => some 10
  | 'r' => some 13
  | 't' => some 9
  | 'v' => some 11
  | '\\' => some 92
  | '"' => some 34
  | '\'' => some 39
  | _ => none

/-- The last bytes of a character, six bits in each. -/
def continuationBytes (n : Nat) : Nat → List UInt8
  | 0 => []
  | k + 1 => UInt8.ofNat (0x80 + n / Nat.pow 64 k % 64) :: continuationBytes n k

/-- A code point below 2^31 in the extended form of UTF-8. -/
def utf8Bytes (n : Nat) : List UInt8 :=
  if n < 0x80 then [UInt8.ofNat n]
  else
    let count := if n < 0x800 then 1 else if n < 0x10000 then 2 else if n < 0x200000 then 3
      else if n < 0x4000000 then 4 else 5
    UInt8.ofNat (256 - Nat.pow 2 (7 - count) + n / Nat.pow 64 count) :: continuationBytes n count

/-- What an escape writes, and the text after it. -/
def escape? (cs : List Char) : Option (List UInt8 × List Char) :=
  match cs with
  | 'x' :: a :: b :: rest => do
    return ([UInt8.ofNat ((← Json.hexValue? a) * 16 + (← Json.hexValue? b))], rest)
  | 'z' :: rest => some ([], rest.dropWhile Numeral.isSpace)
  | 'u' :: '{' :: rest =>
    let digits := rest.takeWhile (Json.hexValue? · |>.isSome)
    match rest.drop digits.length with
    | '}' :: rest =>
      (Numeral.hexDigits? digits).bind fun n =>
        if n < 0x80000000 then some (utf8Bytes n, rest) else none
    | _ => none
  | c :: rest =>
    if c.isDigit then
      let digits := (cs.take 3).takeWhile Char.isDigit
      let n := Text.digitsValue digits
      if n < 256 then some ([UInt8.ofNat n], cs.drop digits.length) else none
    else if isNewline c then some ([10], dropNewline cs)
    else (simpleEscape? c).map fun b => ([b], rest)
  | [] => none

/-- The rest of a text after its opening quote. -/
def quoted? (quote : Char) : Nat → ByteArray → List Char → Option (ByteArray × List Char)
  | 0, _, _ => none
  | fuel + 1, acc, cs =>
    match cs with
    | [] => none
    | c :: rest =>
      if c == quote then some (acc, rest)
      else if isNewline c then none
      else if c == '\\' then
        match escape? rest with
        | some (bytes, rest) => quoted? quote fuel (acc ++ ⟨bytes.toArray⟩) rest
        | none => none
      else quoted? quote fuel (acc ++ (String.singleton c).toUTF8) rest

def isExponentMark (hex : Bool) (c : Char) : Bool :=
  if hex then c == 'p' || c == 'P' else c == 'e' || c == 'E'

/-- The longest run of characters that may belong to a numeral; a sign may follow the mark of an
exponent. -/
def numeralLength (hex : Bool) : List Char → Nat
  | [] => 0
  | c :: rest =>
    if isExponentMark hex c || c == '.' || (Json.hexValue? c).isSome then
      1 + match rest with
        | [] => 0
        | s :: more =>
          if isExponentMark hex c && (s == '+' || s == '-') then 1 + numeralLength hex more
          else numeralLength hex (s :: more)
    else 0

def number? (cs : List Char) : Option (Numeral × List Char) :=
  let length := match cs with
    | '0' :: x :: rest => if x == 'x' || x == 'X' then 2 + numeralLength true rest
      else numeralLength false cs
    | _ => numeralLength false cs
  let rest := cs.drop length
  if (rest.head?.map isNamePart).getD false then none
  else (Numeral.unsigned? (cs.take length)).map (·, rest)

def comment? (cs : List Char) : Option (List Char) :=
  let line := cs.dropWhile fun c => !isNewline c
  match cs with
  | '[' :: rest =>
    match longOpening? rest with
    | some (level, rest) => (longBracket? level rest).map (·.2)
    | none => some line
  | _ => some line

/-- The first token of a text without leading blanks. -/
def next? (cs : List Char) : Option (Token × List Char) :=
  match cs with
  | [] => none
  | c :: rest =>
    if isNameStart c then
      let word := String.ofList (cs.takeWhile isNamePart)
      some (if reserved.contains word then .symbol word else .name word, cs.dropWhile isNamePart)
    else if c.isDigit || (c == '.' && (rest.head?.map Char.isDigit).getD false) then
      (number? cs).map fun (n, rest) => (.number n, rest)
    else if c == '"' || c == '\'' then
      (quoted? c cs.length .empty rest).map fun (bytes, rest) => (.text bytes, rest)
    else
      match (if c == '[' then longOpening? rest else none) with
      | some (level, rest) =>
        (longBracket? level rest).map fun (content, rest) =>
          (.text (String.ofList content).toUTF8, rest)
      | none =>
        (symbols.find? fun s => s.toList.isPrefixOf cs).map fun s =>
          (.symbol s, cs.drop s.length)

def scan? : Nat → List Char → Option (List Token)
  | 0, _ => none
  | fuel + 1, cs =>
    match cs.dropWhile Numeral.isSpace with
    | [] => some []
    | '-' :: '-' :: rest =>
      match comment? rest with
      | some rest => scan? fuel rest
      | none => none
    | cs =>
      match next? cs with
      | some (token, rest) => (scan? fuel rest).map (token :: ·)
      | none => none

end Token

/-- The tokens of a text; every token takes at least one character. -/
def tokenize? (text : String) : Option (List Token) :=
  Token.scan? (text.length + 1) text.toList

end QueryCatalog.Lua
