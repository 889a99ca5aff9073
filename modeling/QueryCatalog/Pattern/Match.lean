import QueryCatalog.Pattern.CharSet

/-!
Search patterns and what they match. A match is searched anywhere in the text, and only whether
there is one is asked, so greedy and lazy repetition mean the same.
-/
namespace QueryCatalog

namespace Pattern

inductive Assertion where
  | textStart
  | textEnd
  | lineStart
  | lineEnd
  | wordEdge
  | notWordEdge
  | wordStart
  | wordEnd
  deriving DecidableEq, Repr

/-- A place in the text: the character before it and the text after it. -/
structure Cursor where
  before : Option Char
  rest : List Char
  deriving DecidableEq, Repr

def Assertion.holds (a : Assertion) (c : Cursor) : Bool :=
  let wordBefore := (c.before.map Text.isWord).getD false
  let wordAfter := (c.rest.head?.map Text.isWord).getD false
  match a with
  | .textStart => c.before.isNone
  | .textEnd => c.rest.isEmpty
  | .lineStart => c.before.isNone || c.before == some '\n'
  | .lineEnd => c.rest.isEmpty || c.rest.head? == some '\n'
  | .wordEdge => wordBefore != wordAfter
  | .notWordEdge => wordBefore == wordAfter
  | .wordStart => !wordBefore && wordAfter
  | .wordEnd => wordBefore && !wordAfter

end Pattern

inductive Pattern where
  | empty
  | set (chars : Pattern.CharSet)
  | assertion (a : Pattern.Assertion)
  | concat (first second : Pattern)
  | either (left right : Pattern)
  | repeated (body : Pattern) (least : Nat) (most : Option Nat)
  deriving Repr

namespace Pattern

def insertNew (cursors : List Cursor) (c : Cursor) : List Cursor :=
  if cursors.any (·.rest.length == c.rest.length) then cursors else c :: cursors

/-- Joins two lists of places in one text; a place is known by what is left after it. -/
def merge (a b : List Cursor) : List Cursor := b.foldl insertNew a

/-- Exactly `n` rounds from each of the places. -/
def rounds (go : Cursor → List Cursor) : Nat → List Cursor → List Cursor
  | 0, cursors => cursors
  | n + 1, cursors =>
    if cursors.isEmpty then []
    else rounds go n (merge [] (cursors.flatMap go))

/-- Up to `n` further rounds; `seen` holds the places reached so far. -/
def reach (go : Cursor → List Cursor) : Nat → List Cursor → List Cursor → List Cursor
  | 0, seen, _ => seen
  | n + 1, seen, frontier =>
    let fresh := (merge [] (frontier.flatMap go)).filter fun c =>
      !seen.any (·.rest.length == c.rest.length)
    if fresh.isEmpty then seen else reach go n (merge seen fresh) fresh

/-- The places where a match that begins at the cursor can end. -/
def ends : Pattern → Cursor → List Cursor
  | .empty, c => [c]
  | .set chars, c =>
    match c.rest with
    | [] => []
    | d :: rest => if chars.has d then [⟨some d, rest⟩] else []
  | .assertion a, c => if a.holds c then [c] else []
  | .concat first second, c => merge [] ((ends first c).flatMap (ends second))
  | .either left right, c => merge (ends left c) (ends right c)
  | .repeated body least most, c =>
    let start := rounds (ends body) least [c]
    let more := match most with
      | some m => min (m - least) (c.rest.length + 1)
      | none => c.rest.length + 1
    reach (ends body) more start start

def isMatchFrom (p : Pattern) (before : Option Char) : List Char → Bool
  | [] => !(ends p ⟨before, []⟩).isEmpty
  | c :: rest => !(ends p ⟨before, c :: rest⟩).isEmpty || isMatchFrom p (some c) rest

/-- Whether the pattern matches somewhere in the text. -/
def isMatch (p : Pattern) (text : String) : Bool := isMatchFrom p none text.toList

end Pattern

end QueryCatalog
