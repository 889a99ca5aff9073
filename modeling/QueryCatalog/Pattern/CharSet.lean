import QueryCatalog.Text.Blank
import QueryCatalog.Text.Numeric
import QueryCatalog.Text.Case

/-!
The sets of characters that a search pattern can name.
-/
namespace QueryCatalog.Pattern

inductive CharSet where
  | range (low high : Char)
  | digit
  | blank
  | word
  | any
  | none
  | complement (set : CharSet)
  | union (left right : CharSet)
  | intersection (left right : CharSet)
  /-- The characters that differ from a member in case at most. -/
  | folded (set : CharSet)
  deriving Repr

namespace CharSet

def has : CharSet → Char → Bool
  | .range low high, c => low ≤ c && c ≤ high
  | .digit, c => Text.isDecimalDigit c
  | .blank, c => Text.isBlank c
  | .word, c => Text.isWord c
  | .any, _ => true
  | .none, _ => false
  | .complement set, c => !set.has c
  | .union left right, c => left.has c || right.has c
  | .intersection left right, c => left.has c && right.has c
  | .folded set, c => set.has c || (Text.caseVariants c).any fun d => set.has d

def single (c : Char) : CharSet := .range c c

def ofRanges (ranges : List (Char × Char)) : CharSet :=
  ranges.foldl (fun set r => .union set (.range r.1 r.2)) .none

/-- The named classes of ASCII. -/
def ascii? (name : String) : Option CharSet :=
  (match name with
    | "alnum" => some [('0', '9'), ('A', 'Z'), ('a', 'z')]
    | "alpha" => some [('A', 'Z'), ('a', 'z')]
    | "ascii" => some [('\x00', '\x7f')]
    | "blank" => some [('\t', '\t'), (' ', ' ')]
    | "cntrl" => some [('\x00', '\x1f'), ('\x7f', '\x7f')]
    | "digit" => some [('0', '9')]
    | "graph" => some [('!', '~')]
    | "lower" => some [('a', 'z')]
    | "print" => some [(' ', '~')]
    | "punct" => some [('!', '/'), (':', '@'), ('[', '`'), ('\x7b', '~')]
    | "space" => some [('\t', '\r'), (' ', ' ')]
    | "upper" => some [('A', 'Z')]
    | "word" => some [('0', '9'), ('A', 'Z'), ('_', '_'), ('a', 'z')]
    | "xdigit" => some [('0', '9'), ('A', 'F'), ('a', 'f')]
    | _ => Option.none).map ofRanges

end CharSet

end QueryCatalog.Pattern
