import QueryCatalog.Calendar.Date

/-!
Instants in UTC to the millisecond. The second of a minute may be 60, a leap second, which moving
between offsets leaves alone because offsets are whole minutes.
-/
namespace QueryCatalog.Calendar

structure Instant where
  /-- Minutes since 1970-01-01T00:00Z. -/
  minute : Int
  second : Nat
  milli : Nat
  deriving DecidableEq, Repr

namespace Instant

def atTime (d : Date) (hour minute second milli : Nat) : Instant :=
  ⟨d.dayNumber * 1440 + hour * 60 + minute, second, milli⟩

def date (i : Instant) : Date := .ofDayNumber (i.minute / 1440)

def render (i : Instant) : String :=
  let time := (i.minute % 1440).toNat
  i.date.render ++ "T" ++ padded 2 (time / 60) ++ ":" ++ padded 2 (time % 60) ++ ":" ++
    padded 2 i.second ++ "." ++ padded 3 i.milli ++ "Z"

def minMillis : Int := -8334601228800000

def maxMillis : Int := 8210266876799999

/-- Milliseconds since 1970. -/
def ofMillis? (n : Int) : Option Instant :=
  if minMillis ≤ n ∧ n ≤ maxMillis then
    some ⟨n / 60000, (n % 60000 / 1000).toNat, (n % 1000).toNat⟩
  else none

def validTime (hour minute second : Nat) : Bool := hour < 24 && minute < 60 && second ≤ 60

/-- Exactly `width` digits. -/
def readExact (width : Nat) (cs : List Char) : Option (Nat × List Char) :=
  let digits := cs.take width
  if digits.length == width && digits.all Char.isDigit then
    some (Text.digitsValue digits, cs.drop width)
  else none

/-- Up to nine digits count, of which the first three are kept; more are passed over. -/
def readFraction (cs : List Char) : Option (Nat × List Char) :=
  match cs with
  | '.' :: rest =>
    let digits := rest.takeWhile Char.isDigit
    if digits.isEmpty then none
    else
      let milli := (digits ++ ['0', '0']).take 3
      some (Text.digitsValue milli, rest.drop digits.length)
  | _ => some (0, cs)

/-- Hours and minutes as minutes, less than a day. -/
def readSpan (cs : List Char) : Option (Nat × List Char) := do
  let (hours, cs) ← readExact 2 cs
  let cs ← readChar ':' cs
  let (minutes, cs) ← readExact 2 cs
  if hours < 24 && minutes < 60 then some (hours * 60 + minutes, cs) else none

/-- An offset from UTC in minutes: `Z`, or a sign with hours and minutes. -/
def readOffset (cs : List Char) : Option (Int × List Char) :=
  match cs with
  | 'Z' :: rest => some (0, rest)
  | 'z' :: rest => some (0, rest)
  | '+' :: rest => (readSpan rest).map fun (n, rest) => ((n : Int), rest)
  | '-' :: rest => (readSpan rest).map fun (n, rest) => (-(n : Int), rest)
  | '−' :: rest => (readSpan rest).map fun (n, rest) => (-(n : Int), rest)
  | _ => none

def readSeparator : List Char → Option (List Char)
  | c :: rest => if c == 'T' || c == 't' || c == ' ' then some rest else none
  | [] => none

/-- The notation of RFC 3339: fields of fixed width and an offset. -/
def ofInternet? (cs : List Char) : Option Instant := do
  let (year, cs) ← readExact 4 cs
  let cs ← readChar '-' cs
  let (month, cs) ← readExact 2 cs
  let cs ← readChar '-' cs
  let (day, cs) ← readExact 2 cs
  let cs ← readSeparator cs
  let (hour, cs) ← readExact 2 cs
  let cs ← readChar ':' cs
  let (minute, cs) ← readExact 2 cs
  let cs ← readChar ':' cs
  let (second, cs) ← readExact 2 cs
  let (milli, cs) ← readFraction cs
  let (offset, cs) ← readOffset cs
  let date : Date := ⟨year, month, day⟩
  if cs.isEmpty && date.valid && validTime hour minute second then
    let stated := atTime date hour minute second milli
    some { stated with minute := stated.minute - offset }
  else none

/-- A date and a time in UTC with any blanks, or none, between them. -/
def ofPlain? (cs : List Char) : Option Instant := do
  let (date, cs) ← readDate cs
  let (hour, cs) ← readField cs
  let cs ← readChar ':' cs
  let (minute, cs) ← readField cs
  let cs ← readChar ':' cs
  let (second, cs) ← readField cs
  if cs.isEmpty && validTime hour minute second then
    some (atTime date hour minute second 0)
  else none

/-- RFC 3339, else date and time in UTC, else a date, which stands for its midnight. -/
def parse? (cs : List Char) : Option Instant :=
  (ofInternet? cs).orElse fun _ =>
    (ofPlain? cs).orElse fun _ => (Date.parse? cs).map fun d => atTime d 0 0 0 0

end Instant

end QueryCatalog.Calendar
