import QueryCatalog.Cursor.Backoff
import QueryCatalog.Engine.Page

/-!
A cursor goes once over all rows of a query and reads them batch by batch. A batch that fails is
read again as often as the options allow; the count of failures starts anew with each batch. A
closed cursor gives nothing more.
-/
namespace QueryCatalog

structure CursorOptions where
  /-- How often a batch is tried again. -/
  retryTimes : Nat := 0
  backoff : Backoff := .fixed 2000
  /-- The kinds of failures that are never tried again. -/
  abortOn : List ErrorKind := []
  /-- Gives the next request from the last row seen; without it the offset moves on. -/
  revise : Option (Request → Row → Request) := none
  /-- The first row that satisfies it ends the reading and is not given. -/
  stop : Row → Bool := fun _ => false

structure Cursor where
  /-- What the next batch is asked with. -/
  request : Request
  buffer : List Row := []
  /-- No rows follow those in the buffer. -/
  lastBatch : Bool := false
  closed : Bool := false
  /-- Failures of the batch that is being read. -/
  failures : Nat := 0
  retries : Nat := 0
  batches : Nat := 0
  /-- All waits before retries. -/
  delays : List Nat := []
  /-- How often the hook for closing has run. -/
  closings : Nat := 0

/-- Reads a window of rows and may change the state of what it reads from. -/
abbrev WindowReader (σ : Type) := Request → σ → Except QueryError Window × σ

/-- The next item of a cursor, none at the end. -/
abbrev CursorItem := Option (Except QueryError Row)

namespace Cursor

/-- Without a limit of its own a request reads batches of the size that is set. -/
def openAt (settings : StreamSettings) (request : Request) : Cursor :=
  { request := { request with limit := some (request.limit.getD settings.batchSize) } }

def close (c : Cursor) : Cursor :=
  if c.closed then c else { c with closed := true, buffer := [], closings := c.closings + 1 }

/-- An empty batch leaves the request as it is. -/
def nextRequest (o : CursorOptions) (request : Request) (rows : List Row) : Request :=
  match rows.getLast?, o.revise with
  | none, _ => request
  | some last, some revise => revise request last
  | some _, none => { request with offset := some (request.offset.getD 0 + rows.length) }

def accept (o : CursorOptions) (c : Cursor) (w : Window) : Cursor :=
  { c with
    request := nextRequest o c.request w.rows
    buffer := c.buffer ++ w.rows
    lastBatch := !w.hasNext
    failures := 0
    batches := c.batches + 1 }

def noteRetry (o : CursorOptions) (c : Cursor) : Cursor :=
  { c with
    failures := c.failures + 1
    retries := c.retries + 1
    delays := c.delays ++ [o.backoff.delay (c.failures + 1)] }

variable {σ : Type} (read : WindowReader σ) (o : CursorOptions)

/-- Reads a batch with at most so many retries. -/
def fill : Nat → Cursor → σ → Except QueryError Unit × Cursor × σ
  | retries, c, s =>
    match read c.request s with
    | (.ok w, s) => (.ok (), c.accept o w, s)
    | (.error e, s) =>
      match retries with
      | 0 => (.error e, c, s)
      | n + 1 => if o.abortOn.contains e.kind then (.error e, c, s) else fill n (c.noteRetry o) s

/-- Takes a row out of the buffer; there being none ends the reading. -/
def take (c : Cursor) : CursorItem × Cursor :=
  match c.buffer with
  | [] => (none, c.close)
  | row :: rest =>
    if o.stop row then (none, { c with buffer := rest }.close)
    else (some (.ok row), { c with buffer := rest })

def next (c : Cursor) (s : σ) : CursorItem × Cursor × σ :=
  if c.closed then (none, c, s)
  else if !c.buffer.isEmpty then
    let (item, c) := c.take o
    (item, c, s)
  else if c.lastBatch then (none, c.close, s)
  else
    match fill read o (o.retryTimes - c.failures) c s with
    | (.error e, c, s) => (some (.error e), c.close, s)
    | (.ok (), c, s) =>
      let (item, c) := c.take o
      (item, c, s)

/-- The items up to the end, but no more than the given number. -/
def collect : Nat → Cursor → σ → List (Except QueryError Row) × Cursor × σ
  | 0, c, s => ([], c, s)
  | n + 1, c, s =>
    match c.next read o s with
    | (none, c, s) => ([], c, s)
    | (some item, c, s) =>
      let (items, c, s) := collect n c s
      (item :: items, c, s)

end Cursor

namespace Engine

variable {σ : Type} (e : Engine σ)

/-- Reads windows of a query's rows. -/
def windows (name : String) : WindowReader (Session σ) := fun request s =>
  (e.forward name request).run.run s

def cursorOptions : CursorOptions :=
  { retryTimes := e.settings.stream.retryTimes
    backoff := .fixed e.settings.stream.retryInterval }

def cursor (request : Request) : Cursor := .openAt e.settings.stream request

end Engine

end QueryCatalog
