import Mathlib.Tactic.Common
import QueryCatalog.Cursor.Basic

/-!
What a cursor reads on its way. Each request follows from the batch before it, and a cursor reads
on only after a batch that had rows and reported more.
-/
namespace QueryCatalog

/-- A batch that was read, with the request for it. -/
structure Reading where
  request : Request
  window : Window

variable {σ : Type}

/-- Notes each batch after those before it. -/
def WindowReader.noted (read : WindowReader σ) : WindowReader (σ × List Reading) := fun request s =>
  match read request s.1 with
  | (.ok w, t) => (.ok w, t, s.2 ++ [⟨request, w⟩])
  | (.error e, t) => (.error e, t, s.2)

theorem WindowReader.noted_ok {read : WindowReader σ} {r : Request} {w : Window} {s t : σ}
    (h : read r s = (.ok w, t)) (log : List Reading) :
    read.noted r (s, log) = (.ok w, t, log ++ [⟨r, w⟩]) := by
  simp only [noted, h]

theorem WindowReader.noted_error {read : WindowReader σ} {r : Request} {e : QueryError} {s t : σ}
    (h : read r s = (.error e, t)) (log : List Reading) :
    read.noted r (s, log) = (.error e, t, log) := by
  simp only [noted, h]

namespace Cursor

variable {read : WindowReader σ} {o : CursorOptions} {I : σ → Prop}

theorem fill_ok {c : Cursor} {s t : σ} {w : Window} (h : read c.request s = (.ok w, t))
    (retries : Nat) : fill read o retries c s = (.ok (), c.accept o w, t) := by
  unfold fill
  rw [h]

theorem fill_gives_up {c : Cursor} {s t : σ} {e : QueryError}
    (h : read c.request s = (.error e, t)) {retries : Nat}
    (hend : retries = 0 ∨ o.abortOn.contains e.kind = true) :
    fill read o retries c s = (.error e, c, t) := by
  rw [fill.eq_def]
  dsimp only
  rw [h]
  cases retries with
  | zero => rfl
  | succ n =>
    have habort : o.abortOn.contains e.kind = true := by simpa using hend
    exact if_pos habort

theorem fill_tries_again {c : Cursor} {s t : σ} {e : QueryError}
    (h : read c.request s = (.error e, t)) (habort : ¬o.abortOn.contains e.kind = true) (n : Nat) :
    fill read o (n + 1) c s = fill read o n (c.noteRetry o) t := by
  rw [fill.eq_def]
  dsimp only
  rw [h]
  exact if_neg habort

/-- A cursor with a batch in it. -/
structure Accepts (o : CursorOptions) (c c' : Cursor) (w : Window) : Prop where
  request : c'.request = nextRequest o c.request w.rows
  buffer : c'.buffer = c.buffer ++ w.rows
  lastBatch : c'.lastBatch = !w.hasNext
  closed : c'.closed = c.closed

/-- The outcome of reading a batch, and the batch that is noted where it could be read. -/
def Fills (read : WindowReader σ) (o : CursorOptions) (I : σ → Prop) (retries : Nat) (c : Cursor)
    (s : σ) (log : List Reading) : Prop :=
  ∃ answer c' t new, fill read o retries c s = (answer, c', t) ∧
    fill read.noted o retries c (s, log) = (answer, c', t, log ++ new) ∧ I t ∧
    ((∃ e, answer = .error e ∧ new = []) ∨
      ∃ w u, answer = .ok () ∧ new = [⟨c.request, w⟩] ∧ I u ∧
        read c.request u = (.ok w, t) ∧ Accepts o c c' w)

theorem fills_of_ok {c : Cursor} {s t : σ} {w : Window} (h : read c.request s = (.ok w, t))
    (hs : I s) (ht : I t) (retries : Nat) (log : List Reading) : Fills read o I retries c s log :=
  ⟨.ok (), c.accept o w, t, [⟨c.request, w⟩], fill_ok h retries,
    fill_ok (WindowReader.noted_ok h log) retries, ht,
    .inr ⟨w, s, rfl, rfl, hs, h, ⟨rfl, rfl, rfl, rfl⟩⟩⟩

theorem fills_of_giving_up {c : Cursor} {s t : σ} {e : QueryError}
    (h : read c.request s = (.error e, t)) (ht : I t) {retries : Nat}
    (hend : retries = 0 ∨ o.abortOn.contains e.kind = true) (log : List Reading) :
    Fills read o I retries c s log := by
  refine ⟨.error e, c, t, [], fill_gives_up h hend, ?_, ht, .inl ⟨e, rfl, rfl⟩⟩
  rw [List.append_nil]
  exact fill_gives_up (WindowReader.noted_error h log) hend

theorem fills_of_trying_again {c : Cursor} {s t : σ} {e : QueryError}
    (h : read c.request s = (.error e, t)) (habort : ¬o.abortOn.contains e.kind = true) {n : Nat}
    {log : List Reading} (hrest : Fills read o I n (c.noteRetry o) t log) :
    Fills read o I (n + 1) c s log := by
  obtain ⟨answer, c', t', new, hfill, hnoted, ht', hcase⟩ := hrest
  refine ⟨answer, c', t', new, (fill_tries_again h habort n).trans hfill,
    (fill_tries_again (WindowReader.noted_error h log) habort n).trans hnoted, ht', ?_⟩
  -- a retry changes neither the request nor the buffer
  rcases hcase with hfailed | ⟨w, u, hok, hnew, hu, hw, haccepts⟩
  · exact .inl hfailed
  · exact .inr ⟨w, u, hok, hnew, hu, hw,
      ⟨haccepts.request, haccepts.buffer, haccepts.lastBatch, haccepts.closed⟩⟩

/-- A batch is read once, however often it is tried. -/
theorem fill_noted (hread : ∀ r s, I s → I (read r s).2) (log : List Reading) (retries : Nat) :
    ∀ (c : Cursor) (s : σ), I s → Fills read o I retries c s log := by
  induction retries with
  | zero =>
    intro c s hs
    have ht := hread c.request s hs
    rcases hr : read c.request s with ⟨e | w, t⟩
    · rw [hr] at ht
      exact fills_of_giving_up hr ht (.inl rfl) log
    · rw [hr] at ht
      exact fills_of_ok hr hs ht 0 log
  | succ n ih =>
    intro c s hs
    have ht := hread c.request s hs
    rcases hr : read c.request s with ⟨e | w, t⟩
    · rw [hr] at ht
      by_cases habort : o.abortOn.contains e.kind = true
      · exact fills_of_giving_up hr ht (.inr habort) log
      · exact fills_of_trying_again hr habort (ih (c.noteRetry o) t ht)
    · rw [hr] at ht
      exact fills_of_ok hr hs ht (n + 1) log

/-- What a cursor that no row stops does to give its next item: the item, the cursor after it, and
the batches that are read for it. -/
inductive Moves (read : WindowReader σ) (o : CursorOptions) (I : σ → Prop) (c : Cursor) :
    CursorItem → Cursor → List Reading → Prop
  | closed : c.closed = true → Moves read o I c none c []
  | buffered {row : Row} {rest : List Row} : c.closed = false → c.buffer = row :: rest →
    Moves read o I c (some (.ok row)) { c with buffer := rest } []
  | finished : c.closed = false → c.buffer = [] → c.lastBatch = true →
    Moves read o I c none c.close []
  | failed {e : QueryError} {c' : Cursor} : c.closed = false → c'.closed = true →
    Moves read o I c (some (.error e)) c' []
  | empty {w : Window} {u t : σ} {c' : Cursor} : c.closed = false → c.lastBatch = false → I u →
    read c.request u = (.ok w, t) → w.rows = [] → c'.closed = true →
    Moves read o I c none c' [⟨c.request, w⟩]
  | batch {w : Window} {u t : σ} {c' : Cursor} {row : Row} : c.closed = false →
    c.lastBatch = false → I u → read c.request u = (.ok w, t) → w.rows ≠ [] →
    c'.closed = false → c'.request = nextRequest o c.request w.rows → c'.lastBatch = !w.hasNext →
    Moves read o I c (some (.ok row)) c' [⟨c.request, w⟩]

theorem closed_close (c : Cursor) : c.close.closed = true := by
  unfold close
  split_ifs with h
  · exact h
  · rfl

theorem next_moves (hstop : ∀ row, o.stop row = false) (hread : ∀ r s, I s → I (read r s).2)
    (c : Cursor) (s : σ) (log : List Reading) (hs : I s) :
    ∃ item c' t new, c.next read o s = (item, c', t) ∧
      c.next read.noted o (s, log) = (item, c', t, log ++ new) ∧ I t ∧
      Moves read o I c item c' new := by
  unfold next
  by_cases hclosed : c.closed = true
  · refine ⟨none, c, s, [], ?_, ?_, hs, .closed hclosed⟩ <;> simp [hclosed]
  have hopen : c.closed = false := by simpa using hclosed
  rw [if_neg hclosed, if_neg hclosed]
  cases hbuffer : c.buffer with
  | cons row rest =>
    refine ⟨some (.ok row), { c with buffer := rest }, s, [], ?_, ?_, hs,
      .buffered hopen hbuffer⟩ <;> simp [take, hbuffer, hstop]
  | nil =>
    have hnone : ([] : List Row).isEmpty = true := rfl
    by_cases hlast : c.lastBatch = true
    · refine ⟨none, c.close, s, [], ?_, ?_, hs, .finished hopen hbuffer hlast⟩ <;> simp [hlast]
    have hmore : c.lastBatch = false := by simpa using hlast
    obtain ⟨answer, c', t, new, hfill, hnoted, ht, hcase⟩ :=
      fill_noted (o := o) hread log (o.retryTimes - c.failures) c s hs
    simp only [hnone, hmore, hfill, hnoted, Bool.not_true, Bool.false_eq_true, if_false]
    rcases hcase with ⟨e, rfl, rfl⟩ | ⟨w, u, rfl, rfl, hu, hw, haccepts⟩
    · exact ⟨some (.error e), c'.close, t, [], rfl, rfl, ht, .failed hopen (closed_close c')⟩
    have hrows : c'.buffer = w.rows := by rw [haccepts.buffer, hbuffer, List.nil_append]
    cases hw' : w.rows with
    | nil =>
      rw [hw'] at hrows
      refine ⟨none, c'.close, t, [⟨c.request, w⟩], ?_, ?_, ht,
        .empty hopen hmore hu hw hw' (closed_close c')⟩ <;> simp [take, hrows]
    | cons row rest =>
      rw [hw'] at hrows
      refine ⟨some (.ok row), { c' with buffer := rest }, t, [⟨c.request, w⟩], ?_, ?_, ht,
        .batch hopen hmore hu hw (by simp [hw']) (haccepts.closed.trans hopen) haccepts.request
          haccepts.lastBatch⟩ <;> simp [take, hrows, hstop]

/-- Each batch is asked for with the request that the one before it leads to, and one follows only
after rows and the report of more. -/
def Chained (o : CursorOptions) : Request → List Reading → Prop
  | _, [] => True
  | r, x :: rest => x.request = r ∧ (rest ≠ [] → x.window.hasNext = true ∧ x.window.rows ≠ []) ∧
    Chained o (nextRequest o r x.window.rows) rest

/-- The last batch has no rows or reports no more. -/
def Exhausted (readings : List Reading) : Prop :=
  ∃ before x, readings = before ++ [x] ∧ (x.window.hasNext = false ∨ x.window.rows = [])

theorem Exhausted.cons {readings : List Reading} (h : Exhausted readings) (x : Reading) :
    Exhausted (x :: readings) := by
  obtain ⟨before, last, rfl, hlast⟩ := h
  exact ⟨x :: before, last, rfl, hlast⟩

/-- The batches that a cursor reads for at most so many items. -/
structure Collected (read : WindowReader σ) (o : CursorOptions) (I : σ → Prop) (c : Cursor)
    (n : Nat) (items : List (Except QueryError Row)) (readings : List Reading) : Prop where
  chained : Chained o c.request readings
  made : ∀ x ∈ readings, ∃ u t, I u ∧ read x.request u = (.ok x.window, t)
  idle : c.closed = true ∨ c.lastBatch = true → readings = []
  ended : c.closed = false → items.length < n → (∀ item ∈ items, ∃ row, item = .ok row) →
    (readings = [] ∧ c.lastBatch = true) ∨ Exhausted readings

theorem Moves.collected_end {c c' : Cursor} {new : List Reading} (h : Moves read o I c none c' new)
    (n : Nat) : Collected read o I c n [] new := by
  cases h with
  | closed hclosed =>
    refine ⟨trivial, by simp, fun _ => rfl, fun hopen => ?_⟩
    rw [hclosed] at hopen
    cases hopen
  | finished _ _ hlast => exact ⟨trivial, by simp, fun _ => rfl, fun _ _ _ => .inl ⟨rfl, hlast⟩⟩
  | @empty w u t _ hopen hmore hu hw hrows hclosed =>
    refine ⟨⟨rfl, fun h => absurd rfl h, trivial⟩, ?_, ?_,
      fun _ _ _ => .inr ⟨[], _, rfl, .inr hrows⟩⟩
    · intro x hx
      rw [List.mem_singleton.mp hx]
      exact ⟨u, t, hu, hw⟩
    · rw [hopen, hmore]
      rintro (h | h) <;> cases h

theorem Moves.collected_item {c c' : Cursor} {item : Except QueryError Row} {n : Nat}
    {items : List (Except QueryError Row)} {new rest : List Reading}
    (h : Moves read o I c (some item) c' new) (hrest : Collected read o I c' n items rest) :
    Collected read o I c (n + 1) (item :: items) (new ++ rest) := by
  cases h with
  | buffered hopen hbuffer =>
    refine ⟨hrest.chained, hrest.made, hrest.idle, fun _ hlength hok => ?_⟩
    exact hrest.ended hopen (Nat.lt_of_succ_lt_succ hlength)
      fun item hitem => hok item (List.mem_cons_of_mem _ hitem)
  | failed hopen hclosed =>
    have hnone := hrest.idle (.inl hclosed)
    refine ⟨by rw [hnone]; trivial, hrest.made, fun _ => hnone, fun _ _ hok => ?_⟩
    obtain ⟨row, hrow⟩ := hok _ List.mem_cons_self
    cases hrow
  | @batch w u t _ row hopen hmore hu hw hrows hopen' hrequest hlast =>
    refine ⟨⟨rfl, fun hne => ⟨?_, hrows⟩, ?_⟩, ?_, ?_, ?_⟩
    · by_contra hnext
      have hlast' : c'.lastBatch = true := by rw [hlast]; simpa using hnext
      exact hne (hrest.idle (.inr hlast'))
    · rw [← hrequest]
      exact hrest.chained
    · intro x hx
      rcases List.mem_cons.mp hx with rfl | hin
      · exact ⟨u, t, hu, hw⟩
      · exact hrest.made x hin
    · rw [hopen, hmore]
      rintro (h | h) <;> cases h
    · intro _ hlength hok
      refine .inr ?_
      rcases hrest.ended hopen' (Nat.lt_of_succ_lt_succ hlength)
        fun item hitem => hok item (List.mem_cons_of_mem _ hitem) with ⟨hnone, hdone⟩ | hexhausted
      · rw [hlast] at hdone
        rw [hnone]
        exact ⟨[], _, rfl, .inl (by simpa using hdone)⟩
      · exact hexhausted.cons _

/-- A run, and the batches that are noted on the same run. -/
theorem collect_noted (hstop : ∀ row, o.stop row = false) (hread : ∀ r s, I s → I (read r s).2)
    (n : Nat) : ∀ (c : Cursor) (s : σ) (log : List Reading), I s →
      ∃ items c' t readings, collect read o n c s = (items, c', t) ∧
        collect read.noted o n c (s, log) = (items, c', t, log ++ readings) ∧
        Collected read o I c n items readings := by
  induction n with
  | zero =>
    intro c s log _
    refine ⟨[], c, s, [], rfl, ?_, trivial, by simp, fun _ => rfl, fun _ h => absurd h (by simp)⟩
    rw [collect, List.append_nil]
  | succ n ih =>
    intro c s log hs
    obtain ⟨item, c', t, new, hnext, hnoted, ht, hmoves⟩ := next_moves hstop hread c s log hs
    cases item with
    | none =>
      refine ⟨[], c', t, new, ?_, ?_, hmoves.collected_end _⟩
      · rw [collect, hnext]
      · rw [collect, hnoted]
    | some item =>
      obtain ⟨items, last, t', rest, hrun, hrest, hcollected⟩ := ih c' t (log ++ new) ht
      refine ⟨item :: items, last, t', new ++ rest, ?_, ?_, hmoves.collected_item hcollected⟩
      · rw [collect, hnext]
        simp only [hrun]
      · rw [collect, hnoted]
        simp only [hrest, List.append_assoc]

theorem Chained.consecutive {r : Request} {before after : List Reading} {x y : Reading}
    (h : Chained o r (before ++ x :: y :: after)) :
    x.window.hasNext = true ∧ x.window.rows ≠ [] ∧
      y.request = nextRequest o x.request x.window.rows := by
  induction before generalizing r with
  | nil =>
    obtain ⟨hx, hmore, hy, -⟩ := h
    obtain ⟨hnext, hrows⟩ := hmore (by simp)
    exact ⟨hnext, hrows, by rw [hy, hx]⟩
  | cons _ _ ih => exact ih h.2.2

theorem nextRequest_eq (hrevise : o.revise = none) {rows : List Row} (hrows : rows ≠ [])
    (r : Request) :
    nextRequest o r rows = { r with offset := some (r.offset.getD 0 + rows.length) } := by
  unfold nextRequest
  cases hlast : rows.getLast? with
  | none => exact absurd (List.getLast?_eq_none_iff.mp hlast) hrows
  | some last => rw [hrevise]

end Cursor

end QueryCatalog
