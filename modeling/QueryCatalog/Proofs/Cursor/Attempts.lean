import Mathlib.Tactic.Common
import QueryCatalog.Proofs.Cursor.Readings

/-!
The attempts of a cursor at a batch. All of them ask with the same request; each but the last has
failed in a way that lets the cursor try again.
-/
namespace QueryCatalog

/-- A request for a batch and the answer to it. -/
structure Attempt where
  request : Request
  answer : Except QueryError Window

variable {σ : Type}

/-- Notes each attempt after those before it. -/
def WindowReader.tried (read : WindowReader σ) : WindowReader (σ × List Attempt) := fun request s =>
  let (answer, t) := read request s.1
  (answer, t, s.2 ++ [⟨request, answer⟩])

theorem WindowReader.tried_eq {read : WindowReader σ} {r : Request} {s t : σ}
    {answer : Except QueryError Window} (h : read r s = (answer, t)) (log : List Attempt) :
    read.tried r (s, log) = (answer, t, log ++ [⟨r, answer⟩]) := by
  simp only [tried, h]

theorem WindowReader.keeps_of_eq {read : WindowReader σ} {I : σ → Prop}
    (hread : ∀ r s, I s → I (read r s).2) {r : Request} {s t : σ}
    {answer : Except QueryError Window} (h : read r s = (answer, t)) (hs : I s) : I t := by
  have ht := hread r s hs
  rwa [h] at ht

def Attempt.failed (a : Attempt) : Bool :=
  match a.answer with
  | .ok _ => false
  | .error _ => true

/-- It failed in a way that lets the cursor try again. -/
def Attempt.Retriable (o : CursorOptions) (a : Attempt) : Prop :=
  ∃ e, a.answer = .error e ∧ ¬o.abortOn.contains e.kind = true

namespace Cursor

variable {read : WindowReader σ} {o : CursorOptions}

/-- The attempts at a batch with at most so many retries, from a cursor and a state to the outcome
and to what they leave. -/
inductive Tries (read : WindowReader σ) (o : CursorOptions) :
    Nat → Cursor → σ → Except QueryError Unit → Cursor → σ → List Attempt → Prop
  | reads {n : Nat} {c : Cursor} {s t : σ} {w : Window} :
    read c.request s = (.ok w, t) →
    Tries read o n c s (.ok ()) (c.accept o w) t [⟨c.request, .ok w⟩]
  | gives_up {n : Nat} {c : Cursor} {s t : σ} {e : QueryError} :
    read c.request s = (.error e, t) → n = 0 ∨ o.abortOn.contains e.kind = true →
    Tries read o n c s (.error e) c t [⟨c.request, .error e⟩]
  | again {n : Nat} {c c' : Cursor} {s t u : σ} {e : QueryError} {outcome : Except QueryError Unit}
      {rest : List Attempt} :
    read c.request s = (.error e, t) → ¬o.abortOn.contains e.kind = true →
    Tries read o n (c.noteRetry o) t outcome c' u rest →
    Tries read o (n + 1) c s outcome c' u (⟨c.request, .error e⟩ :: rest)

theorem fill_tries (read : WindowReader σ) (o : CursorOptions) (log : List Attempt)
    (retries : Nat) : ∀ (c : Cursor) (s : σ),
    ∃ outcome c' t attempts, fill read o retries c s = (outcome, c', t) ∧
      fill read.tried o retries c (s, log) = (outcome, c', t, log ++ attempts) ∧
      Tries read o retries c s outcome c' t attempts := by
  induction retries generalizing log with
  | zero =>
    intro c s
    rcases hr : read c.request s with ⟨e | w, t⟩
    · have htried := WindowReader.tried_eq hr log
      exact ⟨_, _, _, _, fill_gives_up hr (.inl rfl), fill_gives_up htried (.inl rfl),
        .gives_up hr (.inl rfl)⟩
    · exact ⟨_, _, _, _, fill_ok hr 0, fill_ok (WindowReader.tried_eq hr log) 0, .reads hr⟩
  | succ n ih =>
    intro c s
    rcases hr : read c.request s with ⟨e | w, t⟩
    · have htried := WindowReader.tried_eq hr log
      by_cases habort : o.abortOn.contains e.kind = true
      · exact ⟨_, _, _, _, fill_gives_up hr (.inr habort), fill_gives_up htried (.inr habort),
          .gives_up hr (.inr habort)⟩
      · obtain ⟨outcome, c', u, rest, hfill, hrest, htries⟩ :=
          ih (log ++ [⟨c.request, .error e⟩]) (c.noteRetry o) t
        refine ⟨outcome, c', u, _, (fill_tries_again hr habort n).trans hfill, ?_,
          .again hr habort htries⟩
        rw [fill_tries_again htried habort n, hrest, List.append_assoc, List.singleton_append]
    · exact ⟨_, _, _, _, fill_ok hr (n + 1), fill_ok (WindowReader.tried_eq hr log) (n + 1),
        .reads hr⟩

namespace Tries

variable {n : Nat} {c c' : Cursor} {s t : σ} {outcome : Except QueryError Unit}
  {attempts : List Attempt}

theorem same_request (h : Tries read o n c s outcome c' t attempts) :
    ∀ a ∈ attempts, a.request = c.request := by
  induction h with
  | reads => simp
  | gives_up => simp
  | again _ _ _ ih =>
    intro a ha
    rcases List.mem_cons.mp ha with rfl | hrest
    · rfl
    · exact ih a hrest

theorem length_le (h : Tries read o n c s outcome c' t attempts) : attempts.length ≤ n + 1 := by
  induction h with
  | reads => simp
  | gives_up => simp
  | again _ _ _ ih =>
    rw [List.length_cons]
    exact Nat.succ_le_succ ih

theorem failed_before (h : Tries read o n c s outcome c' t attempts) :
    ∀ before a after, attempts = before ++ a :: after → after ≠ [] → a.Retriable o := by
  induction h with
  | reads | gives_up =>
    intro before a after heq hafter
    have hlength := congrArg List.length heq
    have hpos := List.length_pos_iff.mpr hafter
    simp only [List.length_append, List.length_cons, List.length_nil] at hlength
    omega
  | @again _ _ _ _ _ _ e _ _ _ habort _ ih =>
    intro before a after heq hafter
    cases before with
    | nil =>
      obtain ⟨rfl, -⟩ := List.cons.inj heq
      exact ⟨e, rfl, habort⟩
    | cons b before => exact ih before a after (List.cons.inj heq).2 hafter

/-- A batch has no more failures than there are retries. -/
theorem failures_le (h : Tries read o n c s outcome c' t attempts) :
    c'.failures ≤ c.failures + n := by
  induction h with
  | reads => exact Nat.zero_le _
  | gives_up => exact Nat.le_add_right _ _
  | again _ _ _ ih =>
    simp only [noteRetry] at ih
    omega

/-- Attempts at a batch neither close a cursor nor run its hook. -/
theorem keeps_open (h : Tries read o n c s outcome c' t attempts) :
    c'.closed = c.closed ∧ c'.closings = c.closings := by
  induction h with
  | reads => exact ⟨rfl, rfl⟩
  | gives_up => exact ⟨rfl, rfl⟩
  | again _ _ _ ih => exact ih

/-- A batch fails with its last retry, or with an error that must not be tried again. -/
theorem given_up (h : Tries read o n c s outcome c' t attempts) {e : QueryError}
    (houtcome : outcome = .error e) :
    attempts.map (·.failed) = List.replicate (n + 1) true ∨
      ∃ a ∈ attempts, ∃ e, a.answer = .error e ∧ o.abortOn.contains e.kind = true := by
  induction h with
  | reads => cases houtcome
  | gives_up _ hend =>
    rcases hend with rfl | habort
    · exact .inl rfl
    · exact .inr ⟨_, List.mem_singleton_self _, _, rfl, habort⟩
  | again _ _ _ ih =>
    rcases ih houtcome with hall | ⟨a, ha, e, he, habort⟩
    · exact .inl (by rw [List.map_cons, hall]; rfl)
    · exact .inr ⟨a, List.mem_cons_of_mem _ ha, e, he, habort⟩

variable {I : σ → Prop}

theorem keeps (h : Tries read o n c s outcome c' t attempts)
    (hread : ∀ r s, I s → I (read r s).2) (hs : I s) : I t := by
  induction h with
  | reads hr => exact WindowReader.keeps_of_eq hread hr hs
  | gives_up hr => exact WindowReader.keeps_of_eq hread hr hs
  | again hr _ _ ih => exact ih (WindowReader.keeps_of_eq hread hr hs)

/-- A batch that was read in the end, with the failures on the way. -/
theorem accepted (h : Tries read o n c s outcome c' t attempts)
    (hread : ∀ r s, I s → I (read r s).2) (hs : I s) (houtcome : outcome = .ok ()) :
    ∃ w u, I u ∧ read c.request u = (.ok w, t) ∧ Accepts o c c' w ∧ c'.failures = 0 ∧
      c'.retries = c.retries + attempts.countP (·.failed) := by
  induction h with
  | reads hr => exact ⟨_, _, hs, hr, ⟨rfl, rfl, rfl, rfl⟩, rfl, rfl⟩
  | gives_up => cases houtcome
  | again hr _ _ ih =>
    have ht := WindowReader.keeps_of_eq hread hr hs
    obtain ⟨w, u, hu, hw, haccepts, hfailures, hretries⟩ := ih ht houtcome
    -- a retry changes neither the request nor the buffer
    refine ⟨w, u, hu, hw, ⟨haccepts.request, haccepts.buffer, haccepts.lastBatch,
      haccepts.closed⟩, hfailures, ?_⟩
    rw [hretries, List.countP_cons_of_pos (by rfl)]
    simp only [noteRetry]
    omega

end Tries

/-- The row that a cursor takes out of its buffer; the end of the reading closes it. -/
inductive Takes (o : CursorOptions) (c : Cursor) : CursorItem → Cursor → Prop
  | nothing : c.buffer = [] → Takes o c none c.close
  | stopped {row : Row} {rest : List Row} : c.buffer = row :: rest → o.stop row = true →
    Takes o c none { c with buffer := rest }.close
  | row {row : Row} {rest : List Row} : c.buffer = row :: rest → o.stop row = false →
    Takes o c (some (.ok row)) { c with buffer := rest }

theorem take_takes (c : Cursor) : Takes o c (c.take o).1 (c.take o).2 := by
  unfold take
  cases hbuffer : c.buffer with
  | nil => exact .nothing hbuffer
  | cons row rest =>
    by_cases hstop : o.stop row = true
    · simp only [if_pos hstop]
      exact .stopped hbuffer hstop
    · simp only [if_neg hstop]
      exact .row hbuffer (by simpa using hstop)

/-- What a cursor does to give its next item: the item, the cursor and the state after it, and the
attempts that are made for it. -/
inductive Gives (read : WindowReader σ) (o : CursorOptions) (c : Cursor) (s : σ) :
    CursorItem → Cursor → σ → List Attempt → Prop
  | closed : c.closed = true → Gives read o c s none c s []
  | buffered {item : CursorItem} {c' : Cursor} : c.closed = false → c.buffer ≠ [] →
    Takes o c item c' → Gives read o c s item c' s []
  | finished : c.closed = false → c.buffer = [] → c.lastBatch = true →
    Gives read o c s none c.close s []
  | failed {e : QueryError} {c' : Cursor} {t : σ} {attempts : List Attempt} : c.closed = false →
    c.buffer = [] → c.lastBatch = false →
    Tries read o (o.retryTimes - c.failures) c s (.error e) c' t attempts →
    Gives read o c s (some (.error e)) c'.close t attempts
  | batch {item : CursorItem} {c' c'' : Cursor} {t : σ} {attempts : List Attempt} :
    c.closed = false → c.buffer = [] → c.lastBatch = false →
    Tries read o (o.retryTimes - c.failures) c s (.ok ()) c' t attempts → Takes o c' item c'' →
    Gives read o c s item c'' t attempts

theorem next_gives (read : WindowReader σ) (o : CursorOptions) (c : Cursor) (s : σ)
    (log : List Attempt) : ∃ item c' t attempts, c.next read o s = (item, c', t) ∧
      c.next read.tried o (s, log) = (item, c', t, log ++ attempts) ∧
      Gives read o c s item c' t attempts := by
  unfold next
  by_cases hclosed : c.closed = true
  · refine ⟨none, c, s, [], ?_, ?_, .closed hclosed⟩ <;> simp [hclosed]
  have hopen : c.closed = false := by simpa using hclosed
  rw [if_neg hclosed, if_neg hclosed]
  by_cases hbuffer : c.buffer = []
  · have hempty : c.buffer.isEmpty = true := List.isEmpty_iff.mpr hbuffer
    by_cases hlast : c.lastBatch = true
    · refine ⟨none, c.close, s, [], ?_, ?_, .finished hopen hbuffer hlast⟩ <;>
        simp [hempty, hlast]
    · have hmore : c.lastBatch = false := by simpa using hlast
      obtain ⟨outcome, c', t, attempts, hfill, hlog, htries⟩ :=
        fill_tries read o log (o.retryTimes - c.failures) c s
      simp only [hempty, hmore, hfill, hlog, Bool.not_true, Bool.false_eq_true, if_false]
      cases outcome with
      | error e => exact ⟨_, _, _, _, rfl, rfl, .failed hopen hbuffer hmore htries⟩
      | ok done => exact ⟨_, _, _, _, rfl, rfl, .batch hopen hbuffer hmore htries (take_takes c')⟩
  · have hfull : c.buffer.isEmpty = false := by simpa using hbuffer
    refine ⟨_, _, s, [], ?_, ?_, .buffered hopen hbuffer (take_takes c)⟩ <;> simp [hfull]

/-- A run that gives at most so many items, with the attempts on the way. -/
inductive Collects (read : WindowReader σ) (o : CursorOptions) :
    Nat → Cursor → σ → List (Except QueryError Row) → Cursor → σ → List Attempt → Prop
  | enough {c : Cursor} {s : σ} : Collects read o 0 c s [] c s []
  | ended {n : Nat} {c c' : Cursor} {s t : σ} {attempts : List Attempt} :
    Gives read o c s none c' t attempts → Collects read o (n + 1) c s [] c' t attempts
  | item {n : Nat} {c c' last : Cursor} {s t u : σ} {item : Except QueryError Row}
      {items : List (Except QueryError Row)} {attempts rest : List Attempt} :
    Gives read o c s (some item) c' t attempts → Collects read o n c' t items last u rest →
    Collects read o (n + 1) c s (item :: items) last u (attempts ++ rest)

theorem collect_collects (read : WindowReader σ) (o : CursorOptions) (n : Nat) :
    ∀ (c : Cursor) (s : σ) (log : List Attempt),
    ∃ items last t attempts, collect read o n c s = (items, last, t) ∧
      collect read.tried o n c (s, log) = (items, last, t, log ++ attempts) ∧
      Collects read o n c s items last t attempts := by
  induction n with
  | zero => exact fun c s log => ⟨[], c, s, [], rfl, by rw [collect, List.append_nil], .enough⟩
  | succ n ih =>
    intro c s log
    obtain ⟨item, c', t, attempts, hnext, htried, hgives⟩ := next_gives read o c s log
    cases item with
    | none =>
      refine ⟨[], c', t, attempts, ?_, ?_, .ended hgives⟩
      · rw [collect, hnext]
      · rw [collect, htried]
    | some item =>
      obtain ⟨items, last, u, rest, hrun, hlog, hcollects⟩ := ih c' t (log ++ attempts)
      refine ⟨item :: items, last, u, attempts ++ rest, ?_, ?_, .item hgives hcollects⟩
      · rw [collect, hnext]
        simp only [hrun]
      · rw [collect, htried]
        simp only [hlog, List.append_assoc]

end Cursor

end QueryCatalog
