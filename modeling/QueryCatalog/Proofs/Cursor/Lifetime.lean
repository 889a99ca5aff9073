import QueryCatalog.Proofs.Cursor.Attempts

/-!
The life of a cursor under any order of its uses: reading on, closing, dropping. Whatever the
answers are, the retries stay within their bound, the cursor closes once, and nothing is read or
given after the end.
-/
namespace QueryCatalog

inductive CursorUse where
  | next
  | close
  /-- The cursor goes out of use, which closes it. -/
  | drop
  deriving DecidableEq, Repr

/-- One use of a cursor: the item and the attempts at a batch that it came to, and the cursor after
it. -/
structure Turn where
  use : CursorUse
  item : CursorItem
  attempts : List Attempt
  after : Cursor

namespace Cursor

variable {σ : Type}

def use (read : WindowReader σ) (o : CursorOptions) (c : Cursor) (s : σ) :
    CursorUse → CursorItem × Cursor × σ
  | .next => c.next read o s
  | .close => (none, c.close, s)
  | .drop => (none, c.close, s)

/-- The items of a row of uses. -/
def items (read : WindowReader σ) (o : CursorOptions) :
    List CursorUse → Cursor → σ → List CursorItem × Cursor × σ
  | [], c, s => ([], c, s)
  | u :: uses, c, s =>
    let (item, c, s) := c.use read o s u
    let (rest, c, s) := items read o uses c s
    (item :: rest, c, s)

/-- The same uses with the attempts that each of them makes. -/
def turns (read : WindowReader σ) (o : CursorOptions) :
    List CursorUse → Cursor → σ → List Turn × Cursor × σ
  | [], c, s => ([], c, s)
  | u :: uses, c, s =>
    let (item, c, s, attempts) := c.use read.tried o (s, []) u
    let (rest, last, s) := turns read o uses c s
    (⟨u, item, attempts, c⟩ :: rest, last, s)

variable {read : WindowReader σ} {o : CursorOptions} {c c' : Cursor}

structure Sound (o : CursorOptions) (c : Cursor) : Prop where
  failures : c.failures ≤ o.retryTimes
  closings : c.closings = if c.closed then 1 else 0
  emptied : c.closed = true → c.buffer = []

theorem sound_openAt (settings : StreamSettings) (request : Request) :
    Sound o (openAt settings request) :=
  ⟨Nat.zero_le _, rfl, fun _ => rfl⟩

theorem close_of_closed (h : c.closed = true) : c.close = c := by
  unfold close
  rw [if_pos h]

theorem Sound.close (h : Sound o c) : Sound o c.close := by
  by_cases hclosed : c.closed = true
  · rw [close_of_closed hclosed]
    exact h
  · have hclosings := h.closings
    rw [if_neg hclosed] at hclosings
    unfold Cursor.close
    rw [if_neg hclosed]
    exact ⟨h.failures, by simp [hclosings], fun _ => rfl⟩

theorem Sound.dropFirst (h : Sound o c) (hopen : c.closed = false) (rest : List Row) :
    Sound o { c with buffer := rest } := by
  refine ⟨h.failures, h.closings, fun hclosed => ?_⟩
  rw [hopen] at hclosed
  cases hclosed

theorem Tries.sound {n : Nat} {s t : σ} {outcome : Except QueryError Unit}
    {attempts : List Attempt} (h : Tries read o n c s outcome c' t attempts) (hc : Sound o c)
    (hopen : c.closed = false) (hn : c.failures + n ≤ o.retryTimes) : Sound o c' := by
  obtain ⟨hsame, hclosings⟩ := h.keeps_open
  refine ⟨Nat.le_trans h.failures_le hn, ?_, fun hclosed => ?_⟩
  · rw [hclosings, hsame]
    exact hc.closings
  · rw [hsame, hopen] at hclosed
    cases hclosed

theorem Takes.sound {item : CursorItem} (h : Takes o c item c') (hc : Sound o c)
    (hopen : c.closed = false) : Sound o c' := by
  cases h with
  | nothing => exact hc.close
  | stopped => exact (hc.dropFirst hopen _).close
  | row => exact hc.dropFirst hopen _

theorem Takes.not_error {e : QueryError} : ¬Takes o c (some (.error e)) c' := by
  intro h
  cases h

theorem Takes.closed_of_none (h : Takes o c none c') : c'.closed = true := by
  cases h with
  | nothing => exact closed_close _
  | stopped => exact closed_close _

namespace Gives

variable {s t : σ} {item : CursorItem} {attempts : List Attempt}

theorem sound (h : Gives read o c s item c' t attempts) (hc : Sound o c) : Sound o c' := by
  have hretries : c.failures + (o.retryTimes - c.failures) ≤ o.retryTimes := by
    have hfailures := hc.failures
    omega
  cases h with
  | closed => exact hc
  | buffered hopen _ htakes => exact htakes.sound hc hopen
  | finished => exact hc.close
  | failed hopen _ _ htries => exact (htries.sound hc hopen hretries).close
  | batch hopen _ _ htries htakes =>
    exact htakes.sound (htries.sound hc hopen hretries) (htries.keeps_open.1.trans hopen)

/-- The attempts for an item are those at one batch. -/
theorem attempts_eq (h : Gives read o c s item c' t attempts) : attempts = [] ∨
    ∃ outcome d, Tries read o (o.retryTimes - c.failures) c s outcome d t attempts := by
  cases h with
  | closed => exact .inl rfl
  | buffered => exact .inl rfl
  | finished => exact .inl rfl
  | failed _ _ _ htries => exact .inr ⟨_, _, htries⟩
  | batch _ _ _ htries _ => exact .inr ⟨_, _, htries⟩

theorem idle (h : Gives read o c s item c' t attempts) (hclosed : c.closed = true) :
    item = none ∧ attempts = [] ∧ c' = c := by
  cases h with
  | closed => exact ⟨rfl, rfl, rfl⟩
  | buffered hopen | finished hopen | failed hopen | batch hopen =>
    rw [hclosed] at hopen
    cases hopen

/-- Only a row leaves the cursor open. -/
theorem ends (h : Gives read o c s item c' t attempts) (hitem : ∀ row, item ≠ some (.ok row)) :
    c'.closed = true := by
  cases h with
  | closed hclosed => exact hclosed
  | finished => exact closed_close _
  | failed => exact closed_close _
  | buffered _ _ htakes | batch _ _ _ _ htakes =>
    rcases item with _ | e | row
    · exact htakes.closed_of_none
    · exact absurd htakes Takes.not_error
    · exact absurd rfl (hitem row)

end Gives

end Cursor

/-- The attempts of a turn are those at one batch, with the retries that the options allow. -/
structure Turn.Bounded (o : CursorOptions) (turn : Turn) : Prop where
  count : turn.attempts.length ≤ o.retryTimes + 1
  same_request : ∃ request, ∀ a ∈ turn.attempts, a.request = request
  failed_before : ∀ before a after, turn.attempts = before ++ a :: after → after ≠ [] →
    a.Retriable o

/-- A turn that gives no row because it reads on to the end or to an error, or closes the cursor. -/
def Turn.Ends (turn : Turn) : Prop := ∀ row, turn.item ≠ some (.ok row)

/-- A turn of a cursor that is closed already. -/
def Turn.Idle (c : Cursor) (turn : Turn) : Prop :=
  turn.item = none ∧ turn.attempts = [] ∧ turn.after = c

structure Turn.From (o : CursorOptions) (c : Cursor) (turn : Turn) : Prop where
  sound : turn.after.Sound o
  bounded : turn.Bounded o
  idle : c.closed = true → turn.Idle c
  ends : turn.Ends → turn.after.closed = true
  item : turn.use ≠ .next → turn.item = none

namespace Cursor

variable {σ : Type} {read : WindowReader σ} {o : CursorOptions} {c : Cursor}

theorem bounded_of_no_attempt {turn : Turn} (h : turn.attempts = []) : turn.Bounded o := by
  refine ⟨?_, ⟨{}, ?_⟩, ?_⟩
  · rw [h]
    exact Nat.zero_le _
  · rw [h]
    simp
  · intro before a after heq
    rw [h] at heq
    simp at heq

theorem from_close (hc : Sound o c) {u : CursorUse} :
    Turn.From o c ⟨u, none, [], c.close⟩ where
  sound := hc.close
  bounded := bounded_of_no_attempt rfl
  idle hclosed := ⟨rfl, rfl, close_of_closed hclosed⟩
  ends _ := closed_close c
  item _ := rfl

theorem from_next (hc : Sound o c) {s t : σ} {item : CursorItem} {c' : Cursor}
    {attempts : List Attempt} (h : Gives read o c s item c' t attempts) :
    Turn.From o c ⟨.next, item, attempts, c'⟩ where
  sound := h.sound hc
  bounded := by
    rcases h.attempts_eq with hnone | ⟨outcome, d, htries⟩
    · exact bounded_of_no_attempt hnone
    · have hcount := htries.length_le
      exact ⟨Nat.le_trans hcount (Nat.succ_le_succ (Nat.sub_le _ _)), ⟨_, htries.same_request⟩,
        htries.failed_before⟩
  idle hclosed := h.idle hclosed
  ends hitem := h.ends hitem
  item huse := absurd rfl huse

theorem use_turns (read : WindowReader σ) (hc : Sound o c) (u : CursorUse) (s : σ) :
    ∃ (turn : Turn) (t : σ), c.use read o s u = (turn.item, turn.after, t) ∧
      c.use read.tried o (s, []) u = (turn.item, turn.after, t, turn.attempts) ∧
      turn.use = u ∧ turn.From o c := by
  cases u with
  | next =>
    obtain ⟨item, c', t, attempts, hnext, htried, hgives⟩ := next_gives read o c s []
    exact ⟨⟨.next, item, attempts, c'⟩, t, hnext, htried, rfl, from_next hc hgives⟩
  | close => exact ⟨⟨.close, none, [], c.close⟩, s, rfl, rfl, rfl, from_close hc⟩
  | drop => exact ⟨⟨.drop, none, [], c.close⟩, s, rfl, rfl, rfl, from_close hc⟩

/-- What holds of the turns of a cursor and of the cursor that is left. -/
structure Orderly (o : CursorOptions) (c : Cursor) (turns : List Turn) (last : Cursor) : Prop where
  sound : ∀ turn ∈ turns, turn.after.Sound o
  bounded : ∀ turn ∈ turns, turn.Bounded o
  /-- Nothing is attempted or given behind the end. -/
  ended : ∀ before turn after, turns = before ++ turn :: after → turn.Ends →
    ∀ u ∈ after, u.Idle turn.after
  /-- Rows, and at most one error, which is the last item. -/
  given : ∃ rows : List Row, turns.filterMap (·.item) = rows.map .ok ∨
    ∃ e, turns.filterMap (·.item) = rows.map .ok ++ [.error e]
  last_sound : last.Sound o
  released : ∀ turn ∈ turns, turn.use ≠ .next → last.closed = true ∧ last.closings = 1
  idle : c.closed = true → (∀ turn ∈ turns, turn.Idle c) ∧ last = c

theorem orderly_nil (hc : Sound o c) : Orderly o c [] c where
  sound := by simp
  bounded := by simp
  ended before turn after heq := by simp at heq
  given := ⟨[], .inl rfl⟩
  last_sound := hc
  released := by simp
  idle _ := ⟨by simp, rfl⟩

theorem Orderly.cons {turn : Turn} {turns : List Turn} {last : Cursor} (hturn : turn.From o c)
    (hrest : Orderly o turn.after turns last) : Orderly o c (turn :: turns) last where
  sound := List.forall_mem_cons.mpr ⟨hturn.sound, hrest.sound⟩
  bounded := List.forall_mem_cons.mpr ⟨hturn.bounded, hrest.bounded⟩
  ended before u after heq hends := by
    cases before with
    | nil =>
      obtain ⟨rfl, rfl⟩ := List.cons.inj heq
      exact (hrest.idle (hturn.ends hends)).1
    | cons first before => exact hrest.ended before u after (List.cons.inj heq).2 hends
  given := by
    obtain ⟨rows, hrows⟩ := hrest.given
    rcases hitem : turn.item with _ | e | row
    · rw [List.filterMap_cons_none hitem]
      exact ⟨rows, hrows⟩
    · -- an error closes the cursor, and none of the turns behind it gives anything
      have hclosed : turn.after.closed = true := by
        refine hturn.ends fun row hrow => ?_
        rw [hitem] at hrow
        cases hrow
      have hnone : turns.filterMap (·.item) = [] := by
        rw [List.filterMap_eq_nil_iff]
        exact fun u hu => ((hrest.idle hclosed).1 u hu).1
      rw [List.filterMap_cons_some hitem, hnone]
      exact ⟨[], .inr ⟨e, rfl⟩⟩
    · rw [List.filterMap_cons_some hitem]
      refine ⟨row :: rows, ?_⟩
      rcases hrows with hrows | ⟨e, hrows⟩
      · exact .inl (by rw [hrows, List.map_cons])
      · exact .inr ⟨e, by rw [hrows, List.map_cons, List.cons_append]⟩
  last_sound := hrest.last_sound
  released u hu huse := by
    rcases List.mem_cons.mp hu with rfl | hin
    · have hends : u.Ends := by
        intro row hrow
        rw [hturn.item huse] at hrow
        cases hrow
      have hclosed := hturn.ends hends
      have hlast := (hrest.idle hclosed).2
      rw [hlast]
      refine ⟨hclosed, ?_⟩
      rw [hturn.sound.closings, if_pos hclosed]
    · exact hrest.released u hin huse
  idle hclosed := by
    have hidle := hturn.idle hclosed
    have hafter : turn.after = c := hidle.2.2
    obtain ⟨hturns, hlast⟩ := hrest.idle (hafter ▸ hclosed)
    rw [hafter] at hturns hlast
    exact ⟨List.forall_mem_cons.mpr ⟨hidle, hturns⟩, hlast⟩

theorem turns_orderly (uses : List CursorUse) : ∀ (c : Cursor) (s : σ), Sound o c →
    ∃ turns last t, c.items read o uses s = (turns.map (·.item), last, t) ∧
      c.turns read o uses s = (turns, last, t) ∧ turns.map (·.use) = uses ∧
      Orderly o c turns last := by
  induction uses with
  | nil => exact fun c s hc => ⟨[], c, s, rfl, rfl, rfl, orderly_nil hc⟩
  | cons u uses ih =>
    intro c s hc
    obtain ⟨turn, t, huse, htried, rfl, hfrom⟩ := use_turns read hc u s
    obtain ⟨rest, last, t', hitems, hturns, huses, horderly⟩ := ih turn.after t hfrom.sound
    refine ⟨turn :: rest, last, t', ?_, ?_, ?_, horderly.cons hfrom⟩
    · simp only [items, huse, hitems, List.map_cons]
    · simp only [turns, htried, hturns]
    · rw [List.map_cons, huses]

/-- A cursor under any answers and any order of its uses. No batch is tried more often than the
options allow, an error that must not be tried again ends its batch, nothing follows the end or an
error, and a cursor that was closed or dropped has run its hook once. -/
theorem life_is_orderly (read : WindowReader σ) (o : CursorOptions) (settings : StreamSettings)
    (request : Request) (uses : List CursorUse) (s : σ) :
    ∃ turns last t, (openAt settings request).items read o uses s =
        (turns.map (·.item), last, t) ∧
      (openAt settings request).turns read o uses s = (turns, last, t) ∧
      turns.map (·.use) = uses ∧ Orderly o (openAt settings request) turns last :=
  turns_orderly uses _ s (sound_openAt settings request)

end Cursor

end QueryCatalog
