import Mathlib.Algebra.Group.Nat.Defs
import QueryCatalog.Proofs.Cursor.Lifetime

/-!
How long a cursor waits before its retries. The retries are counted for each batch anew. Waits that
grow are doubled from one retry to the next, but not more often than the bound of doublings allows.
-/
namespace QueryCatalog

namespace Backoff

/-- The waits before the first so many retries of a batch. -/
def waits (b : Backoff) (retries : Nat) : List Nat :=
  (List.range retries).map fun k => b.delay (k + 1)

/-- The waits if doubling went on up to the maximum. -/
def doubled (base maximum retries : Nat) : List Nat :=
  (List.range retries).map fun k => min (base * 2 ^ k) maximum

/-- The maximum is reached by the doublings there are, or there is nothing to double. -/
def Saturates (base maximum : Nat) : Prop := base = 0 ∨ maximum ≤ base * 2 ^ maxDoublings

theorem delay_exponential (base maximum k : Nat) :
    (exponential base maximum).delay (k + 1) = min (base * 2 ^ min k maxDoublings) maximum := rfl

theorem delay_eq_doubled_iff (base maximum k : Nat) :
    (exponential base maximum).delay (k + 1) = min (base * 2 ^ k) maximum ↔
      k ≤ maxDoublings ∨ Saturates base maximum := by
  rw [delay_exponential, Saturates]
  by_cases hk : k ≤ maxDoublings
  · rw [Nat.min_eq_left hk]
    simp [hk]
  have hmore : maxDoublings < k := Nat.lt_of_not_le hk
  rw [Nat.min_eq_right (Nat.le_of_lt hmore)]
  rcases Nat.eq_zero_or_pos base with rfl | hbase
  · simp
  -- the next doubling would make a difference to any maximum above
  have hlt : base * 2 ^ maxDoublings < base * 2 ^ k :=
    Nat.mul_lt_mul_of_pos_left (Nat.pow_lt_pow_right (by decide) hmore) hbase
  omega

theorem waits_eq_doubled_iff (base maximum retries : Nat) :
    (exponential base maximum).waits retries = doubled base maximum retries ↔
      retries ≤ maxDoublings + 1 ∨ Saturates base maximum := by
  rw [waits, doubled, List.map_inj_left]
  simp only [List.mem_range, delay_eq_doubled_iff]
  constructor
  · intro h
    by_contra hnone
    rw [not_or, Nat.not_le] at hnone
    rcases h (maxDoublings + 1) hnone.1 with hle | hsaturates
    · omega
    · exact hnone.2 hsaturates
  · rintro (hretries | hsaturates) k hk
    · exact .inl (by omega)
    · exact .inr hsaturates

@[simp] theorem length_waits (b : Backoff) (retries : Nat) : (b.waits retries).length = retries := by
  simp [waits]

@[simp] theorem length_doubled (base maximum retries : Nat) :
    (doubled base maximum retries).length = retries := by
  simp [doubled]

end Backoff

/-- Each attempt but the first one is a retry. -/
def Turn.retries (turn : Turn) : Nat := turn.attempts.length - 1

theorem flatMap_waits_eq_doubled_iff (base maximum : Nat) (turns : List Turn) :
    turns.flatMap (fun turn => (Backoff.exponential base maximum).waits turn.retries) =
        turns.flatMap (fun turn => Backoff.doubled base maximum turn.retries) ↔
      (∀ turn ∈ turns, turn.retries ≤ Backoff.maxDoublings + 1) ∨
        Backoff.Saturates base maximum := by
  induction turns with
  | nil => simp
  | cons turn turns ih =>
    have hlength : ((Backoff.exponential base maximum).waits turn.retries).length =
        (Backoff.doubled base maximum turn.retries).length := by simp
    rw [List.flatMap_cons, List.flatMap_cons, List.forall_mem_cons]
    constructor
    · intro h
      obtain ⟨hturn, hrest⟩ := List.append_inj h hlength
      rcases (Backoff.waits_eq_doubled_iff base maximum turn.retries).mp hturn with hfew | hall
      · exact (ih.mp hrest).imp_left fun hothers => ⟨hfew, hothers⟩
      · exact .inr hall
    · intro h
      rw [(Backoff.waits_eq_doubled_iff base maximum turn.retries).mpr (h.imp_left And.left),
        ih.mpr (h.imp_left And.right)]

namespace Cursor

variable {σ : Type} {read : WindowReader σ} {o : CursorOptions} {c c' : Cursor} {s t : σ}

/-- An open cursor that is not reading a batch counts no failures. -/
def Fresh (c : Cursor) : Prop := c.closed = false → c.failures = 0

theorem close_delays (c : Cursor) : c.close.delays = c.delays := by
  unfold close
  split_ifs <;> rfl

theorem fresh_close (c : Cursor) : c.close.Fresh := by
  intro hopen
  rw [closed_close] at hopen
  cases hopen

namespace Tries

variable {n : Nat} {outcome : Except QueryError Unit} {attempts : List Attempt}

theorem attempts_ne_nil (h : Tries read o n c s outcome c' t attempts) : attempts ≠ [] := by
  cases h <;> exact List.cons_ne_nil _ _

theorem failures_of_ok (h : Tries read o n c s outcome c' t attempts) (houtcome : outcome = .ok ()) :
    c'.failures = 0 := by
  induction h with
  | reads => rfl
  | gives_up => cases houtcome
  | again _ _ _ ih => exact ih houtcome

/-- Before each retry the cursor waits as its number among the failures of the batch demands. -/
theorem delays_eq (h : Tries read o n c s outcome c' t attempts) :
    c'.delays = c.delays ++
      (List.range' c.failures (attempts.length - 1)).map fun k => o.backoff.delay (k + 1) := by
  induction h with
  | reads => exact (List.append_nil _).symm
  | gives_up => exact (List.append_nil _).symm
  | again _ _ hrest ih =>
    obtain ⟨m, hm⟩ : ∃ m, _ = m + 1 :=
      Nat.exists_eq_succ_of_ne_zero (mt List.length_eq_zero_iff.mp hrest.attempts_ne_nil)
    rw [hm, Nat.add_sub_cancel] at ih
    rw [ih, List.length_cons, hm, Nat.add_sub_cancel, List.range'_succ, List.map_cons]
    simp [noteRetry]

end Tries

theorem Takes.delays_eq {item : CursorItem} (h : Takes o c item c') : c'.delays = c.delays := by
  cases h with
  | nothing => exact close_delays _
  | stopped => exact close_delays _
  | row => rfl

theorem Takes.fresh {item : CursorItem} (h : Takes o c item c') (hc : c.failures = 0) :
    c'.Fresh := by
  cases h with
  | nothing => exact fresh_close _
  | stopped => exact fresh_close _
  | row => exact fun _ => hc

/-- For an item the cursor waits before each retry of one batch, and counts them from one. -/
theorem Gives.delays_eq {item : CursorItem} {attempts : List Attempt}
    (h : Gives read o c s item c' t attempts) (hc : c.Fresh) :
    c'.delays = c.delays ++ o.backoff.waits (attempts.length - 1) ∧ c'.Fresh := by
  have hidle : c.delays = c.delays ++ o.backoff.waits 0 := (List.append_nil _).symm
  cases h with
  | closed => exact ⟨hidle, hc⟩
  | buffered hopen _ htakes => exact ⟨htakes.delays_eq.trans hidle, htakes.fresh (hc hopen)⟩
  | finished => exact ⟨(close_delays c).trans hidle, fresh_close c⟩
  | failed hopen _ _ htries =>
    have hwaits := htries.delays_eq
    rw [hc hopen, ← List.range_eq_range'] at hwaits
    exact ⟨(close_delays _).trans hwaits, fresh_close _⟩
  | batch hopen _ _ htries htakes =>
    have hwaits := htries.delays_eq
    rw [hc hopen, ← List.range_eq_range'] at hwaits
    exact ⟨htakes.delays_eq.trans hwaits, htakes.fresh (htries.failures_of_ok rfl)⟩

theorem use_delays (read : WindowReader σ) (o : CursorOptions) (hc : c.Fresh) (u : CursorUse)
    (s : σ) {item : CursorItem} {attempts : List Attempt}
    (huse : c.use read.tried o (s, []) u = (item, c', t, attempts)) :
    c'.delays = c.delays ++ o.backoff.waits (attempts.length - 1) ∧ c'.Fresh := by
  have hidle : c.close.delays = c.delays ++ o.backoff.waits 0 :=
    (close_delays c).trans (List.append_nil _).symm
  cases u with
  | next =>
    obtain ⟨item', d, t', made, -, htried, hgives⟩ := next_gives read o c s []
    obtain ⟨-, rfl, -, rfl⟩ : item' = item ∧ d = c' ∧ t' = t ∧ made = attempts := by
      simpa using htried.symm.trans huse
    exact hgives.delays_eq hc
  | close =>
    cases huse
    exact ⟨hidle, fresh_close c⟩
  | drop =>
    cases huse
    exact ⟨hidle, fresh_close c⟩

/-- All waits of a cursor are those of its turns, one turn after the other. -/
theorem turns_delays (uses : List CursorUse) : ∀ (c : Cursor) (s : σ), c.Fresh →
    ∀ {turns last t}, c.turns read o uses s = (turns, last, t) →
      last.delays = c.delays ++ turns.flatMap fun turn => o.backoff.waits turn.retries := by
  induction uses with
  | nil =>
    intro c s _ turns last t hturns
    cases hturns
    exact (List.append_nil _).symm
  | cons u uses ih =>
    intro c s hc turns last t hturns
    rcases huse : c.use read.tried o (s, []) u with ⟨item, c', s', attempts⟩
    rcases hrest : c'.turns read o uses s' with ⟨rest, last', t'⟩
    obtain ⟨hdelays, hfresh⟩ := use_delays read o hc u s huse
    simp only [Cursor.turns, huse, hrest, Prod.mk.injEq] at hturns
    obtain ⟨rfl, rfl, rfl⟩ := hturns
    rw [ih c' s' hfresh hrest, hdelays, List.flatMap_cons, List.append_assoc]
    rfl

/-- Under any answers and any order of its uses, a cursor counts its retries from one for each batch
and doubles the base up to the maximum, but no more than sixteen times. Its waits are those of
unlimited doubling exactly if no batch has more than seventeen retries, or sixteen doublings reach
the maximum, or there is nothing to double. -/
theorem waits_doubled_iff (read : WindowReader σ) (o : CursorOptions) (base maximum : Nat)
    (settings : StreamSettings) (request : Request) (uses : List CursorUse) (s : σ) :
    ∃ turns last t,
      (openAt settings request).items read { o with backoff := .exponential base maximum } uses s =
        (turns.map (·.item), last, t) ∧
      (openAt settings request).turns read { o with backoff := .exponential base maximum } uses s =
        (turns, last, t) ∧
      (∀ turn ∈ turns, turn.Bounded { o with backoff := .exponential base maximum }) ∧
      last.delays = turns.flatMap (fun turn => (List.range turn.retries).map fun k =>
        min (base * 2 ^ min k Backoff.maxDoublings) maximum) ∧
      (last.delays = turns.flatMap (fun turn => Backoff.doubled base maximum turn.retries) ↔
        (∀ turn ∈ turns, turn.retries ≤ Backoff.maxDoublings + 1) ∨
          Backoff.Saturates base maximum) := by
  have hsound : Sound { o with backoff := .exponential base maximum } (openAt settings request) :=
    sound_openAt settings request
  obtain ⟨turns, last, t, hitems, hturns, -, horderly⟩ :=
    @turns_orderly σ read _ uses (openAt settings request) s hsound
  have hdelays := turns_delays uses (openAt settings request) s (fun _ => rfl) hturns
  have hstart : (openAt settings request).delays = [] := rfl
  rw [hstart, List.nil_append] at hdelays
  refine ⟨turns, last, t, hitems, hturns, horderly.bounded, hdelays, ?_⟩
  rw [hdelays]
  exact flatMap_waits_eq_doubled_iff base maximum turns

/-- As many failures as the state counts, then an empty batch. -/
def flaky : WindowReader Nat := fun _ failures =>
  match failures with
  | 0 => (.ok ⟨0, 16, false, []⟩, 0)
  | n + 1 => (.error (.execution "items" "connection reset"), n)

def patience : CursorOptions := { retryTimes := 18, backoff := .exponential 1 1000000 }

/-- The eighteenth retry of a batch waits as long as the seventeenth, although the maximum is far. -/
theorem eighteenth_wait_is_not_doubled :
    ((openAt {} {}).next flaky patience 18).2.1.delays[16]? = some 65536 ∧
      ((openAt {} {}).next flaky patience 18).2.1.delays[17]? = some 65536 ∧
      min (1 * 2 ^ (18 - 1)) 1000000 = 131072 := by
  decide +kernel

end Cursor

end QueryCatalog
