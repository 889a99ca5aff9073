import Mathlib.Algebra.Group.Nat.Defs
import Mathlib.Tactic.Common
import QueryCatalog.Text.Blank
import QueryCatalog.Text.Digits

/-! Numbers are read back from the digits that they are written with. -/
namespace QueryCatalog.Text

theorem toNat_of_isDigit {c : Char} (h : c.isDigit = true) : 48 ≤ c.toNat ∧ c.toNat ≤ 57 := by
  simpa [Char.isDigit, UInt32.le_iff_toNat_le] using h

theorem isBlank_of_isDigit {c : Char} (h : c.isDigit = true) : isBlank c = false := by
  have hcode := toNat_of_isDigit h
  simp only [isBlank, Bool.or_eq_false_iff, Bool.and_eq_false_iff, decide_eq_false_iff_not,
    beq_eq_false_iff_ne]
  omega

theorem foldl_digits_lt {digits : List Char} (h : ∀ c ∈ digits, c.isDigit = true) (n : Nat) :
    digits.foldl (fun n c => n * 10 + digitValue c) n < (n + 1) * 10 ^ digits.length := by
  induction digits generalizing n with
  | nil => simp
  | cons c rest ih =>
    have hc := toNat_of_isDigit (h c List.mem_cons_self)
    have hzero : ('0').toNat = 48 := rfl
    have hrest := ih (fun c hc => h c (List.mem_cons_of_mem _ hc)) (n * 10 + digitValue c)
    have hpow :
        (n * 10 + digitValue c + 1) * 10 ^ rest.length ≤ (n + 1) * 10 * 10 ^ rest.length := by
      refine Nat.mul_le_mul_right _ ?_
      rw [digitValue, hzero]
      omega
    rw [List.foldl_cons, List.length_cons, Nat.pow_succ, Nat.mul_comm (10 ^ rest.length) 10,
      ← Nat.mul_assoc]
    exact Nat.lt_of_lt_of_le hrest hpow

/-- The value of digits has no more digits than there are. -/
theorem digitsValue_lt {digits : List Char} (h : ∀ c ∈ digits, c.isDigit = true) :
    digitsValue digits < 10 ^ digits.length := by
  have hlt := foldl_digits_lt h 0
  rwa [Nat.zero_add, Nat.one_mul] at hlt

theorem isDigit_of_mem_toDigits {n : Nat} {c : Char} (h : c ∈ Nat.toDigits 10 n) :
    c.isDigit = true :=
  Nat.isDigit_of_mem_toDigits (by decide) (by decide) h

theorem digitsValue_toDigits (n : Nat) : digitsValue (Nat.toDigits 10 n) = n := by
  have hread := Nat.ofDigitChars_ten_toDigits (n := n)
  rw [Nat.ofDigitChars_eq_foldl] at hread
  rw [digitsValue]
  simpa only [digitValue, Nat.mul_comm] using hread

theorem digitsValue_zeros (zeros : Nat) (digits : List Char) :
    digitsValue (List.replicate zeros '0' ++ digits) = digitsValue digits := by
  induction zeros with
  | zero => rfl
  | succ zeros ih => exact ih

theorem all_isDigit_zeros (zeros n : Nat) :
    (List.replicate zeros '0' ++ Nat.toDigits 10 n).all Char.isDigit = true := by
  rw [List.all_eq_true]
  intro c hc
  rcases List.mem_append.mp hc with hzero | hdigit
  · rw [List.eq_of_mem_replicate hzero]
    rfl
  · exact isDigit_of_mem_toDigits hdigit

theorem isEmpty_zeros (zeros n : Nat) :
    (List.replicate zeros '0' ++ Nat.toDigits 10 n).isEmpty = false := by
  rw [List.isEmpty_eq_false_iff]
  intro hempty
  exact Nat.toDigits_ne_nil (List.append_eq_nil_iff.mp hempty).2

/-- Zeros before a number do not count. -/
theorem natOfDigits?_zeros (zeros n : Nat) :
    natOfDigits? (List.replicate zeros '0' ++ Nat.toDigits 10 n) = some n := by
  rw [natOfDigits?, isEmpty_zeros, all_isDigit_zeros, digitsValue_zeros, digitsValue_toDigits]
  rfl

theorem natOfDigits?_toDigits (n : Nat) : natOfDigits? (Nat.toDigits 10 n) = some n :=
  natOfDigits?_zeros 0 n

theorem int64?_toDigits {n : Nat} (h : (n : Int) ≤ maxInt64) :
    int64? (Nat.toDigits 10 n) = some (n : Int) := by
  have hread := natOfDigits?_toDigits n
  have hdigit : ∀ c ∈ Nat.toDigits 10 n, c.isDigit = true := fun c hc => isDigit_of_mem_toDigits hc
  unfold int64?
  split
  · rename_i rest hminus
    rw [hminus] at hdigit
    cases hdigit '-' List.mem_cons_self
  · rename_i rest hplus
    rw [hplus] at hdigit
    cases hdigit '+' List.mem_cons_self
  · rw [hread]
    simp [h]

/-- A 64-bit integer is read from digits, before which a sign may stand. -/
theorem int64?_cases {cs : List Char} {n : Int} (h : int64? cs = some n) :
    (∃ m : Nat, (∃ rest, cs = '-' :: rest ∧ natOfDigits? rest = some m ∧ n = -(m : Int)) ∨
      (∃ rest, cs = '+' :: rest ∧ natOfDigits? rest = some m ∧ n = m) ∨
      (natOfDigits? cs = some m ∧ n = m)) ∧ minInt64 ≤ n ∧ n ≤ maxInt64 := by
  unfold int64? at h
  split at h
  · rename_i rest
    obtain ⟨h, hlow⟩ := Option.filter_eq_some_iff.mp h
    obtain ⟨k, hk, rfl⟩ := Option.map_eq_some_iff.mp h
    obtain ⟨m, hm, hmk⟩ := Option.bind_eq_some_iff.mp hk
    cases hmk
    refine ⟨⟨m, .inl ⟨rest, rfl, hm, rfl⟩⟩, of_decide_eq_true hlow, ?_⟩
    exact Int.le_trans (Int.neg_nonpos_of_nonneg (Int.natCast_nonneg m)) (by decide)
  · rename_i rest
    obtain ⟨h, hhigh⟩ := Option.filter_eq_some_iff.mp h
    obtain ⟨m, hm, rfl⟩ := Option.map_eq_some_iff.mp h
    refine ⟨⟨m, .inr (.inl ⟨rest, rfl, hm, rfl⟩)⟩, ?_, of_decide_eq_true hhigh⟩
    exact Int.le_trans (by decide) (Int.natCast_nonneg m)
  · obtain ⟨h, hhigh⟩ := Option.filter_eq_some_iff.mp h
    obtain ⟨m, hm, rfl⟩ := Option.map_eq_some_iff.mp h
    refine ⟨⟨m, .inr (.inr ⟨hm, rfl⟩)⟩, ?_, of_decide_eq_true hhigh⟩
    exact Int.le_trans (by decide) (Int.natCast_nonneg m)

theorem int64?_le {cs : List Char} {n : Int} (h : int64? cs = some n) : n ≤ maxInt64 :=
  (int64?_cases h).2.2

/-- Digits are read as an unsigned 64-bit number unless their value exceeds it. -/
theorem word?_digits {digits : List Char} (hne : digits ≠ [])
    (h : digits.all Char.isDigit = true) :
    word? digits = if digitsValue digits < wordBound then some (digitsValue digits) else none := by
  have hread : natOfDigits? digits = some (digitsValue digits) := by
    rw [natOfDigits?, List.isEmpty_eq_false_iff.mpr hne, h]
    rfl
  unfold word? natBelow?
  split
  · rename_i rest
    -- a sign is no digit
    cases h
  · dsimp only
    rw [hread, Option.filter_some]
    simp only [decide_eq_true_eq]

theorem word?_zeros (zeros : Nat) {n : Nat} (h : n < wordBound) :
    word? (List.replicate zeros '0' ++ Nat.toDigits 10 n) = some n := by
  rw [word?_digits (List.isEmpty_eq_false_iff.mp (isEmpty_zeros zeros n))
    (all_isDigit_zeros zeros n), digitsValue_zeros, digitsValue_toDigits, if_pos h]

end QueryCatalog.Text
