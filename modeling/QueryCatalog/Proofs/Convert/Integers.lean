import Mathlib.Data.List.TakeWhile
import QueryCatalog.Proofs.Decimal.Amount
import QueryCatalog.Proofs.Json.Everywhere
import QueryCatalog.Proofs.Text.Digits

/-!
Conversion of numbers and numeric text to integers. What comes out is the number that went in,
with one exception: a float beyond 64 bits becomes the end of their range that is nearest to it.
-/
namespace QueryCatalog

namespace Decimal

/-- The number of decimal digits without a sign. -/
def magnitude? (cs : List Char) : Option ℚ :=
  (numeral? cs).map fun (digits, exponent) => digits * 10 ^ exponent

/-- The number that decimal text states, before any rounding. -/
def stated? (cs : List Char) : Option ℚ :=
  match cs with
  | '-' :: rest => (magnitude? rest).map fun q => -q
  | '+' :: rest => magnitude? rest
  | _ => magnitude? cs

theorem magnitude_of_natOfDigits {cs : List Char} {n : Nat} (h : Text.natOfDigits? cs = some n) :
    magnitude? cs = some (n : ℚ) := by
  unfold Text.natOfDigits? at h
  split at h
  · cases h
  · rename_i hdigits
    rw [Bool.or_eq_true, not_or, Bool.not_eq_true, Bool.not_eq_true, Bool.not_eq_false'] at hdigits
    obtain ⟨hne, hall⟩ := hdigits
    obtain rfl := Option.some.inj h
    have hall := List.all_eq_true.mp hall
    have hbefore : cs.takeWhile Char.isDigit = cs := List.takeWhile_eq_self_iff.mpr hall
    have hafter : cs.dropWhile Char.isDigit = [] := List.dropWhile_eq_nil_iff.mpr hall
    simp [magnitude?, numeral?, hbefore, hafter, hne]

/-- Text that is read as a 64-bit integer states this integer. -/
theorem stated_of_int64 {cs : List Char} {n : Int} (h : Text.int64? cs = some n) :
    stated? cs = some (n : ℚ) := by
  obtain ⟨⟨m, ⟨rest, rfl, hm, rfl⟩ | ⟨rest, rfl, hm, rfl⟩ | ⟨hm, rfl⟩⟩, -⟩ := Text.int64?_cases h
  · simp [stated?, magnitude_of_natOfDigits hm]
  · simp [stated?, magnitude_of_natOfDigits hm]
  · unfold stated?
    split
    -- a sign is no digit
    · cases hm
    · cases hm
    · exact magnitude_of_natOfDigits hm

end Decimal

namespace Json

/-- The number that a number or a numeric text stands for. -/
def amount? : Json → Option ℚ
  | .num (.int n) => some n
  | .num (.float x) => Decimal.amount? x
  | .str s => Decimal.stated? (Text.trimChars s.toList)
  | _ => none

end Json

namespace Convert

variable {v w : Json} {q : ℚ}

/-- Inside the 64-bit integers. -/
def InRange (n : Int) : Prop := Text.minInt64 ≤ n ∧ n ≤ Text.maxInt64

/-- A float without fraction outside the 64-bit integers. -/
def Overflows (v : Json) : Prop :=
  ∃ x : Float, ∃ z : Int, v = .num (.float x) ∧ Decimal.amount? x = some (z : ℚ) ∧ ¬InRange z

/-- The number is an integer that the conversion has room for: one of 64 bits, or the very integer
that is converted. -/
def Representable (v : Json) (q : ℚ) : Prop :=
  ∃ n : Int, q = n ∧ (v = .num (.int n) ∨ InRange n)

theorem integer_text {s : String} (h : value .integer (.str s) = .ok w) :
    ∃ n : Int, w = .num (.int n) ∧ Json.amount? (.str s) = some (n : ℚ) ∧ InRange n := by
  change toInteger (.str s) = .ok w at h
  unfold toInteger at h
  dsimp only at h
  split at h
  · rename_i n hread
    cases h
    exact ⟨n, rfl, Decimal.stated_of_int64 hread, (Text.int64?_cases hread).2⟩
  · cases h

theorem integer_whole {x : Float} {z : Int} (h : Decimal.amount? x = some (z : ℚ)) :
    value .integer (.num (.float x)) =
      .ok (.num (.int (max Text.minInt64 (min Text.maxInt64 z)))) := by
  have hwhole : isWhole x = true := (isWhole_iff h).mpr ⟨z, rfl⟩
  change toInteger (.num (.float x)) = _
  rw [toInteger, if_pos hwhole, truncate_eq h]
  rfl

theorem integer_fraction {x : Float} (h : Decimal.amount? x = some q) (hq : ∀ z : Int, q ≠ z) :
    value .integer (.num (.float x)) = .error (.number (.float x) .integer) := by
  have hwhole : ¬isWhole x = true := by
    rw [isWhole_iff h]
    rintro ⟨z, hz⟩
    exact hq z hz
  change toInteger (.num (.float x)) = _
  rw [toInteger, if_neg hwhole]

/-- A number that is converted to an integer is this integer, and has room in 64 bits unless it
was one before. -/
theorem integer_of_ok (h : v.amount? = some q) (hv : ¬Overflows v)
    (hw : value .integer v = .ok w) :
    ∃ n : Int, w = .num (.int n) ∧ q = n ∧ (v = .num (.int n) ∨ InRange n) := by
  cases v with
  | num n =>
    cases n with
    | int n =>
      cases h
      cases hw
      exact ⟨n, rfl, rfl, .inl rfl⟩
    | float x =>
      by_cases hz : ∃ z : Int, q = z
      · obtain ⟨z, rfl⟩ := hz
        have hrange : InRange z := by
          by_contra hrange
          exact hv ⟨x, z, rfl, h, hrange⟩
        rw [integer_whole h] at hw
        cases hw
        refine ⟨_, rfl, ?_, .inr ?_⟩
        all_goals rw [min_eq_right hrange.2, max_eq_right hrange.1]
        exact hrange
      · rw [integer_fraction h fun z hq => hz ⟨z, hq⟩] at hw
        cases hw
  | str s =>
    obtain ⟨n, rfl, hn, hrange⟩ := integer_text hw
    exact ⟨n, rfl, Option.some.inj (h.symm.trans hn), .inr hrange⟩
  | null => cases h
  | bool b => cases h
  | arr items => cases h
  | obj row => cases h

theorem integer_of_overflow (h : v.amount? = some q) (hv : Overflows v) :
    ∃ n : Int, value .integer v = .ok (.num (.int n)) ∧
      (n = Text.minInt64 ∨ n = Text.maxInt64) ∧ (n : ℚ) ≠ q := by
  obtain ⟨x, z, rfl, hz, hrange⟩ := hv
  obtain rfl : q = z := Option.some.inj (h.symm.trans hz)
  refine ⟨_, integer_whole hz, ?_, ?_⟩
  · unfold InRange Text.minInt64 Text.maxInt64 at *
    omega
  · intro hsame
    have hsame := Int.cast_injective hsame
    unfold InRange Text.minInt64 Text.maxInt64 at *
    omega

/-- Conversion to an integer keeps the number and rejects one that is none of the integers that it
has room for, unless a float overflows: this one is replaced by an end of the range. -/
theorem integer_keeps_amount (h : v.amount? = some q) :
    (¬Overflows v → ∀ w, value .integer v = .ok w → ∃ n : Int, w = .num (.int n) ∧ (n : ℚ) = q) ∧
    (¬Overflows v → ¬Representable v q → ∃ e, value .integer v = .error e) ∧
    (Overflows v → ∃ n : Int, value .integer v = .ok (.num (.int n)) ∧
      (n = Text.minInt64 ∨ n = Text.maxInt64) ∧ (n : ℚ) ≠ q) := by
  refine ⟨?_, ?_, integer_of_overflow h⟩
  · intro hv w hw
    obtain ⟨n, rfl, rfl, -⟩ := integer_of_ok h hv hw
    exact ⟨n, rfl, rfl⟩
  · intro hv hroom
    cases hw : value .integer v with
    | error e => exact ⟨e, rfl⟩
    | ok w =>
      obtain ⟨n, -, hq, hn⟩ := integer_of_ok h hv hw
      exact absurd ⟨n, hq, hn⟩ hroom

/-- The float after the last one that fits. -/
theorem amount_beyond : Decimal.amount? 9223372036854775808.0 = some 9223372036854775808 := by
  have hunpack : (9223372036854775808.0 : Float).toModel.unpack =
      .finite .positive (2 ^ 52) 11 (by decide) := rfl
  rw [Decimal.amount?, hunpack]
  norm_num [Float.Model.UnpackedFloat.Sign.apply]

theorem overflows_beyond : Overflows (.float 9223372036854775808.0) := by
  refine ⟨_, 9223372036854775808, rfl, ?_, ?_⟩
  · rw [amount_beyond]
    norm_num
  · rintro ⟨-, hhigh⟩
    exact absurd hhigh (by decide)

/-- The largest 64-bit integer is read from text, the next one is rejected as text, and as a float
it is replaced. -/
theorem integer_keeps_amount_largest :
    (∃ n : Int, value .integer (.str " +9223372036854775807") = .ok (.num (.int n)) ∧
      (n : ℚ) = 9223372036854775807) ∧
    (∃ e, value .integer (.str "9223372036854775808") = .error e) ∧
    ∃ n : Int, value .integer (.float 9223372036854775808.0) = .ok (.num (.int n)) ∧
      (n = Text.minInt64 ∨ n = Text.maxInt64) ∧ (n : ℚ) ≠ 9223372036854775808 := by
  have hlargest :
      Json.amount? (.str " +9223372036854775807") = some ((9223372036854775807 : Int) : ℚ) := by
    rw [Json.amount?]
    exact Decimal.stated_of_int64 (by decide)
  have hnext :
      Json.amount? (.str "9223372036854775808") = some ((9223372036854775808 : Nat) : ℚ) := by
    change Decimal.magnitude? "9223372036854775808".toList = _
    exact Decimal.magnitude_of_natOfDigits (by decide)
  have htext : ∀ s, ¬Overflows (.str s) := fun s ⟨_, _, hs, _⟩ => nomatch hs
  refine ⟨?_, ?_, ?_⟩
  · have hread : value .integer (.str " +9223372036854775807") =
        .ok (.num (.int 9223372036854775807)) := rfl
    obtain ⟨n, hn, hq⟩ := (integer_keeps_amount hlargest).1 (htext _) _ hread
    refine ⟨n, hread.trans (congrArg Except.ok hn), hq.trans ?_⟩
    norm_num
  · apply (integer_keeps_amount hnext).2.1 (htext _)
    rintro ⟨n, hn, hroom⟩
    have hn : n = 9223372036854775808 := by exact_mod_cast hn.symm
    subst hn
    rcases hroom with hint | hrange
    · cases hint
    · exact absurd hrange.2 (by decide)
  · have hbeyond : Json.amount? (.float 9223372036854775808.0) = some 9223372036854775808 :=
      amount_beyond
    exact (integer_keeps_amount hbeyond).2.2 overflows_beyond

theorem beyond_range_is_replaced :
    Json.amount? (.float 9223372036854775808.0) = some 9223372036854775808 ∧
      value .integer (.float 9223372036854775808.0) = .ok (.int 9223372036854775807) ∧
      Json.amount? (.int 9223372036854775807) ≠ some 9223372036854775808 := by
  refine ⟨amount_beyond, rfl, ?_⟩
  intro hsame
  have hsame := Option.some.inj hsame
  norm_num at hsame

end Convert

end QueryCatalog
