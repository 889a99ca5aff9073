import Mathlib.Algebra.Order.Field.Power
import Mathlib.Data.Rat.Cast.Order
import Mathlib.Tactic.NormNum
import Mathlib.Tactic.Positivity
import QueryCatalog.Convert.Conversion
import QueryCatalog.Proofs.Decimal.Rounding

/-!
The numbers that finite floats and decimal text stand for, exactly. The sign, the mantissa and the
exponent that are read off the bits of a float make up its number, so a float without fraction is
recognised by them, and cut to an integer it is the number itself as far as 64 bits reach.
-/
namespace QueryCatalog

namespace Decimal

open Float.Model Float.Model.UnpackedFloat

/-- The number that a finite float stands for. -/
def amount? (x : Float) : Option ℚ :=
  match x.toModel.unpack with
  | .zero _ => some 0
  | .finite s m e _ => some (((s.apply m : Int) : ℚ) * 2 ^ e)
  | _ => none

def bitsOf (x : Float) : BitVec Format.binary64.numBits := x.toBits.toBitVec

def signOf (x : Float) : Sign := if isNegative x then .negative else .positive

theorem toNat_unpackExponent (b : BitVec Format.binary64.numBits) :
    (unpackExponent b).toNat = b.toNat / 2 ^ 52 % 2048 := by
  simp [unpackExponent, BitVec.extractLsb, BitVec.extractLsb', Nat.shiftRight_eq_div_pow]

theorem toNat_unpackMantissa (b : BitVec Format.binary64.numBits) :
    (unpackMantissa b).toNat = b.toNat % 2 ^ 52 := by
  simp [unpackMantissa, BitVec.extractLsb, BitVec.extractLsb']

theorem toNat_unpackSign (b : BitVec Format.binary64.numBits) :
    (unpackSign b).toNat = b.toNat / 2 ^ 63 := by
  have hsize : b.toNat < 2 ^ 64 := b.isLt
  have hsign : unpackSign b = (b.extractLsb 63 63).cast (by decide) := rfl
  rw [hsign, BitVec.toNat_cast, BitVec.extractLsb_toNat, Nat.shiftRight_eq_div_pow]
  change b.toNat / 2 ^ 63 % 2 = _
  omega

theorem ofBitVec_unpackSign (x : Float) :
    Sign.ofBitVec (unpackSign (bitsOf x)) = signOf x := by
  have hsize : x.toBits.toNat < 2 ^ 64 := (bitsOf x).isLt
  have hsign : (unpackSign (bitsOf x)).toNat =
      x.toBits.toNat / 2 ^ 63 := toNat_unpackSign _
  have hnegative : isNegative x = true ↔ x.toBits.toNat / 2 ^ 63 = 1 := by
    rw [isNegative, beq_iff_eq, ← UInt64.toNat_inj, UInt64.toNat_shiftRight]
    simp [Nat.shiftRight_eq_div_pow]
  rw [Sign.ofBitVec, signOf]
  by_cases hzero : x.toBits.toNat / 2 ^ 63 = 0
  · have hfirst : unpackSign (bitsOf x) = 0#1 :=
      BitVec.eq_of_toNat_eq (hsign.trans hzero)
    rw [if_pos hfirst, if_neg (by rw [hnegative]; omega)]
  · have hone : x.toBits.toNat / 2 ^ 63 = 1 := by omega
    have hnonzero : ¬unpackSign (bitsOf x) = 0#1 :=
      fun h => hzero (hsign.symm.trans (congrArg BitVec.toNat h))
    rw [if_neg hnonzero, if_pos (hnegative.mpr hone)]

theorem binary_ofFloat (x : Float) :
    Binary.ofFloat x =
      if x.toBits.toNat / 2 ^ 52 % 2048 = 0 then ⟨x.toBits.toNat % 2 ^ 52, -1074⟩
      else ⟨x.toBits.toNat % 2 ^ 52 + 2 ^ 52,
        ((x.toBits.toNat / 2 ^ 52 % 2048 : Nat) : Int) - 1075⟩ := by
  simp [Binary.ofFloat]

/-- What the bits of a float say: nothing finite, zero, or a number with its sign. -/
theorem unpack_cases (x : Float) :
    x.isFinite = false ∨
    (x.toModel.unpack = .zero (signOf x) ∧ Binary.ofFloat x = ⟨0, -1074⟩) ∨
    ∃ hm, x.toModel.unpack =
      .finite (signOf x) (Binary.ofFloat x).mantissa (Binary.ofFloat x).exponent hm := by
  have hbits : x.toModel.unpack = unpack Format.binary64 (bitsOf x) := rfl
  have hsign := ofBitVec_unpackSign x
  have hfield : (unpackExponent (bitsOf x)).toNat =
      x.toBits.toNat / 2 ^ 52 % 2048 := toNat_unpackExponent _
  have hfraction : (unpackMantissa (bitsOf x)).toNat =
      x.toBits.toNat % 2 ^ 52 := toNat_unpackMantissa _
  have hbinary := binary_ofFloat x
  by_cases hlast : unpackExponent (bitsOf x) = -1#_
  · left
    have hunpack : unpack Format.binary64 (bitsOf x) =
        if unpackMantissa (bitsOf x) = 0#_ then .infinity (.ofBitVec (unpackSign (bitsOf x)))
        else .notANumber := if_pos hlast
    change (unpack Format.binary64 (bitsOf x)).isFinite = false
    rw [hunpack]
    split <;> rfl
  right
  by_cases hfirst : unpackExponent (bitsOf x) = 0#_
  · have hsmall : x.toBits.toNat / 2 ^ 52 % 2048 = 0 := by
      rw [← hfield, hfirst]
      rfl
    rw [if_pos hsmall, ← hfraction] at hbinary
    by_cases hzero : unpackMantissa (bitsOf x) = 0#_
    · left
      have hunpack : unpack Format.binary64 (bitsOf x) =
          .zero (.ofBitVec (unpackSign (bitsOf x))) :=
        (if_neg hlast).trans ((if_pos hfirst).trans (dif_pos hzero))
      rw [hbits, hunpack, hsign, hbinary, hzero]
      exact ⟨rfl, rfl⟩
    · right
      obtain ⟨hm, hunpack⟩ : ∃ hm, unpack Format.binary64 (bitsOf x) =
          .finite (.ofBitVec (unpackSign (bitsOf x))) (unpackMantissa (bitsOf x)).toNat
            ((unpackExponent (bitsOf x)).toNat - 1075 + 1) hm :=
        ⟨_, (if_neg hlast).trans ((if_pos hfirst).trans (dif_neg hzero))⟩
      rw [hbits, hunpack, hsign, hbinary, hfirst]
      exact ⟨hm, rfl⟩
  · right
    obtain ⟨hm, hunpack⟩ := unpack_normal hlast hfirst
    have hnormal : ¬ x.toBits.toNat / 2 ^ 52 % 2048 = 0 :=
      fun h => hfirst (BitVec.eq_of_toNat_eq (hfield.trans h))
    rw [if_neg hnormal, ← hfraction, ← hfield, Nat.add_comm, ← toNat_append_one] at hbinary
    rw [hbits, hunpack, hsign, hbinary]
    exact ⟨hm, rfl⟩

/-- The number of a magnitude. -/
def Binary.size (b : Binary) : ℚ := b.mantissa * 2 ^ b.exponent

theorem Binary.size_nonneg (b : Binary) : 0 ≤ b.size := by
  unfold size
  positivity

theorem amount?_eq (x : Float) :
    amount? x = if x.isFinite then
        some (if isNegative x then -(Binary.ofFloat x).size else (Binary.ofFloat x).size)
      else none := by
  rcases unpack_cases x with hinfinite | ⟨hzero, hbinary⟩ | ⟨hm, hfinite⟩
  · have hunpack : x.toModel.unpack.isFinite = false := hinfinite
    rw [hinfinite, amount?]
    cases h : x.toModel.unpack <;> rw [h] at hunpack <;> first | rfl | cases hunpack
  · have hfinite : x.isFinite = true := by
      change x.toModel.unpack.isFinite = true
      rw [hzero]
      rfl
    rw [amount?, hzero, hfinite, hbinary]
    simp [Binary.size]
  · have hisFinite : x.isFinite = true := by
      change x.toModel.unpack.isFinite = true
      rw [hfinite]
      rfl
    rw [amount?, hisFinite, hfinite, signOf, Binary.size]
    cases isNegative x <;> simp [Sign.apply]

theorem isFinite_of_amount {x : Float} {q : ℚ} (h : amount? x = some q) : x.isFinite = true := by
  rw [amount?_eq] at h
  split at h
  · assumption
  · cases h

theorem eq_of_amount {x : Float} {q : ℚ} (h : amount? x = some q) :
    q = if isNegative x then -(Binary.ofFloat x).size else (Binary.ofFloat x).size := by
  have hfinite := isFinite_of_amount h
  rw [amount?_eq, if_pos hfinite] at h
  exact (Option.some.inj h).symm

theorem size_of_amount {x : Float} {q : ℚ} (h : amount? x = some q) :
    (Binary.ofFloat x).size = |q| := by
  rw [eq_of_amount h]
  split
  · rw [abs_neg, abs_of_nonneg (Binary.size_nonneg _)]
  · rw [abs_of_nonneg (Binary.size_nonneg _)]

/-- A magnitude is a whole number where the places below one are empty. -/
theorem Binary.size_eq_iff (b : Binary) (n : Nat) :
    b.size = n ↔ if 0 ≤ b.exponent then b.mantissa * 2 ^ b.exponent.toNat = n
      else b.mantissa = n * 2 ^ (-b.exponent).toNat := by
  unfold size
  split
  · rename_i hpos
    obtain ⟨k, hk⟩ := Int.eq_ofNat_of_zero_le hpos
    rw [hk, zpow_natCast, Int.toNat_natCast]
    exact_mod_cast Iff.rfl
  · rename_i hneg
    obtain ⟨k, hk⟩ := Int.eq_ofNat_of_zero_le (by omega : 0 ≤ -b.exponent)
    have hexponent : b.exponent = -(k : Int) := by omega
    rw [hk, hexponent, zpow_neg, zpow_natCast, ← div_eq_mul_inv, div_eq_iff (by positivity),
      Int.toNat_natCast]
    exact_mod_cast Iff.rfl

/-- Whether the magnitude is whole is seen on the digits behind the point. -/
theorem Binary.exists_size_iff (b : Binary) : (∃ n : Nat, b.size = n) ↔
    0 ≤ b.exponent ∨ b.mantissa % 2 ^ (-b.exponent).toNat = 0 := by
  simp only [size_eq_iff]
  by_cases hpos : 0 ≤ b.exponent
  · simp [hpos]
  · simp only [hpos, if_false, false_or]
    constructor
    · rintro ⟨n, hn⟩
      rw [hn, Nat.mul_mod_left]
    · intro hmod
      exact ⟨_, (Nat.div_mul_cancel (Nat.dvd_of_mod_eq_zero hmod)).symm⟩

theorem mantissa_lt (x : Float) : (Binary.ofFloat x).mantissa < 2 ^ 53 := by
  rw [binary_ofFloat]
  split <;> dsimp only <;> omega

/-- Above the least exponent there is a leading digit. -/
theorem le_mantissa {x : Float} (h : -1074 < (Binary.ofFloat x).exponent) :
    2 ^ 52 ≤ (Binary.ofFloat x).mantissa := by
  rw [binary_ofFloat] at h ⊢
  split at h
  · dsimp only at h
    omega
  · rename_i hfield
    rw [if_neg hfield]
    exact Nat.le_add_left _ _

end Decimal

namespace Convert

open Decimal

variable {x : Float} {q : ℚ} {z : Int}

theorem exists_nat_of_abs {q : ℚ} : (∃ n : Nat, |q| = n) ↔ ∃ z : Int, q = z := by
  constructor
  · rintro ⟨n, hn⟩
    rcases abs_eq (Nat.cast_nonneg n) |>.mp hn with rfl | rfl
    · exact ⟨n, rfl⟩
    · exact ⟨-n, by push_cast; rfl⟩
  · rintro ⟨z, rfl⟩
    exact ⟨z.natAbs, by rw [Nat.cast_natAbs, Int.cast_abs]⟩

/-- A float is taken for whole if the number that it stands for is. -/
theorem isWhole_iff (h : amount? x = some q) : isWhole x = true ↔ ∃ z : Int, q = z := by
  rw [← exists_nat_of_abs, ← size_of_amount h, Binary.exists_size_iff, isWhole,
    isFinite_of_amount h]
  simp

theorem truncatedSize_eq {n : Nat} (h : (Binary.ofFloat x).size = n) :
    truncatedSize x = min Text.wordBound n := by
  have hmantissa := mantissa_lt x
  rw [Binary.size_eq_iff] at h
  unfold truncatedSize
  dsimp only
  split at h
  · rename_i hpos
    rw [if_pos hpos]
    split
    · rename_i hlarge
      have hlead := le_mantissa (x := x) (by omega)
      have hpow : 2 ^ 64 ≤ 2 ^ (Binary.ofFloat x).exponent.toNat :=
        Nat.pow_le_pow_right (by decide) (by omega)
      have hbound : Text.wordBound ≤ n := by
        rw [← h, Text.wordBound]
        exact Nat.le_trans hpow (Nat.le_mul_of_pos_left _ (by omega))
      exact (Nat.min_eq_left hbound).symm
    · exact congrArg (min Text.wordBound) h
  · rename_i hneg
    rw [if_neg hneg]
    have hpow := Nat.two_pow_pos (-(Binary.ofFloat x).exponent).toNat
    have hn : n ≤ (Binary.ofFloat x).mantissa := by
      rw [h]
      exact Nat.le_mul_of_pos_right n hpow
    have hbound : n ≤ Text.wordBound := by
      rw [Text.wordBound]
      omega
    rw [Nat.min_eq_right hbound, h]
    exact Nat.mul_div_cancel n hpow

/-- A whole float is cut to the number that it stands for, or to the end of the range beyond
which that is. -/
theorem truncate_eq (h : amount? x = some (z : ℚ)) :
    truncate x = max Text.minInt64 (min Text.maxInt64 z) := by
  have hsize : (Binary.ofFloat x).size = z.natAbs := by
    rw [size_of_amount h, Nat.cast_natAbs, Int.cast_abs]
  have hz := eq_of_amount h
  rw [hsize] at hz
  unfold truncate
  rw [truncatedSize_eq hsize, Text.minInt64, Text.maxInt64, Text.wordBound]
  split at hz
  · rename_i hnegative
    have hvalue : z = -(z.natAbs : Int) :=
      Int.cast_injective (α := ℚ) (by rw [hz, Int.cast_neg, Int.cast_natCast])
    rw [if_pos hnegative]
    omega
  · rename_i hpositive
    have hvalue : z = (z.natAbs : Int) :=
      Int.cast_injective (α := ℚ) (by rw [hz, Int.cast_natCast])
    rw [if_neg hpositive]
    omega

end Convert

end QueryCatalog
