import Mathlib.Algebra.Order.Field.Power
import Mathlib.Data.Rat.Cast.Order
import Mathlib.Tactic.Linarith
import Mathlib.Tactic.Positivity
import Mathlib.Tactic.Ring
import QueryCatalog.Decimal.Significant
import QueryCatalog.Proofs.Json.Equality

/-!
The float nearest to an integer of up to 64 bits. It holds the integer rounded to 53 binary digits,
and to the even one of two that are as near, so integers are the same float where they are rounded
to the same number.
-/
namespace QueryCatalog.Decimal

open Float.Model Float.Model.UnpackedFloat

/-- A quotient is rounded to nearest, and to the even one of two. -/
theorem roundDiv_eq (num den : Nat) : roundDiv num den =
    if 2 * (num % den) < den then num / den
    else if den < 2 * (num % den) then num / den + 1
    else num / den + num / den % 2 := by
  simp only [roundDiv, Bool.or_eq_true, Bool.and_eq_true, decide_eq_true_eq, beq_iff_eq]
  split_ifs <;> omega

/-- What is left of a number when it is cut to its first 53 binary digits, rounded. -/
def roundNat (n : Nat) : Nat := roundDiv n (2 ^ (n.log2 - 52)) * 2 ^ (n.log2 - 52)

def roundInt : Int → Int
  | .ofNat n => roundNat n
  | .negSucc n => -roundNat (n + 1)

/-- The mantissa of a number over `2 ^ k`, and what its two other bits say of the remainder. -/
def CutOf (em : ExtendedMantissa) (n k : Nat) : Prop :=
  ∃ r < 2 ^ k, n = em.mantissa * 2 ^ k + r ∧
    match em.roundBit, em.stickyBit with
    | false, false => r = 0
    | false, true => 0 < r ∧ 2 * r < 2 ^ k
    | true, false => 2 * r = 2 ^ k
    | true, true => 2 ^ k < 2 * r

theorem CutOf.shiftRightOne {em : ExtendedMantissa} {n k : Nat} (h : CutOf em n k) :
    CutOf em.shiftRightOne n (k + 1) := by
  obtain ⟨m, round, sticky⟩ := em
  obtain ⟨r, hr, hn, hbits⟩ := h
  have hpow : 2 ^ (k + 1) = 2 * 2 ^ k := by rw [Nat.pow_succ, Nat.mul_comm]
  have hsplit : m * 2 ^ k = m / 2 * (2 * 2 ^ k) + m % 2 * 2 ^ k := by
    rw [← Nat.mul_assoc, ← Nat.add_mul, Nat.mul_comm (m / 2), Nat.div_add_mod]
  refine ⟨m % 2 * 2 ^ k + r, ?_, ?_, ?_⟩
  · rcases Nat.mod_two_eq_zero_or_one m with hm | hm <;> rw [hm, hpow] <;> omega
  · simp only [ExtendedMantissa.shiftRightOne, hpow] at hn ⊢
    omega
  · rcases Nat.mod_two_eq_zero_or_one m with hm | hm <;> cases round <;> cases sticky <;>
      simp [ExtendedMantissa.shiftRightOne, hm, hpow] at hbits ⊢ <;> omega

theorem cutOf_shiftRight (n k : Nat) :
    CutOf (ExtendedMantissa.ofMantissaAndAccuracy n .exact >>> k) n k := by
  induction k with
  | zero =>
    refine ⟨0, Nat.one_pos, ?_, rfl⟩
    simp [ExtendedMantissa.ofMantissaAndAccuracy, HShiftRight.hShiftRight, Nat.repeat]
  | succ k ih => exact ih.shiftRightOne

theorem CutOf.roundedMantissa {em : ExtendedMantissa} {n k : Nat} (h : CutOf em n k) :
    em.roundedMantissa = roundDiv n (2 ^ k) := by
  obtain ⟨m, round, sticky⟩ := em
  obtain ⟨r, hr, hn, hbits⟩ := h
  have hdiv : n / 2 ^ k = m := by
    rw [hn, Nat.mul_comm, Nat.mul_add_div (Nat.two_pow_pos k), Nat.div_eq_of_lt hr, Nat.add_zero]
  have hmod : n % 2 ^ k = r := by
    rw [hn, Nat.mul_comm, Nat.mul_add_mod, Nat.mod_eq_of_lt hr]
  rw [roundDiv_eq, hdiv, hmod]
  cases round <;> cases sticky <;>
    simp only [ExtendedMantissa.roundedMantissa, ExtendedMantissa.accuracy,
      Accuracy.roundToNearestEven] at hbits ⊢ <;>
    split_ifs <;> omega

theorem roundDiv_bounds (num den : Nat) :
    num / den ≤ roundDiv num den ∧ roundDiv num den ≤ num / den + 1 := by
  rw [roundDiv_eq]
  split_ifs <;> omega

/-- From 53 digits on, the digits that are kept make a whole mantissa, or the number after it. -/
theorem roundDiv_range {n : Nat} (hn : 52 ≤ n.log2) :
    2 ^ 52 ≤ roundDiv n (2 ^ (n.log2 - 52)) ∧ roundDiv n (2 ^ (n.log2 - 52)) ≤ 2 ^ 53 := by
  have hne : n ≠ 0 := by
    rintro rfl
    simp at hn
  have hlog : n.log2 = 52 + (n.log2 - 52) := by omega
  have hlow : 2 ^ 52 * 2 ^ (n.log2 - 52) ≤ n := by
    rw [← Nat.pow_add, ← hlog]
    exact Nat.log2_self_le hne
  have hhigh : n < 2 ^ 53 * 2 ^ (n.log2 - 52) := by
    rw [← Nat.pow_add, show 53 + (n.log2 - 52) = n.log2 + 1 by omega]
    exact Nat.lt_log2_self
  have hdiv := (Nat.le_div_iff_mul_le (Nat.two_pow_pos (n.log2 - 52))).mpr hlow
  have hdiv' := (Nat.div_lt_iff_lt_mul (Nat.two_pow_pos (n.log2 - 52))).mpr hhigh
  have hbounds := roundDiv_bounds n (2 ^ (n.log2 - 52))
  omega

theorem targetExponent_eq (m : Nat) (e : Int) :
    Format.binary64.targetExponent (totalExponent m e) = max (m.log2 + 1 + e - 53) (-1074) := rfl

theorem shiftToTarget_eq {n k : Nat} {e : Int}
    (hk : Format.binary64.targetExponent (totalExponent n e) = e + k) :
    shiftToTargetExponent Format.binary64 n e .exact =
      (ExtendedMantissa.ofMantissaAndAccuracy n .exact >>> k, e + k) := by
  simp only [shiftToTargetExponent, shiftToExponent, hk]
  rw [show (e + (k : Int) - e).toNat = k by omega]

/-- The mantissa is cut and rounded, and what comes of it is cut to its target once more. -/
theorem roundWithAccuracy_of_cuts {s : Sign} {n r m : Nat} {e e₁ e₂ : Int}
    {em em' : ExtendedMantissa}
    (hcut : shiftToTargetExponent Format.binary64 n e .exact = (em, e₁))
    (hround : em.roundedMantissa = r)
    (hcut' : shiftToTargetExponent Format.binary64 r e₁ .exact = (em', e₂))
    (hmantissa : em'.mantissa = m) (hm : 0 < m) :
    roundWithAccuracy Format.binary64 s n e .exact = .finite s m e₂ hm := by
  subst hround hmantissa
  unfold roundWithAccuracy
  rw [hcut]
  dsimp only
  rw [hcut']
  exact dif_neg hm.ne'

/-- Rounding makes 53 digits of a number that has no fewer. -/
theorem roundWithAccuracy_eq {s : Sign} {n : Nat} {e : Int} (hn : 52 ≤ n.log2) (he : -1074 ≤ e) :
    ∃ m e' hm, roundWithAccuracy Format.binary64 s n e .exact = .finite s m e' hm ∧
      m.log2 = 52 ∧ e ≤ e' ∧ e' ≤ e + (n.log2 - 51) ∧ m * 2 ^ (e' - e).toNat = roundNat n := by
  set k := n.log2 - 52 with hk
  have htarget : Format.binary64.targetExponent (totalExponent n e) = e + k := by
    rw [targetExponent_eq]
    omega
  have hmantissa := (cutOf_shiftRight n k).roundedMantissa
  obtain ⟨hlow, hhigh⟩ := roundDiv_range hn
  rw [← hk] at hlow hhigh
  by_cases hsmall : roundDiv n (2 ^ k) < 2 ^ 53
  · have hlog : (roundDiv n (2 ^ k)).log2 = 52 := (Nat.log2_eq_iff (by omega)).mpr ⟨hlow, hsmall⟩
    have hsame : Format.binary64.targetExponent (totalExponent (roundDiv n (2 ^ k)) (e + k)) =
        e + k + (0 : Nat) := by
      rw [targetExponent_eq, hlog]
      omega
    have hround := roundWithAccuracy_of_cuts (s := s) (m := roundDiv n (2 ^ k))
      (shiftToTarget_eq htarget) hmantissa (shiftToTarget_eq hsame) rfl (by omega)
    refine ⟨_, _, _, hround, hlog, by omega, by omega, ?_⟩
    rw [roundNat, ← hk, show (e + (k : Int) + (0 : Nat) - e).toNat = k by omega]
  · have hfull : roundDiv n (2 ^ k) = 2 ^ 53 := by omega
    have hnext : Format.binary64.targetExponent (totalExponent (2 ^ 53) (e + k)) =
        e + k + (1 : Nat) := by
      rw [targetExponent_eq, Nat.log2_two_pow]
      omega
    have hround := roundWithAccuracy_of_cuts (s := s) (m := 2 ^ 52) (shiftToTarget_eq htarget)
      (hmantissa.trans hfull) (shiftToTarget_eq hnext) rfl (Nat.two_pow_pos 52)
    refine ⟨_, _, _, hround, Nat.log2_two_pow, by omega, by omega, ?_⟩
    rw [roundNat, ← hk, hfull, show (e + (k : Int) + (1 : Nat) - e).toNat = k + 1 by omega,
      Nat.pow_succ]
    ring

theorem toNat_append_one (m : BitVec 52) : (1#1 ++ m).toNat = 2 ^ 52 + m.toNat := by
  rw [BitVec.toNat_append, ← Nat.shiftLeft_add_eq_or_of_lt m.isLt]
  rfl

theorem unpackSign_packComponents {spec : Format} (s : Sign) (e : BitVec spec.exponentBits)
    (m : BitVec spec.mantissaBitsWithoutImplicit) :
    unpackSign (packComponents spec s e m) = s.toBitVec := by
  unfold unpackSign packComponents
  -- the sign stands before the exponent and the mantissa
  rw [BitVec.extractLsb, BitVec.extractLsb'_append_eq_of_le (Nat.le_add_right _ _),
    BitVec.extractLsb'_append_eq_of_le (Nat.le_sub_of_add_le' le_rfl)]
  refine BitVec.eq_of_toNat_eq ?_
  simp [Nat.mod_eq_of_lt s.toBitVec.isLt]

theorem finite_eq {s s' : Sign} {m m' : Nat} {e e' : Int} {hm : 0 < m} {hm' : 0 < m'}
    (hsign : s = s') (hmantissa : m = m') (hexponent : e = e') :
    UnpackedFloat.finite s m e hm = .finite s' m' e' hm' := by
  subst hsign hmantissa hexponent
  rfl

/-- Away from both ends of the exponents, the first digit is not among the bits. -/
theorem unpack_normal {b : BitVec Format.binary64.numBits} (hlast : unpackExponent b ≠ -1#_)
    (hfirst : unpackExponent b ≠ 0#_) :
    ∃ hm, unpack Format.binary64 b = .finite (.ofBitVec (unpackSign b))
      (1#1 ++ unpackMantissa b).toNat ((unpackExponent b).toNat - 1075) hm :=
  ⟨_, (if_neg hlast).trans (if_neg hfirst)⟩

/-- A number of 53 digits comes back from its bits. -/
theorem unpack_pack {s : Sign} {m : Nat} {e : Int} {hm : 0 < m} (hlog : m.log2 = 52)
    (hlow : -1074 ≤ e) (hhigh : e ≤ 971) :
    unpack Format.binary64 (pack Format.binary64 (.finite s m e hm)) = .finite s m e hm := by
  obtain ⟨hfirst, hlast⟩ := (Nat.log2_eq_iff hm.ne').mp hlog
  have hbias : Format.binary64.exponentBias = 1023 := rfl
  obtain ⟨b, hb⟩ : ∃ b : Nat, e + 1023 + 52 = b := ⟨(e + 1023 + 52).toNat, by omega⟩
  have hexponent : (BitVec.ofNat Format.binary64.exponentBits b).toNat = b := by
    rw [BitVec.toNat_ofNat, Nat.mod_eq_of_lt (by simp; omega)]
  have hmantissa : (1#1 ++ BitVec.ofNat 52 m).toNat = m := by
    rw [toNat_append_one, BitVec.toNat_ofNat]
    omega
  have hnotlast : BitVec.ofNat Format.binary64.exponentBits b ≠ -1#_ := by
    intro h
    have hnat := congrArg BitVec.toNat h
    rw [hexponent] at hnat
    have hones : (-(BitVec.ofNat Format.binary64.exponentBits 1)).toNat = 2047 := rfl
    omega
  have hnotfirst : BitVec.ofNat Format.binary64.exponentBits b ≠ 0#_ := by
    intro h
    have hnat := congrArg BitVec.toNat h
    rw [hexponent] at hnat
    simp at hnat
    omega
  have hpack : pack Format.binary64 (.finite s m e hm) =
      packComponents Format.binary64 s (BitVec.ofNat _ b) (BitVec.ofNat _ m) := by
    unfold UnpackedFloat.pack
    simp only [hbias]
    have hto : (e + ((1023 : Nat) : Int) + ((52 : Nat) : Int)).toNat = b := by omega
    rw [hto, if_neg (by omega), if_pos (by rw [hlog]; rfl)]
  obtain ⟨hm', hunpack⟩ := unpack_normal
    (b := packComponents Format.binary64 s (BitVec.ofNat _ b) (BitVec.ofNat _ m))
    (by rwa [unpackExponent_packComponents]) (by rwa [unpackExponent_packComponents])
  rw [hpack, hunpack]
  refine finite_eq ?_ ?_ ?_
  · rw [unpackSign_packComponents]
    cases s <;> rfl
  · rw [unpackMantissa_packComponents, hmantissa]
  · rw [unpackExponent_packComponents, hexponent]
    omega

/-- The float holds a number of 53 digits with a sign, after moving it by some places. -/
def Stands (x : Float) (s : Sign) (n : Nat) : Prop :=
  ∃ m e hm, x.toModel.unpack = .finite s m e hm ∧ m.log2 = 52 ∧ -53 ≤ e ∧ e ≤ 971 ∧
    m * 2 ^ (e + 53).toNat = n * 2 ^ 53

theorem log2_moved {m : Nat} (hm : m ≠ 0) (i : Nat) : (m * 2 ^ i).log2 = m.log2 + i := by
  have hpow := Nat.two_pow_pos i
  refine (Nat.log2_eq_iff (Nat.mul_ne_zero hm hpow.ne')).mpr ⟨?_, ?_⟩
  · rw [Nat.pow_add]
    exact Nat.mul_le_mul_right _ (Nat.log2_self_le hm)
  · rw [show m.log2 + i + 1 = m.log2 + 1 + i by omega, Nat.pow_add]
    exact Nat.mul_lt_mul_of_pos_right Nat.lt_log2_self hpow

/-- The digits and the place of a number are its own. -/
theorem eq_of_moved {m m' i j : Nat} (hm : m.log2 = 52) (hm' : m'.log2 = 52)
    (h : m * 2 ^ i = m' * 2 ^ j) : m = m' ∧ i = j := by
  have hne : m ≠ 0 := by
    rintro rfl
    simp at hm
  have hne' : m' ≠ 0 := by
    rintro rfl
    simp at hm'
  have hlog := congrArg Nat.log2 h
  rw [log2_moved hne, log2_moved hne', hm, hm'] at hlog
  obtain rfl : i = j := by omega
  exact ⟨Nat.eq_of_mul_eq_mul_right (Nat.two_pow_pos i) h, rfl⟩

theorem Stands.beq_iff {x y : Float} {s t : Sign} {a b : Nat} (hx : Stands x s a)
    (hy : Stands y t b) : (x == y) = true ↔ s = t ∧ a = b := by
  obtain ⟨m, e, hm, hux, hlog, hlow, -, ha⟩ := hx
  obtain ⟨m', e', hm', huy, hlog', hlow', -, hb⟩ := hy
  constructor
  · intro h
    have heq := (unsigned_of_beq (a := x.toModel.unpack) (b := y.toModel.unpack) h).1
    rw [hux, huy] at heq
    cases Option.some.inj heq
    exact ⟨rfl, Nat.eq_of_mul_eq_mul_right (Nat.two_pow_pos 53) (ha.symm.trans hb)⟩
  · rintro ⟨rfl, rfl⟩
    obtain ⟨rfl, hplace⟩ := eq_of_moved hlog hlog' (ha.trans hb.symm)
    obtain rfl : e = e' := by omega
    refine beq_of_unsigned (a := x.toModel.unpack) (b := y.toModel.unpack) ?_ ?_
    · rw [hux, huy]
    · rw [hux]
      rfl

theorem Stands.neg {x : Float} {s : Sign} {n : Nat} (h : Stands x s n) : Stands (-x) (-s) n := by
  obtain ⟨m, e, hm, hunpack, hlog, hlow, hhigh, hn⟩ := h
  refine ⟨m, e, hm, ?_, hlog, hlow, hhigh, hn⟩
  change unpack Format.binary64 (pack Format.binary64 x.toModel.unpack.neg) = _
  rw [hunpack]
  exact unpack_pack hlog (by omega) hhigh

theorem roundDiv_mul (num den : Nat) {c : Nat} (hc : 0 < c) :
    roundDiv (num * c) (den * c) = roundDiv num den := by
  have hdouble : 2 * (num % den * c) = 2 * (num % den) * c := by rw [Nat.mul_assoc]
  rw [roundDiv_eq, roundDiv_eq, Nat.mul_div_mul_right _ _ hc, Nat.mul_mod_mul_right, hdouble]
  simp only [Nat.mul_lt_mul_right hc]

theorem roundNat_moved {n : Nat} (hn : 52 ≤ n.log2) (j : Nat) :
    roundNat (n * 2 ^ j) = roundNat n * 2 ^ j := by
  have hne : n ≠ 0 := by
    rintro rfl
    simp at hn
  unfold roundNat
  rw [log2_moved hne, show n.log2 + j - 52 = n.log2 - 52 + j by omega, Nat.pow_add,
    roundDiv_mul _ _ (Nat.two_pow_pos j), Nat.mul_assoc]

theorem roundNat_short {n : Nat} (hn : n < 2 ^ 53) : roundNat n = n := by
  have hlog : n.log2 - 52 = 0 := by
    by_cases hzero : n = 0
    · simp [hzero]
    · have := (Nat.log2_lt hzero).mpr hn
      omega
  rw [roundNat, hlog, roundDiv_eq]
  simp [Nat.mod_one]

theorem stands_ofNat_long {n : Nat} (hlong : 2 ^ 53 ≤ n) (hn : n < 2 ^ 64) :
    Stands (Float.ofNat n) .positive (roundNat n) := by
  have hne : n ≠ 0 := by omega
  have hlow := (Nat.le_log2 hne).mpr hlong
  have hhigh := (Nat.log2_lt hne).mpr hn
  have hmodel : Float.ofNat n = .ofModel (Float.Model.ofScientific n 0) := by
    have hslow : ¬ (n < 2 ^ 53 ∧ 0 ≤ 22) := by omega
    simp only [Float.ofNat, OfScientific.ofScientific, Float.ofScientific, dif_neg hslow]
    rfl
  have hround : UnpackedFloat.ofScientific Format.binary64 n 0 =
      roundWithAccuracy Format.binary64 .positive (n * 2 ^ 53) (-53) .exact := by
    have hlarge : ¬ (0 : Int) > 2 ^ Format.binary64.exponentBits := by decide
    have htiny : ¬ (0 : Int) < -((2 ^ Format.binary64.exponentBits : Int) + n.log2) := by
      have hpos : (0 : Int) ≤ 2 ^ Format.binary64.exponentBits := by decide
      omega
    rw [UnpackedFloat.ofScientific, dif_neg hne, if_neg hlarge, if_neg htiny, if_pos le_rfl]
    change roundWithAccuracy Format.binary64 .positive ((n <<< 53) * 1) (-53) .exact = _
    rw [Nat.shiftLeft_eq, Nat.mul_one]
  have hlog : (n * 2 ^ 53).log2 = n.log2 + 53 := log2_moved hne 53
  obtain ⟨m, e, hm, hexact, hdigits, hleft, hright, hvalue⟩ :=
    roundWithAccuracy_eq (s := .positive) (n := n * 2 ^ 53) (e := -53) (by omega) (by omega)
  refine ⟨m, e, hm, ?_, hdigits, hleft, by omega, ?_⟩
  · rw [hmodel]
    change unpack Format.binary64 (pack Format.binary64
      (UnpackedFloat.ofScientific Format.binary64 n 0)) = _
    rw [hround, hexact]
    exact unpack_pack hdigits (by omega) (by omega)
  · rw [← roundNat_moved (by omega), ← hvalue, sub_neg_eq_add]

/-- A mantissa of 53 digits, with or without zeros behind it, is rounded to itself. -/
theorem roundWithAccuracy_exact {s : Sign} {m : Nat} {e : Int} (hm : 0 < m) (hlog : m.log2 = 52)
    (he : -1074 ≤ e) (j : Nat) : roundWithAccuracy Format.binary64 s (m * 2 ^ j) e .exact =
      .finite s m (e + j) hm := by
  have hshort := roundNat_short ((Nat.log2_lt hm.ne').mp (by omega : m.log2 < 53))
  have hmoved : (m * 2 ^ j).log2 = m.log2 + j := log2_moved hm.ne' j
  obtain ⟨m', e', hm', hexact, hdigits, hleft, -, hvalue⟩ :=
    roundWithAccuracy_eq (s := s) (n := m * 2 ^ j) (e := e) (by omega) he
  rw [roundNat_moved (by omega), hshort] at hvalue
  obtain ⟨rfl, hplace⟩ := eq_of_moved hdigits hlog hvalue
  obtain rfl : e' = e + j := by omega
  exact hexact

theorem ofNat_short {n : Nat} (hpos : 0 < n) (hn : n < 2 ^ 53) (hm : 0 < n * 2 ^ (52 - n.log2)) :
    UnpackedFloat.ofNat Format.binary64 n =
      .finite .positive (n * 2 ^ (52 - n.log2)) (n.log2 - 52) hm := by
  have hlog := (Nat.log2_lt hpos.ne').mpr hn
  have htarget : Format.binary64.targetExponent (totalExponent n 0) = n.log2 - 52 := by
    rw [targetExponent_eq]
    omega
  have hmoved : (n * 2 ^ (52 - n.log2)).log2 = 52 := by
    rw [log2_moved hpos.ne']
    omega
  have hround := roundWithAccuracy_exact (s := .positive) hm hmoved
    (e := n.log2 - 52) (by omega) 0
  have hcompare : compare (n : Int) 0 = .gt := Int.compare_eq_gt.mpr (by omega)
  have hnormalize : UnpackedFloat.ofNat Format.binary64 n =
      UnpackedFloat.round Format.binary64 .positive n 0 := by
    unfold UnpackedFloat.ofNat UnpackedFloat.ofInt UnpackedFloat.normalize
    rw [hcompare]
    rfl
  have hshift : decreaseExponent n 0 (n.log2 - 52) =
      (n * 2 ^ (52 - n.log2), (n.log2 : Int) - 52) := by
    refine Prod.ext ?_ ?_
    · change n <<< ((0 : Int) - (n.log2 - 52)).toNat = n * 2 ^ (52 - n.log2)
      rw [show ((0 : Int) - (n.log2 - 52)).toNat = 52 - n.log2 by omega, Nat.shiftLeft_eq]
    · change (0 : Int) - ((0 : Int) - (n.log2 - 52)).toNat = n.log2 - 52
      omega
  rw [Nat.pow_zero, Nat.mul_one, Int.natCast_zero, Int.add_zero] at hround
  rw [hnormalize]
  unfold UnpackedFloat.round
  rw [htarget]
  dsimp only
  rw [hshift]
  exact hround

theorem stands_ofNat_short {n : Nat} (hpos : 0 < n) (hn : n < 2 ^ 53) :
    Stands (Float.ofNat n) .positive (roundNat n) := by
  have hlog := (Nat.log2_lt hpos.ne').mpr hn
  have hm : 0 < n * 2 ^ (52 - n.log2) := Nat.mul_pos hpos (Nat.two_pow_pos _)
  have hmoved : (n * 2 ^ (52 - n.log2)).log2 = 52 := by
    rw [log2_moved hpos.ne']
    omega
  -- short numbers are multiplied by one
  have hmodel : Float.ofNat n = n.toUInt64.toFloat * Float.ofBits 0x3FF0000000000000 := by
    have hfast : n < 2 ^ 53 ∧ 0 ≤ 22 := by omega
    simp only [Float.ofNat, OfScientific.ofScientific, Float.ofScientific, dif_pos hfast]
    rfl
  have hone : (Float.ofBits 0x3FF0000000000000).toModel.unpack =
      .finite .positive (2 ^ 52) (-52) (by decide) := rfl
  have hword : n.toUInt64.toNat = n := Nat.mod_eq_of_lt (by omega)
  have hfactor : n.toUInt64.toFloat.toModel.unpack =
      .finite .positive (n * 2 ^ (52 - n.log2)) (n.log2 - 52) hm := by
    change unpack Format.binary64 (pack Format.binary64
      (UnpackedFloat.ofNat Format.binary64 n.toUInt64.toNat)) = _
    rw [hword, ofNat_short hpos hn hm]
    exact unpack_pack hmoved (by omega) (by omega)
  refine ⟨n * 2 ^ (52 - n.log2), n.log2 - 52, hm, ?_, hmoved, by omega, by omega, ?_⟩
  · have hround := roundWithAccuracy_exact (s := .positive * .positive) hm hmoved
      (e := n.log2 - 52 + -52) (by omega) 52
    rw [hmodel]
    change unpack Format.binary64 (pack Format.binary64 (UnpackedFloat.mul Format.binary64
      n.toUInt64.toFloat.toModel.unpack (Float.ofBits 0x3FF0000000000000).toModel.unpack)) = _
    rw [hfactor, hone]
    change unpack Format.binary64 (pack Format.binary64 (roundWithAccuracy Format.binary64 _
      (n * 2 ^ (52 - n.log2) * 2 ^ 52) _ .exact)) = _
    rw [hround, show (n.log2 : Int) - 52 + -52 + (52 : Nat) = n.log2 - 52 by omega]
    exact unpack_pack hmoved (by omega) (by omega)
  · rw [roundNat_short hn, Nat.mul_assoc, ← Nat.pow_add]
    congr 2
    omega

theorem stands_ofNat {n : Nat} (hpos : 0 < n) (hn : n < 2 ^ 64) :
    Stands (Float.ofNat n) .positive (roundNat n) := by
  rcases Nat.lt_or_ge n (2 ^ 53) with hshort | hlong
  · exact stands_ofNat_short hpos hshort
  · exact stands_ofNat_long hlong hn

theorem isFinite_ofNat {n : Nat} (hpos : 0 < n) (hn : n < 2 ^ 64) :
    (Float.ofNat n).isFinite = true := by
  obtain ⟨m, e, hm, hunpack, -⟩ := stands_ofNat hpos hn
  change (Float.ofNat n).toModel.unpack.isFinite = true
  rw [hunpack]
  rfl

theorem roundNat_pos {n : Nat} (hpos : 0 < n) : 0 < roundNat n := by
  rcases Nat.lt_or_ge n (2 ^ 53) with hshort | hlong
  · rwa [roundNat_short hshort]
  · have hlog := (Nat.le_log2 hpos.ne').mpr hlong
    have hrange := roundDiv_range (n := n) (by omega)
    exact Nat.mul_pos (by omega) (Nat.two_pow_pos _)

/-- A number that a float stands for is not zero. -/
theorem Stands.ne_zero {x : Float} {s : Sign} {n : Nat} (h : Stands x s n) :
    (x == Float.ofNat 0) = false ∧ (Float.ofNat 0 == x) = false := by
  obtain ⟨m, e, hm, hunpack, -⟩ := h
  have hzero : (Float.ofNat 0).toModel.unpack = .zero .positive := rfl
  constructor
  · change UnpackedFloat.beq x.toModel.unpack (Float.ofNat 0).toModel.unpack = false
    rw [hunpack, hzero]
    cases s <;> rfl
  · change UnpackedFloat.beq (Float.ofNat 0).toModel.unpack x.toModel.unpack = false
    rw [hunpack, hzero]
    cases s <;> rfl

theorem float_ofNat_beq {a b : Nat} (ha : a < 2 ^ 64) (hb : b < 2 ^ 64) :
    (Float.ofNat a == Float.ofNat b) = true ↔ roundNat a = roundNat b := by
  have hzero : roundNat 0 = 0 := roundNat_short (by decide)
  rcases Nat.eq_zero_or_pos a with rfl | hapos <;> rcases Nat.eq_zero_or_pos b with rfl | hbpos
  · exact iff_of_true (by decide) rfl
  · rw [(stands_ofNat hbpos hb).ne_zero.2, hzero]
    exact iff_of_false Bool.false_ne_true (roundNat_pos hbpos).ne
  · rw [(stands_ofNat hapos ha).ne_zero.1, hzero]
    exact iff_of_false Bool.false_ne_true (roundNat_pos hapos).ne'
  · rw [(stands_ofNat hapos ha).beq_iff (stands_ofNat hbpos hb)]
    exact and_iff_right rfl

/-- A number and a negative one are different floats. -/
theorem float_ofNat_negSucc {a b : Nat} (ha : a < 2 ^ 64) (hb : b + 1 < 2 ^ 64) :
    (Float.ofNat a == Float.ofInt (.negSucc b)) = false ∧
      (Float.ofInt (.negSucc b) == Float.ofNat a) = false := by
  have hneg : Stands (Float.ofInt (.negSucc b)) .negative (roundNat (b + 1)) :=
    (stands_ofNat (Nat.succ_pos b) hb).neg
  rcases Nat.eq_zero_or_pos a with rfl | hapos
  · exact hneg.ne_zero.symm
  · have hpos := stands_ofNat hapos ha
    rw [← Bool.not_eq_true, hpos.beq_iff hneg, ← Bool.not_eq_true, hneg.beq_iff hpos]
    exact ⟨fun h => (nomatch h.1), fun h => (nomatch h.1)⟩

/-- Integers are told apart as floats where they are when rounded to 53 digits. -/
theorem float_ofInt_beq {a b : Int} (ha : a.natAbs < 2 ^ 64) (hb : b.natAbs < 2 ^ 64) :
    (Float.ofInt a == Float.ofInt b) = true ↔ roundInt a = roundInt b := by
  cases a with
  | ofNat a =>
    cases b with
    | ofNat b => exact (float_ofNat_beq ha hb).trans Int.natCast_inj.symm
    | negSucc b =>
      have hpos : 0 < roundNat (b + 1) := roundNat_pos (Nat.succ_pos b)
      have hne : (roundNat a : Int) ≠ -roundNat (b + 1) := by omega
      exact iff_of_false (Bool.not_eq_true _ ▸ (float_ofNat_negSucc ha hb).1) hne
  | negSucc a =>
    have hpos : 0 < roundNat (a + 1) := roundNat_pos (Nat.succ_pos a)
    cases b with
    | ofNat b =>
      have hne : -(roundNat (a + 1) : Int) ≠ roundNat b := by omega
      exact iff_of_false (Bool.not_eq_true _ ▸ (float_ofNat_negSucc hb ha).2) hne
    | negSucc b =>
      have hsame : (-(roundNat (a + 1) : Int) = -roundNat (b + 1)) ↔
          roundNat (a + 1) = roundNat (b + 1) := by omega
      refine ((stands_ofNat (Nat.succ_pos a) ha).neg.beq_iff
        (stands_ofNat (Nat.succ_pos b) hb).neg).trans ?_
      exact (and_iff_right rfl).trans hsame.symm

/-- Up to 53 digits nothing is rounded. -/
theorem roundInt_eq_self {n : Int} (hn : n.natAbs ≤ 2 ^ 53) : roundInt n = n := by
  have hnat : ∀ m : Nat, m ≤ 2 ^ 53 → roundNat m = m := by
    intro m hm
    rcases Nat.lt_or_eq_of_le hm with hshort | rfl
    · exact roundNat_short hshort
    · decide
  cases n with
  | ofNat m => rw [roundInt, hnat m hn]; rfl
  | negSucc m => rw [roundInt, hnat (m + 1) hn]; rfl

end QueryCatalog.Decimal
