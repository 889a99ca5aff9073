import Mathlib.Tactic.Common
import QueryCatalog.Json.Value

/-!
The equality that matches values is transitive from a scalar on, whatever floats there are.
-/
namespace QueryCatalog

open Float.Model (UnpackedFloat)

/-- The number that a float stands for, if it stands for one; both zeros are the same number. -/
def unsigned? : UnpackedFloat → Option UnpackedFloat
  | .notANumber => none
  | .zero _ => some (.zero .positive)
  | x => some x

theorem compare_parts {e e' : Int} {m m' : Nat} :
    (compare e e').then (compare m m') = .eq ↔ e = e' ∧ m = m' := by
  rw [Ordering.then_eq_eq, Std.compare_eq_iff_eq, Std.compare_eq_iff_eq]

theorem unsigned_of_beq {a b : UnpackedFloat} (h : a.beq b = true) :
    unsigned? a = unsigned? b ∧ (unsigned? a).isSome = true := by
  have hcompare : a.compare b = some .eq := beq_iff_eq.mp h
  rcases a with ⟨_ | _⟩ | _ | _ | ⟨_ | _, m, e, hm⟩ <;>
    rcases b with ⟨_ | _⟩ | _ | _ | ⟨_ | _, m', e', hm'⟩ <;>
    first | exact ⟨rfl, rfl⟩ | cases hcompare | skip
  -- only finite floats of one sign are left
  · obtain ⟨rfl, rfl⟩ := compare_parts.mp (Ordering.swap_eq_eq.mp (Option.some.inj hcompare))
    exact ⟨rfl, rfl⟩
  · obtain ⟨rfl, rfl⟩ := compare_parts.mp (Option.some.inj hcompare)
    exact ⟨rfl, rfl⟩

theorem beq_of_unsigned {a b : UnpackedFloat} (h : unsigned? a = unsigned? b)
    (hsome : (unsigned? a).isSome = true) : a.beq b = true := by
  refine beq_iff_eq.mpr ?_
  rcases a with ⟨_ | _⟩ | _ | _ | ⟨_ | _, m, e, hm⟩ <;>
    rcases b with ⟨_ | _⟩ | _ | _ | ⟨_ | _, m', e', hm'⟩ <;>
    first | rfl | (cases hsome; done) | (cases h; done) | skip
  · cases h
    exact congrArg (some ·.swap) (compare_parts.mpr ⟨rfl, rfl⟩)
  · cases h
    exact congrArg some (compare_parts.mpr ⟨rfl, rfl⟩)

theorem float_beq_symm {a b : Float} (h : (a == b) = true) : (b == a) = true := by
  obtain ⟨heq, hsome⟩ := unsigned_of_beq (a := a.toModel.unpack) (b := b.toModel.unpack) h
  exact beq_of_unsigned (a := b.toModel.unpack) (b := a.toModel.unpack) heq.symm (heq ▸ hsome)

theorem float_beq_trans {a b c : Float} (hab : (a == b) = true) (hbc : (b == c) = true) :
    (a == c) = true := by
  obtain ⟨heq, hsome⟩ := unsigned_of_beq (a := a.toModel.unpack) (b := b.toModel.unpack) hab
  obtain ⟨heq', -⟩ := unsigned_of_beq (a := b.toModel.unpack) (b := c.toModel.unpack) hbc
  exact beq_of_unsigned (a := a.toModel.unpack) (b := c.toModel.unpack) (heq.trans heq') hsome

namespace Json

def isScalar : Json → Bool
  | .bool _ => true
  | .num _ => true
  | .str _ => true
  | _ => false

theorem equals_trans {a b c : Json} (ha : a.isScalar = true) (hab : equals a b = true)
    (hbc : equals b c = true) : equals a c = true := by
  cases a with
  | null => cases ha
  | arr items => cases ha
  | obj fields => cases ha
  | bool x =>
    cases b with
    | bool y =>
      have hxy : x = y := by simpa [equals, BEq.beq, same] using hab
      rw [hxy]
      exact hbc
    | _ => simp [equals, BEq.beq, same] at hab
  | str x =>
    cases b with
    | str y =>
      have hxy : x = y := by simpa [equals, BEq.beq, same] using hab
      rw [hxy]
      exact hbc
    | _ => simp [equals, BEq.beq, same] at hab
  | num x =>
    cases b with
    | num y =>
      cases c with
      | num z => exact float_beq_trans hab hbc
      | _ => simp [equals, BEq.beq, same] at hbc
    | _ => simp [equals, BEq.beq, same] at hab

/-- A scalar equals scalars only. -/
theorem isScalar_of_equals {a b : Json} (ha : a.isScalar = true) (h : equals a b = true) :
    b.isScalar = true := by
  cases a <;> cases b <;> first | rfl | simp [isScalar, equals, BEq.beq, same] at ha h

end Json

end QueryCatalog
