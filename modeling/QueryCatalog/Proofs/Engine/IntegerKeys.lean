import QueryCatalog.Proofs.Decimal.Rounding
import QueryCatalog.Proofs.Engine.Distinct

/-!
Integers as keys. They are compared as floats, so two of them are one key where both are rounded to
the same number; up to 53 binary digits each integer is a key of its own.
-/
namespace QueryCatalog

open Decimal (roundInt)

namespace Json

/-- Integers of 64 bits, with or without a sign. -/
def Word (n : Int) : Prop := -2 ^ 63 ≤ n ∧ n < 2 ^ 64

instance (n : Int) : Decidable (Word n) := inferInstanceAs (Decidable (-2 ^ 63 ≤ n ∧ n < 2 ^ 64))

theorem equals_int {a b : Int} (ha : Word a) (hb : Word b) :
    equals (.int a) (.int b) = (roundInt a == roundInt b) := by
  obtain ⟨hlow, hhigh⟩ := ha
  obtain ⟨hlow', hhigh'⟩ := hb
  rw [Bool.eq_iff_iff, beq_iff_eq]
  exact Decimal.float_ofInt_beq (by omega) (by omega)

theorem equals_short {a b : Int} (ha : a.natAbs ≤ 2 ^ 53) (hb : b.natAbs ≤ 2 ^ 53) :
    equals (.int a) (.int b) = (a == b) := by
  rw [Bool.eq_iff_iff, beq_iff_eq]
  refine (Decimal.float_ofInt_beq (by omega) (by omega)).trans ?_
  rw [Decimal.roundInt_eq_self ha, Decimal.roundInt_eq_self hb]

/-- Of the integers that are rounded to one number the first is kept. -/
theorem foldl_pushUnique_int {ns : List Int} (hns : ∀ n ∈ ns, Word n) :
    (ns.map int).foldl (fun out v => pushUnique out v true) [] =
      (ns.eraseDupsBy fun later first => roundInt first == roundInt later).map int := by
  rw [foldl_pushUnique_eq]
  exact eraseDupsBy_map fun later hlater first hfirst =>
    equals_int (hns first hfirst) (hns later hlater)

theorem foldl_pushUnique_short {ns : List Int} (hns : ∀ n ∈ ns, n.natAbs ≤ 2 ^ 53) :
    (ns.map int).foldl (fun out v => pushUnique out v true) [] = ns.eraseDups.map int := by
  rw [foldl_pushUnique_eq]
  refine eraseDupsBy_map fun later hlater first hfirst => ?_
  rw [equals_short (hns first hfirst) (hns later hlater), BEq.comm]

end Json

open Json (Word)

namespace Fetch

variable {parent fetched : Row} {k : Parameter} {path : String} {a b : Int}

theorem matchesKey_int (hsource : k.sourceName = some path)
    (hparent : parent.path? path = some (.int a))
    (hfetched : fetched.path? k.name = some (.int b)) :
    matchesKey parent fetched k = Json.equals (.int a) (.int b) := by
  rw [matchesKey, hfetched, hsource, Option.bind_some, hparent]
  rfl

theorem matchesKey_of_matchesParent {keys : List Parameter} (hk : k ∈ keys)
    (h : matchesParent keys parent fetched = true) : matchesKey parent fetched k = true :=
  List.all_eq_true.mp h k hk

end Fetch

/-- Of integers that are rounded to one number the first is kept, and rows match by the rounded
numbers. Up to 53 binary digits each integer is kept once, and rows match by the integer itself. -/
theorem integer_keys_are_rounded :
    (∀ ns : List Int, (∀ n ∈ ns, Word n) →
      (ns.map Json.int).foldl (fun out v => Json.pushUnique out v true) [] =
          (ns.eraseDupsBy fun later first => roundInt first == roundInt later).map .int ∧
        ((∀ n ∈ ns, n.natAbs ≤ 2 ^ 53) →
          (ns.map Json.int).foldl (fun out v => Json.pushUnique out v true) [] =
            ns.eraseDups.map .int)) ∧
    ∀ (keys : List Parameter) (parent fetched : Row) (a b : Int), Word a → Word b →
      ∀ k ∈ keys, ∀ path, k.sourceName = some path → parent.path? path = some (.int a) →
        fetched.path? k.name = some (.int b) →
        (Fetch.matchesKey parent fetched k = true ↔ roundInt a = roundInt b) ∧
          (Fetch.matchesParent keys parent fetched = true → roundInt a = roundInt b ∧
            (a.natAbs ≤ 2 ^ 53 → b.natAbs ≤ 2 ^ 53 → a = b)) := by
  refine ⟨fun ns hns => ⟨Json.foldl_pushUnique_int hns, Json.foldl_pushUnique_short⟩, ?_⟩
  intro keys parent fetched a b ha hb k hk path hsource hparent hfetched
  have hmatches : Fetch.matchesKey parent fetched k = true ↔ roundInt a = roundInt b := by
    rw [Fetch.matchesKey_int hsource hparent hfetched, Json.equals_int ha hb, beq_iff_eq]
  refine ⟨hmatches, fun h => ?_⟩
  have hnearest := hmatches.mp (Fetch.matchesKey_of_matchesParent hk h)
  refine ⟨hnearest, fun hshort hshort' => ?_⟩
  rwa [Decimal.roundInt_eq_self hshort, Decimal.roundInt_eq_self hshort'] at hnearest

theorem integer_keys_are_rounded_orders :
    ([3, 2 ^ 53, 3, 2 ^ 53 + 2].map Json.int).foldl (fun out v => Json.pushUnique out v true) [] =
        [.int 3, .int (2 ^ 53), .int (2 ^ 53 + 2)] ∧
      Fetch.matchesKey [("id", .int 3)] [("user_id", .int 3)] (Parameter.userIds none) = true := by
  obtain ⟨hkept, hmatches⟩ := integer_keys_are_rounded
  constructor
  · exact (hkept [3, 2 ^ 53, 3, 2 ^ 53 + 2] (by decide)).1.trans rfl
  · have hrow := hmatches [.userIds none] [("id", .int 3)] [("user_id", .int 3)] 3 3 (by decide)
      (by decide) (.userIds none) List.mem_cons_self "id" rfl rfl rfl
    exact hrow.1.mpr rfl

/-- Of two neighbours beyond 53 digits one is left out, and its rows reach the other one. -/
theorem neighbouring_keys_are_one :
    Word (2 ^ 53) ∧ Word (2 ^ 53 + 1) ∧
      ([2 ^ 53, 2 ^ 53 + 1].map Json.int).foldl (fun out v => Json.pushUnique out v true) [] =
        [.int (2 ^ 53)] ∧
      Fetch.matchesParent [.userIds none] [("id", .int (2 ^ 53))]
        [("user_id", .int (2 ^ 53 + 1))] = true := by
  refine ⟨by decide, by decide, (Json.foldl_pushUnique_int (by decide)).trans rfl, ?_⟩
  have hkey : Fetch.matchesKey [("id", .int (2 ^ 53))] [("user_id", .int (2 ^ 53 + 1))]
      (Parameter.userIds none) = Json.equals (.int (2 ^ 53)) (.int (2 ^ 53 + 1)) :=
    Fetch.matchesKey_int rfl rfl rfl
  rw [Fetch.matchesParent, List.all_cons, List.all_nil, Bool.and_true, hkey,
    Json.equals_int (by decide) (by decide)]
  rfl

end QueryCatalog
