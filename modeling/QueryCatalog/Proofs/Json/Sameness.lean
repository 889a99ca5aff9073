import Mathlib.Data.List.Perm.Subperm
import QueryCatalog.Proofs.Json.Everywhere

/-!
Sameness of documents is symmetric and transitive, in whatever order their objects hold the fields.
-/
namespace QueryCatalog

namespace Json

theorem mem_of_get? {row : Row} {key : String} {v : Json} (h : row.get? key = some v) :
    (key, v) ∈ row :=
  Dictionary.mem_of_find? h

theorem same_obj_iff {fields row : Row} :
    same (.obj fields) (.obj row) = true ↔ fields.length = row.length ∧
      ∀ field ∈ fields, ∃ w, row.get? field.1 = some w ∧ same field.2 w = true := by
  rw [same, Bool.and_eq_true, beq_iff_eq, sameFields_iff]

theorem number_same_symm {m n : Number} (h : (m == n) = true) : (n == m) = true := by
  cases m with
  | int a =>
    cases n with
    | int b =>
      exact BEq.symm (a := a) h
    | float y => cases h
  | float x =>
    cases n with
    | int b => cases h
    | float y => exact float_beq_symm h

theorem number_same_trans {l m n : Number} (hlm : (l == m) = true) (hmn : (m == n) = true) :
    (l == n) = true := by
  cases l with
  | int a =>
    cases m with
    | int b =>
      cases n with
      | int c => exact BEq.trans (a := a) (b := b) hlm hmn
      | float z => cases hmn
    | float y => cases hlm
  | float x =>
    cases m with
    | int b => cases hlm
    | float y =>
      cases n with
      | int c => cases hmn
      | float z => exact float_beq_trans hlm hmn

theorem sameItems_symm {as bs : List Json}
    (h : ∀ a ∈ as, ∀ b ∈ bs, same a b = true → same b a = true) (hab : sameItems as bs = true) :
    sameItems bs as = true := by
  induction as generalizing bs with
  | nil =>
    cases bs with
    | nil => rfl
    | cons b bs => cases hab
  | cons a as ih =>
    cases bs with
    | nil => cases hab
    | cons b bs =>
      rw [sameItems, Bool.and_eq_true] at hab ⊢
      refine ⟨h a List.mem_cons_self b List.mem_cons_self hab.1, ih (fun a' ha b' hb => ?_) hab.2⟩
      exact h a' (List.mem_cons_of_mem _ ha) b' (List.mem_cons_of_mem _ hb)

theorem sameItems_trans {as bs cs : List Json}
    (h : ∀ a ∈ as, ∀ b c, same a b = true → same b c = true → same a c = true)
    (hab : sameItems as bs = true) (hbc : sameItems bs cs = true) : sameItems as cs = true := by
  induction as generalizing bs cs with
  | nil =>
    cases bs with
    | nil => exact hbc
    | cons b bs => cases hab
  | cons a as ih =>
    cases bs with
    | nil => cases hab
    | cons b bs =>
      cases cs with
      | nil => cases hbc
      | cons c cs =>
        rw [sameItems, Bool.and_eq_true] at hab hbc ⊢
        refine ⟨h a List.mem_cons_self b c hab.1 hbc.1, ih (fun a' ha => ?_) hab.2 hbc.2⟩
        exact h a' (List.mem_cons_of_mem _ ha)

/-- Objects that are the same have the same names. -/
theorem names_perm {fields row : Row} (hnodup : (fields.map (·.1)).Nodup)
    (h : same (.obj fields) (.obj row) = true) :
    (fields.map (·.1)).Perm (row.map (·.1)) := by
  obtain ⟨hlength, hfields⟩ := same_obj_iff.mp h
  have hsubset : fields.map (·.1) ⊆ row.map (·.1) := by
    intro name hname
    obtain ⟨field, hfield, rfl⟩ := List.mem_map.mp hname
    obtain ⟨w, hget, -⟩ := hfields field hfield
    exact List.mem_map.mpr ⟨_, mem_of_get? hget, rfl⟩
  refine (List.subperm_of_subset hnodup hsubset).perm_of_length_le (Nat.le_of_eq ?_)
  rw [List.length_map, List.length_map, hlength]

theorem same_symm {v w : Json} (hv : v.Everywhere Regular) (hw : w.Everywhere Regular)
    (h : same v w = true) : same w v = true := by
  induction v using Json.induction generalizing w with
  | null =>
    cases w with
    | null => rfl
    | _ => cases h
  | bool b =>
    cases w with
    | bool c => exact BEq.symm (a := b) h
    | _ => cases h
  | num m =>
    cases w with
    | num n => exact number_same_symm h
    | _ => cases h
  | str s =>
    cases w with
    | str t => exact BEq.symm (a := s) h
    | _ => cases h
  | arr items ih =>
    cases w with
    | arr others =>
      rw [everywhere_arr] at hv hw
      rw [same] at h ⊢
      exact sameItems_symm (fun a ha b hb => ih a ha (hv.2 a ha) (hw.2 b hb)) h
    | _ => cases h
  | obj fields ih =>
    cases w with
    | obj row =>
      rw [everywhere_obj] at hv hw
      obtain ⟨hlength, hfields⟩ := same_obj_iff.mp h
      refine same_obj_iff.mpr ⟨hlength.symm, fun field hfield => ?_⟩
      -- no name is left over on the other side, since there are as many
      have hname := (names_perm hv.1 h).mem_iff.mpr (List.mem_map_of_mem hfield)
      obtain ⟨own, hown, heq⟩ := List.mem_map.mp hname
      obtain ⟨found, hget, hsame⟩ := hfields own hown
      rw [heq, get?_of_mem hw.1 hfield, Option.some.injEq] at hget
      subst hget
      refine ⟨own.2, ?_, ih own hown (hv.2 own hown) (hw.2 field hfield) hsame⟩
      rw [← heq]
      exact get?_of_mem hv.1 hown
    | _ => cases h

theorem same_trans {u v w : Json} (huv : same u v = true) (hvw : same v w = true) :
    same u w = true := by
  induction u using Json.induction generalizing v w with
  | null =>
    cases v with
    | null => exact hvw
    | _ => cases huv
  | bool b =>
    cases v with
    | bool c =>
      rw [eq_of_beq (a := b) huv]
      exact hvw
    | _ => cases huv
  | num l =>
    cases v with
    | num m =>
      cases w with
      | num n => exact number_same_trans huv hvw
      | _ => cases hvw
    | _ => cases huv
  | str s =>
    cases v with
    | str t =>
      rw [eq_of_beq (a := s) huv]
      exact hvw
    | _ => cases huv
  | arr items ih =>
    cases v with
    | arr others =>
      cases w with
      | arr last =>
        rw [same] at huv hvw ⊢
        exact sameItems_trans (fun a ha b c => ih a ha) huv hvw
      | _ => cases hvw
    | _ => cases huv
  | obj fields ih =>
    cases v with
    | obj row =>
      cases w with
      | obj last =>
        obtain ⟨hlength, hfields⟩ := same_obj_iff.mp huv
        obtain ⟨hlength', hrow⟩ := same_obj_iff.mp hvw
        refine same_obj_iff.mpr ⟨hlength.trans hlength', fun field hfield => ?_⟩
        obtain ⟨found, hget, hsame⟩ := hfields field hfield
        obtain ⟨found', hget', hsame'⟩ := hrow _ (mem_of_get? hget)
        exact ⟨found', hget', ih field hfield hsame hsame'⟩
      | _ => cases hvw
    | _ => cases huv

end Json

end QueryCatalog
