import Mathlib.Data.List.Basic
import Mathlib.Data.List.Forall2
import Mathlib.Data.List.Induction
import Mathlib.Tactic.SplitIfs

/-!
Lists without repetitions, where the first of several items that count as the same is kept, and
lists that are parted or that correspond item by item.
-/
namespace QueryCatalog

open List

variable {α β : Type} {r : α → α → Bool} {l : List α}

theorem eraseDupsBy_loop (l kept : List α) : eraseDupsBy.loop r l kept =
    l.foldl (fun kept a => if kept.any (r a) then kept else kept ++ [a]) kept.reverse := by
  induction l generalizing kept with
  | nil => rfl
  | cons a rest ih =>
    rw [eraseDupsBy.loop, foldl_cons, any_reverse]
    cases hany : kept.any (r a) with
    | true => simpa using ih kept
    | false => simpa using ih (a :: kept)

theorem eraseDupsBy_concat (l : List α) (a : α) : (l ++ [a]).eraseDupsBy r =
    if (l.eraseDupsBy r).any (r a) then l.eraseDupsBy r else l.eraseDupsBy r ++ [a] := by
  simp only [eraseDupsBy, eraseDupsBy_loop, foldl_append, foldl_cons, foldl_nil]

/-- No item is the same as one that is kept before it. -/
theorem pairwise_eraseDupsBy (r : α → α → Bool) (l : List α) :
    (l.eraseDupsBy r).Pairwise fun first later => r later first = false := by
  induction l using List.reverseRecOn with
  | nil => exact Pairwise.nil
  | append_singleton l a ih =>
    rw [eraseDupsBy_concat]
    split_ifs with hany
    · exact ih
    · refine pairwise_append.mpr ⟨ih, pairwise_singleton _ a, fun first hfirst later hlater => ?_⟩
      rw [mem_singleton.mp hlater]
      exact eq_false_of_ne_true fun hsame => hany (any_eq_true.mpr ⟨first, hfirst, hsame⟩)

/-- What is kept stays in its order. -/
theorem eraseDupsBy_sublist (r : α → α → Bool) (l : List α) : (l.eraseDupsBy r).Sublist l := by
  induction l using List.reverseRecOn with
  | nil => exact .slnil
  | append_singleton l a ih =>
    rw [eraseDupsBy_concat]
    split_ifs
    · exact ih.trans (sublist_append_left l [a])
    · exact ih.append_right [a]

/-- What is not kept is the same as something that is. -/
theorem exists_mem_eraseDupsBy (hrefl : ∀ a ∈ l, r a a = true) {a : α} (h : a ∈ l) :
    ∃ first ∈ l.eraseDupsBy r, r a first = true := by
  induction l using List.reverseRecOn with
  | nil => cases h
  | append_singleton l b ih =>
    have hl := forall_mem_append.mp hrefl
    rw [eraseDupsBy_concat]
    rcases mem_append.mp h with hmem | hlast
    · obtain ⟨first, hfirst, hsame⟩ := ih hl.1 hmem
      refine ⟨first, ?_, hsame⟩
      split_ifs
      · exact hfirst
      · exact mem_append_left _ hfirst
    · rw [mem_singleton.mp hlast]
      split_ifs with hany
      · exact any_eq_true.mp hany
      · exact ⟨b, mem_append_right _ (mem_singleton_self b), hl.2 b (mem_singleton_self b)⟩

theorem eraseDupsBy_map {s : β → β → Bool} {f : α → β}
    (h : ∀ a ∈ l, ∀ b ∈ l, s (f a) (f b) = r a b) :
    (l.map f).eraseDupsBy s = (l.eraseDupsBy r).map f := by
  induction l using List.reverseRecOn with
  | nil => rfl
  | append_singleton l a ih =>
    have hl : ∀ b ∈ l, ∀ c ∈ l, s (f b) (f c) = r b c :=
      fun b hb c hc => h b (mem_append_left _ hb) c (mem_append_left _ hc)
    have hany : ((l.eraseDupsBy r).map f).any (s (f a)) = (l.eraseDupsBy r).any (r a) := by
      rw [any_map, Bool.eq_iff_iff, any_eq_true, any_eq_true]
      refine exists_congr fun b => and_congr_right fun hb => ?_
      have hmem := mem_append_left [a] ((eraseDupsBy_sublist r l).subset hb)
      rw [Function.comp, h a (mem_append_right _ (mem_singleton_self a)) b hmem]
    rw [map_append, map_singleton, eraseDupsBy_concat, eraseDupsBy_concat, ih hl, hany]
    split_ifs
    · rfl
    · rw [map_append, map_singleton]

/-- Items that are put to keys, each to one of them, are all there with the keys. -/
theorem flatMap_filter_perm {keys : List β} {p : β → α → Bool}
    (hkeys : ∀ a ∈ l, ∃ key ∈ keys, p key a = true)
    (hone : ∀ a ∈ l, keys.Pairwise fun first later => p first a = true → p later a = false) :
    (keys.flatMap fun key => l.filter (p key)).Perm l := by
  induction keys generalizing l with
  | nil =>
    cases l with
    | nil => exact .refl _
    | cons a rest =>
      obtain ⟨key, hkey, -⟩ := hkeys a mem_cons_self
      exact absurd hkey not_mem_nil
  | cons key keys ih =>
    have hrest : ∀ a ∈ l.filter (!p key ·), (∃ key ∈ keys, p key a = true) ∧
        keys.Pairwise fun first later => p first a = true → p later a = false := by
      intro a ha
      obtain ⟨hmem, hother⟩ := mem_filter.mp ha
      obtain ⟨found, hfound, hkey⟩ := hkeys a hmem
      refine ⟨?_, (pairwise_cons.mp (hone a hmem)).2⟩
      rcases mem_cons.mp hfound with rfl | hin
      · simp [hkey] at hother
      · exact ⟨found, hin, hkey⟩
    have hsplit : keys.flatMap (fun key => l.filter (p key)) =
        keys.flatMap fun other => (l.filter (!p key ·)).filter (p other) := by
      refine List.flatMap_congr fun other hother => ?_
      rw [filter_filter]
      refine filter_congr fun a ha => ?_
      have := (pairwise_cons.mp (hone a ha)).1 other hother
      cases hkey : p key a <;> simp_all
    rw [flatMap_cons, hsplit]
    exact ((ih (fun a ha => (hrest a ha).1) fun a ha => (hrest a ha).2).append_left _).trans
      (filter_append_perm (p key) l)

theorem exists_of_forall₂ {R : α → β → Prop} {l' : List β} (h : Forall₂ R l l') {b : β}
    (hb : b ∈ l') : ∃ a ∈ l, R a b := by
  induction h with
  | nil => cases hb
  | cons hab _ ih =>
    rcases mem_cons.mp hb with rfl | hmem
    · exact ⟨_, mem_cons_self, hab⟩
    · obtain ⟨a, ha, hR⟩ := ih hmem
      exact ⟨a, mem_cons_of_mem _ ha, hR⟩

end QueryCatalog
