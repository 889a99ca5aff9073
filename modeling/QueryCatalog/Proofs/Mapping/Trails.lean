import Mathlib.Data.List.Chain
import Mathlib.Data.List.Nodup
import Mathlib.Data.List.Perm.Subperm
import Mathlib.Logic.Relation
import QueryCatalog.Proofs.Mapping.References

/-!
Ways along the references of a catalog. A way through different queries is no longer than the
catalog, and one that returns to a query it has passed shows that the references go round.
-/
namespace QueryCatalog.Catalog

/-- A query refers to one that it fetches of its own accord. -/
def EagerReference (catalog : Catalog) (owner target : String) : Prop :=
  ∃ q, catalog.find? owner = some q ∧ ∃ f ∈ q.fetches, f.eager = true ∧ f.target = target

def Acyclic (catalog : Catalog) : Prop :=
  ∀ name, ¬Relation.TransGen catalog.EagerReference name name

/-- A path of different queries of the catalog, each with an eager reference to the next one. -/
structure Trail (catalog : Catalog) (root : String) (path : List String) : Prop where
  start : path.head? = some root
  linked : path.IsChain catalog.EagerReference
  nodup : path.Nodup
  known : ∀ name ∈ path, ∃ q, catalog.find? name = some q

/-- References that lead back to a query on the way. -/
structure ClosedWalk (catalog : Catalog) (root : String) (walk : List String) : Prop where
  start : walk.head? = some root
  linked : walk.IsChain catalog.EagerReference
  closed : ∃ before last, walk = before ++ [last] ∧ last ∈ before

variable {catalog : Catalog} {root owner target : String} {path walk : List String}

theorem Trail.length_le (h : catalog.Trail root path) : path.length ≤ catalog.length := by
  have hnames : path ⊆ catalog.names := by
    intro name hname
    obtain ⟨q, hq⟩ := h.known name hname
    exact Dictionary.mem_names_of_find? hq
  have hlength := (List.Nodup.subperm h.nodup hnames).length_le
  rwa [Dictionary.names, List.length_map] at hlength

theorem trail_root {q : Query} (h : catalog.find? root = some q) : catalog.Trail root [root] where
  start := rfl
  linked := .singleton root
  nodup := List.nodup_singleton root
  known name hname := by
    rw [List.mem_singleton.mp hname]
    exact ⟨q, h⟩

theorem head?_append_of_some {rest : List String} (h : path.head? = some root) :
    (path ++ rest).head? = some root := by
  rw [List.head?_append, h]
  rfl

theorem linked_append (hlinked : path.IsChain catalog.EagerReference)
    (hlast : path.getLast? = some owner) (href : catalog.EagerReference owner target) :
    (path ++ [target]).IsChain catalog.EagerReference := by
  refine List.isChain_append.mpr ⟨hlinked, .singleton target, ?_⟩
  intro x hx y hy
  rw [hlast] at hx
  obtain rfl : owner = x := Option.some.inj hx
  obtain rfl : target = y := Option.some.inj hy
  exact href

/-- A reference from the end of a trail to a query that is not on it. -/
theorem Trail.extend (h : catalog.Trail root path) (hlast : path.getLast? = some owner)
    (href : catalog.EagerReference owner target) (hnew : target ∉ path)
    (hknown : ∃ q, catalog.find? target = some q) : catalog.Trail root (path ++ [target]) where
  start := head?_append_of_some h.start
  linked := linked_append h.linked hlast href
  nodup := by
    refine List.nodup_append.mpr ⟨h.nodup, List.nodup_singleton target, ?_⟩
    intro a ha b hb heq
    rw [List.mem_singleton.mp hb] at heq
    exact hnew (heq ▸ ha)
  known name hname := by
    rcases List.mem_append.mp hname with hin | hin
    · exact h.known name hin
    · rw [List.mem_singleton.mp hin]
      exact hknown

/-- A reference from the end of a trail to a query that is on it. -/
theorem Trail.close (h : catalog.Trail root path) (hlast : path.getLast? = some owner)
    (href : catalog.EagerReference owner target) (hold : target ∈ path) :
    catalog.ClosedWalk root (path ++ [target]) where
  start := head?_append_of_some h.start
  linked := linked_append h.linked hlast href
  closed := ⟨path, target, rfl, hold⟩

theorem ClosedWalk.not_acyclic (h : catalog.ClosedWalk root walk) : ¬catalog.Acyclic := by
  obtain ⟨before, last, rfl, hlast⟩ := h.closed
  obtain ⟨first, round, rfl⟩ := List.append_of_mem hlast
  have hlinked := h.linked
  rw [List.append_assoc, List.cons_append, List.isChain_split] at hlinked
  obtain ⟨next, rest, hround⟩ := List.exists_cons_of_ne_nil
    (show round ++ [last] ≠ [] by simp)
  have hreturn := hlinked.2
  rw [hround, List.isChain_cons_cons] at hreturn
  obtain ⟨hstep, hrest⟩ := hreturn
  have hend : (next :: rest).getLast (List.cons_ne_nil _ _) = last := by
    simp only [← hround, List.getLast_append_singleton]
  have hback := List.relationReflTransGen_of_exists_isChain_cons rest hrest hend
  exact fun hacyclic => hacyclic last (Relation.TransGen.head' hstep hback)

end QueryCatalog.Catalog
