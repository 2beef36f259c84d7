import Mathlib.Data.List.Nodup
import SourceAtlas.Graph.Neighbor

/-! Ascending lists of ids. Such a list is told by its members, and sorting ids that are all different
makes one. -/
namespace SourceAtlas

/-- Strictly ascending. -/
def Ascending (ids : List NodeId) : Prop := ids.Pairwise fun a b => a.val < b.val

theorem nodup_of_ascending {ids : List NodeId} (h : Ascending ids) : ids.Nodup := by
  refine h.imp ?_
  rintro a _ below rfl
  exact UInt64.lt_irrefl _ below

theorem eq_of_ascending_ids {xs ys : List NodeId} (hx : Ascending xs) (hy : Ascending ys)
    (same : ∀ id, id ∈ xs ↔ id ∈ ys) : xs = ys := by
  have perm : xs.Perm ys :=
    (List.perm_ext_iff_of_nodup (nodup_of_ascending hx) (nodup_of_ascending hy)).mpr same
  apply perm.eq_of_pairwise _ hx hy
  intro a b _ _ ab ba
  exact absurd (UInt64.lt_trans ab ba) (UInt64.lt_irrefl _)

end SourceAtlas
