import SourceAtlas.Graph.Basic

/-! The nodes one link away, as ascending lists of ids without repeats. -/
namespace SourceAtlas

/-- Puts an id in its place in an ascending list, unless it is there already. -/
def insertId (id : NodeId) : List NodeId → List NodeId
  | [] => [id]
  | x :: rest =>
    if id.val < x.val then id :: x :: rest
    else if id = x then x :: rest
    else x :: insertId id rest

def ascendingIds (ids : List NodeId) : List NodeId := ids.foldr insertId []

theorem mem_insertId {id x : NodeId} {ids : List NodeId} :
    x ∈ insertId id ids ↔ x = id ∨ x ∈ ids := by
  induction ids with
  | nil => simp [insertId]
  | cons y rest ih =>
    unfold insertId
    split
    · simp
    · split
      · next h => subst h; simp
      · simp [ih, or_left_comm]

@[simp] theorem mem_ascendingIds {x : NodeId} {ids : List NodeId} :
    x ∈ ascendingIds ids ↔ x ∈ ids := by
  induction ids with
  | nil => simp [ascendingIds]
  | cons y rest ih =>
    have : ascendingIds (y :: rest) = insertId y (ascendingIds rest) := rfl
    rw [this, mem_insertId, ih, List.mem_cons]

theorem ascending_insertId (id : NodeId) {ids : List NodeId}
    (h : ids.Pairwise (fun a b => a.val < b.val)) :
    (insertId id ids).Pairwise (fun a b => a.val < b.val) := by
  induction ids with
  | nil => simp [insertId]
  | cons x rest ih =>
    obtain ⟨hx, hrest⟩ := List.pairwise_cons.mp h
    unfold insertId
    split
    · next hlt =>
      refine List.pairwise_cons.mpr ⟨fun y hy => ?_, h⟩
      rcases List.mem_cons.mp hy with hy | hy
      · exact hy ▸ hlt
      · exact UInt64.lt_trans hlt (hx y hy)
    · next hnot =>
      split
      · exact h
      · next hne =>
        refine List.pairwise_cons.mpr ⟨fun y hy => ?_, ih hrest⟩
        rcases mem_insertId.mp hy with hy | hy
        · subst hy
          exact UInt64.lt_of_le_of_ne (UInt64.not_lt.mp hnot) fun e =>
            hne (congrArg NodeId.mk e.symm)
        · exact hx y hy

theorem ascendingIds_ascending (ids : List NodeId) :
    (ascendingIds ids).Pairwise (fun a b => a.val < b.val) := by
  induction ids with
  | nil => exact List.Pairwise.nil
  | cons x rest ih => exact ascending_insertId x ih

namespace Graph

/-- Whether a link of this relation is followed; without a list every link is. -/
def allows (relations : Option (List Relation)) (r : Relation) : Bool :=
  match relations with
  | some allowed => allowed.contains r
  | none => true

/-- The ends that the link leads to from the node. -/
def linkEnds (id : NodeId) (direction : Direction) (link : Link) : List NodeId :=
  let forward := if link.source = id then [link.target] else []
  let backward := if link.target = id then [link.source] else []
  match direction with
  | .outgoing => forward
  | .incoming => backward
  | .both => forward ++ backward

def adjacent (g : Graph) (direction : Direction) (relations : Option (List Relation))
    (id : NodeId) : List NodeId :=
  ascendingIds
    ((g.links.filter fun l => allows relations l.relation).flatMap (linkEnds id direction))

def neighborIds (g : Graph) (id : NodeId) (direction : Direction)
    (relations : Option (List Relation)) : Except Fault (List NodeId) :=
  if g.contains id then .ok (g.adjacent direction relations id) else .error (.nodeNotFound id)

def neighbors (g : Graph) (id : NodeId) (direction : Direction)
    (relations : Option (List Relation)) : Except Fault (List Node) := do
  (← g.neighborIds id direction relations).mapM g.getNode

end Graph

end SourceAtlas
