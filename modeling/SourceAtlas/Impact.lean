import SourceAtlas.Graph.Neighbor

/-! The blast radius of a node: every node that can be reached from it, with the length of the
shortest way. The walk takes nodes from a queue, nearest first, and puts those beside them that it has
not met at its end; the answer is in order of distance and, within one distance, of ids. -/
namespace SourceAtlas

structure Reach where
  id : NodeId
  distance : Nat
  deriving DecidableEq, Repr

def Reach.le (a b : Reach) : Bool :=
  a.distance < b.distance || (a.distance == b.distance && a.id.val ≤ b.id.val)

structure ImpactQuery where
  direction : Direction
  /-- Without a depth the walk goes as far as the cap. -/
  maxDepth : Option Nat
  relations : Option (List Relation)
  deriving DecidableEq, Repr

def defaultDepthCap : Nat := 512

/-- Those of the ids that have not been met, each at its first place. -/
def meet (distance : Nat) (met : List Reach) : List NodeId → List Reach
  | [] => []
  | id :: rest =>
    if met.any (·.id = id) then meet distance met rest
    else ⟨id, distance⟩ :: meet distance (⟨id, distance⟩ :: met) rest

theorem mem_meet {distance : Nat} {met : List Reach} {ids : List NodeId} {r : Reach} :
    r ∈ meet distance met ids ↔
      r.distance = distance ∧ r.id ∈ ids ∧ r.id ∉ met.map (·.id) := by
  induction ids generalizing met with
  | nil => simp [meet]
  | cons id rest ih =>
    unfold meet
    split
    · next known =>
      obtain ⟨k, hk, rfl⟩ : ∃ k ∈ met, k.id = id := by simpa using known
      rw [ih, List.mem_cons]
      constructor
      · rintro ⟨far, listed, new⟩
        exact ⟨far, .inr listed, new⟩
      · rintro ⟨far, listed, new⟩
        refine ⟨far, listed.resolve_left fun here => new ?_, new⟩
        exact here ▸ List.mem_map_of_mem hk
    · next unknown =>
      have new : id ∉ met.map (·.id) := by simpa using unknown
      rw [List.mem_cons, ih]
      constructor
      · rintro (rfl | ⟨far, listed, other⟩)
        · exact ⟨rfl, List.mem_cons_self, new⟩
        · exact ⟨far, List.mem_cons_of_mem _ listed, fun h => other (List.mem_cons_of_mem _ h)⟩
      · rintro ⟨rfl, listed, fresh⟩
        by_cases here : r.id = id
        · exact .inl (here ▸ rfl)
        · refine .inr ⟨rfl, (List.mem_cons.mp listed).resolve_left here, ?_⟩
          rw [List.map_cons, List.mem_cons]
          exact fun h => h.elim here fresh

namespace Graph

/-- The ends of all links. -/
def ends (g : Graph) : List NodeId := g.links.flatMap fun l => [l.source, l.target]

/-- The ends of links that have not been met; they bound what the walk has yet to put in its queue. -/
def unmet (g : Graph) (met : List Reach) : List NodeId :=
  g.ends.filter fun id => !met.any (·.id = id)

theorem mem_ends_of_mem_adjacent {g : Graph} {direction : Direction}
    {relations : Option (List Relation)} {id other : NodeId}
    (h : other ∈ g.adjacent direction relations id) : other ∈ g.ends := by
  simp only [adjacent, mem_ascendingIds, List.mem_flatMap, List.mem_filter] at h
  obtain ⟨l, ⟨hl, _⟩, leads⟩ := h
  refine List.mem_flatMap.mpr ⟨l, hl, ?_⟩
  have single : ∀ x y : NodeId, other ∈ (if x = id then [y] else []) → other = y := by
    intro x y h
    split at h
    · exact List.mem_singleton.mp h
    · exact absurd h List.not_mem_nil
  unfold linkEnds at leads
  cases direction with
  | outgoing => simp [single _ _ leads]
  | incoming => simp [single _ _ leads]
  | both =>
    rcases List.mem_append.mp leads with leads | leads
    · simp [single _ _ leads]
    · simp [single _ _ leads]

theorem length_unmet_lt {g : Graph} {met fresh : List Reach} {r : Reach} (listed : r ∈ fresh)
    (new : r.id ∉ met.map (·.id)) (known : r.id ∈ g.ends) :
    (g.unmet (met ++ fresh)).length < (g.unmet met).length := by
  have fewer : g.unmet (met ++ fresh) = (g.unmet met).filter fun id => !fresh.any (·.id = id) := by
    simp [unmet, List.filter_filter, Bool.and_comm]
  rw [fewer, List.length_filter_lt_length_iff_exists]
  refine ⟨r.id, List.mem_filter.mpr ⟨known, by simpa using new⟩, ?_⟩
  simpa using ⟨r, listed, rfl⟩

theorem mem_ends_of_neighborIds {g : Graph} {id : NodeId} {direction : Direction}
    {relations : Option (List Relation)} {ids : List NodeId}
    (h : g.neighborIds id direction relations = .ok ids) : ∀ other ∈ ids, other ∈ g.ends := by
  unfold neighborIds at h
  split at h
  · cases h
    exact fun _ => mem_ends_of_mem_adjacent
  · cases h

/-- A turn of the walk meets some end of a link for the first time, or its queue becomes shorter. -/
theorem turn_decreases {g : Graph} {ids : List NodeId} (known : ∀ id ∈ ids, id ∈ g.ends)
    (distance : Nat) (met : List Reach) (current : Reach) (rest : List Reach) :
    Prod.Lex (· < ·) (· < ·)
      ((g.unmet (met ++ meet distance met ids)).length, (rest ++ meet distance met ids).length)
      ((g.unmet met).length, (current :: rest).length) := by
  cases found : meet distance met ids with
  | nil =>
    simp only [List.append_nil]
    exact .right _ (Nat.lt_succ_self _)
  | cons r others =>
    have fresh : r ∈ meet distance met ids := found ▸ List.mem_cons_self
    obtain ⟨_, listed, new⟩ := mem_meet.mp fresh
    exact .left _ _ (length_unmet_lt List.mem_cons_self new (known r.id listed))

/-- Follows the links of the nodes in the queue, and of those that are met on the way, up to a depth. -/
def walk (g : Graph) (direction : Direction) (relations : Option (List Relation)) (depth : Nat)
    (met queue : List Reach) : Except Fault (List Reach) :=
  match queue with
  | [] => .ok met
  | current :: rest =>
    if depth ≤ current.distance then g.walk direction relations depth met rest
    else
      match _h : g.neighborIds current.id direction relations with
      | .error fault => .error fault
      | .ok ids =>
        g.walk direction relations depth (met ++ meet (current.distance + 1) met ids)
          (rest ++ meet (current.distance + 1) met ids)
termination_by ((g.unmet met).length, queue.length)
decreasing_by
  · exact .right _ (Nat.lt_succ_self _)
  · exact turn_decreases (mem_ends_of_neighborIds _h) (current.distance + 1) met current rest

/-- A cap of zero counts as one. -/
def effectiveDepth (maxDepth : Option Nat) (cap : Nat) : Nat :=
  match maxDepth with
  | some depth => min depth (max cap 1)
  | none => max cap 1

def impact (g : Graph) (origin : NodeId) (query : ImpactQuery) (cap : Nat) :
    Except Fault (List Reach) :=
  if !g.contains origin then .error (.nodeNotFound origin)
  else if query.maxDepth = some 0 then .error (.invalidArgument .zeroDepth)
  else do
    let met ← g.walk query.direction query.relations (effectiveDepth query.maxDepth cap)
      [⟨origin, 0⟩] [⟨origin, 0⟩]
    return (met.filter (·.id ≠ origin)).mergeSort Reach.le

end Graph

end SourceAtlas
