import SourceAtlas.Impact
import SourceAtlas.Proofs.Graph.Ascending
import SourceAtlas.Proofs.Graph.History

/-! Distances, and a search that goes outwards level by level. Distances are lengths of shortest walks
along links that may be followed, in the way they may be followed. The search keeps two sets exact: the
nodes no farther than the current distance, and those that lie right at it. -/
namespace SourceAtlas

/-- Whether a link of this relation may be followed. An empty list lets none pass. -/
def Allows (relations : Option (List Relation)) (r : Relation) : Prop :=
  ∀ allowed, relations = some allowed → r ∈ allowed

/-- The link leads from `a` to `b` if it is followed in the direction. -/
def Link.Leads (l : Link) (direction : Direction) (a b : NodeId) : Prop :=
  match direction with
  | .outgoing => l.source = a ∧ l.target = b
  | .incoming => l.target = a ∧ l.source = b
  | .both => l.source = a ∧ l.target = b ∨ l.target = a ∧ l.source = b

def Graph.Adjacent (g : Graph) (direction : Direction) (relations : Option (List Relation))
    (a b : NodeId) : Prop :=
  ∃ l ∈ g.links, Allows relations l.relation ∧ l.Leads direction a b

inductive Walk (step : NodeId → NodeId → Prop) (origin : NodeId) : Nat → NodeId → Prop where
  | here : Walk step origin 0 origin
  | onward {n : Nat} {a b : NodeId} : Walk step origin n a → step a b → Walk step origin (n + 1) b

/-- The length of a shortest walk to the node. -/
def Distance (step : NodeId → NodeId → Prop) (origin : NodeId) (n : Nat) (id : NodeId) : Prop :=
  Walk step origin n id ∧ ∀ m, Walk step origin m id → n ≤ m

namespace Distance

variable {step : NodeId → NodeId → Prop} {origin id : NodeId} {m n : Nat}

theorem unique (hm : Distance step origin m id) (hn : Distance step origin n id) : m = n :=
  Nat.le_antisymm (hm.2 n hn.1) (hn.2 m hm.1)

theorem zero : Distance step origin 0 origin := ⟨.here, fun _ _ => Nat.zero_le _⟩

theorem eq_zero_iff (h : Distance step origin n id) : n = 0 ↔ id = origin := by
  constructor
  · rintro rfl
    cases h.1
    rfl
  · rintro rfl
    exact h.unique zero

theorem before (h : Distance step origin (n + 1) id) :
    ∃ a, Distance step origin n a ∧ step a id := by
  obtain ⟨walk, shortest⟩ := h
  cases walk with
  | @onward _ a _ short last =>
    refine ⟨a, ⟨short, ?_⟩, last⟩
    intro m other
    have := shortest (m + 1) (other.onward last)
    omega

/-- A node far away has nodes at every smaller distance in front of it. -/
theorem exists_nearer (h : Distance step origin n id) (le : m ≤ n) :
    ∃ a, Distance step origin m a := by
  induction n generalizing id with
  | zero => exact ⟨id, Nat.le_zero.mp le ▸ h⟩
  | succ n ih =>
    rcases Nat.lt_or_eq_of_le le with lt | rfl
    · obtain ⟨a, ha, _⟩ := h.before
      exact ih ha (Nat.le_of_lt_succ lt)
    · exact ⟨id, h⟩

theorem of_no_shorter (walk : Walk step origin (n + 1) id)
    (none : ¬ ∃ m ≤ n, Walk step origin m id) : Distance step origin (n + 1) id := by
  refine ⟨walk, ?_⟩
  intro m other
  rcases Nat.lt_or_ge n m with lt | ge
  · exact lt
  · exact absurd ⟨m, ge, other⟩ none

end Distance

/-- What the search knows at a distance. -/
structure Layer (step : NodeId → NodeId → Prop) (origin : NodeId) (distance : Nat)
    (seen frontier : List NodeId) : Prop where
  seen_iff : ∀ id, id ∈ seen ↔ ∃ m ≤ distance, Walk step origin m id
  frontier_iff : ∀ id, id ∈ frontier ↔ Distance step origin distance id

namespace Graph

/-- The ids next to the frontier that have not been seen. -/
def frontierAfter (g : Graph) (direction : Direction) (relations : Option (List Relation))
    (seen frontier : List NodeId) : List NodeId :=
  ascendingIds
    ((frontier.flatMap (g.adjacent direction relations)).filter fun id => !seen.contains id)

/-- Goes at most `depth` further steps from the frontier, which lies at `distance`. -/
def spread (g : Graph) (direction : Direction) (relations : Option (List Relation)) :
    (depth distance : Nat) → (seen frontier : List NodeId) → List Reach
  | 0, _, _, _ => []
  | depth + 1, distance, seen, frontier =>
    match g.frontierAfter direction relations seen frontier with
    | [] => []
    | next =>
      next.map (⟨·, distance + 1⟩) ++
        g.spread direction relations depth (distance + 1) (next ++ seen) next

variable {g : Graph} {direction : Direction} {relations : Option (List Relation)}

theorem allows_iff {r : Relation} : allows relations r = true ↔ Allows relations r := by
  cases relations with
  | none => simp [allows, Allows]
  | some allowed => simp [allows, Allows]

theorem mem_linkEnds {l : Link} {a b : NodeId} :
    b ∈ linkEnds a direction l ↔ l.Leads direction a b := by
  have single : ∀ x y : NodeId, b ∈ (if x = a then [y] else []) ↔ x = a ∧ y = b := by
    intro x y
    by_cases here : x = a
    · simp [here, eq_comm]
    · simp [here]
  cases direction with
  | outgoing => exact single l.source l.target
  | incoming => exact single l.target l.source
  | both =>
    exact List.mem_append.trans (or_congr (single l.source l.target) (single l.target l.source))

theorem mem_adjacent {a b : NodeId} :
    b ∈ g.adjacent direction relations a ↔ g.Adjacent direction relations a b := by
  simp only [adjacent, mem_ascendingIds, List.mem_flatMap, List.mem_filter, allows_iff, mem_linkEnds,
    Adjacent, and_assoc]

theorem mem_frontierAfter {seen frontier : List NodeId} {id : NodeId} :
    id ∈ g.frontierAfter direction relations seen frontier ↔
      (∃ a ∈ frontier, g.Adjacent direction relations a id) ∧ id ∉ seen := by
  simp [frontierAfter, mem_adjacent]

@[simp] theorem spread_nil (depth distance : Nat) (seen : List NodeId) :
    g.spread direction relations depth distance seen [] = [] := by
  cases depth <;> rfl

theorem spread_succ (depth distance : Nat) (seen frontier : List NodeId) :
    g.spread direction relations (depth + 1) distance seen frontier =
      (g.frontierAfter direction relations seen frontier).map (⟨·, distance + 1⟩) ++
        g.spread direction relations depth (distance + 1)
          (g.frontierAfter direction relations seen frontier ++ seen)
          (g.frontierAfter direction relations seen frontier) := by
  rw [spread]
  split
  · next none => simp [none]
  · rfl

theorem frontierAfter_congr {seen seen' frontier frontier' : List NodeId}
    (same : ∀ id, id ∈ seen ↔ id ∈ seen') (level : ∀ id, id ∈ frontier ↔ id ∈ frontier') :
    g.frontierAfter direction relations seen frontier =
      g.frontierAfter direction relations seen' frontier' := by
  have members : ∀ id, id ∈ g.frontierAfter direction relations seen frontier ↔
      id ∈ g.frontierAfter direction relations seen' frontier' := by
    intro id
    simp only [mem_frontierAfter, same, level]
  exact eq_of_ascending_ids (ascendingIds_ascending _) (ascendingIds_ascending _) members

/-- The search depends on what is seen and on the frontier as sets. -/
theorem spread_congr (depth distance : Nat) {seen seen' frontier frontier' : List NodeId}
    (same : ∀ id, id ∈ seen ↔ id ∈ seen') (level : ∀ id, id ∈ frontier ↔ id ∈ frontier') :
    g.spread direction relations depth distance seen frontier =
      g.spread direction relations depth distance seen' frontier' := by
  induction depth generalizing distance seen seen' frontier frontier' with
  | zero => rfl
  | succ depth ih =>
    have next : g.frontierAfter direction relations seen frontier =
        g.frontierAfter direction relations seen' frontier' := frontierAfter_congr same level
    rw [spread_succ, spread_succ, ← next]
    congr 1
    exact ih _ (fun id => by simp only [List.mem_append, same]) fun _ => Iff.rfl

variable {origin : NodeId} {distance : Nat} {seen frontier : List NodeId}

theorem layer_start : Layer (g.Adjacent direction relations) origin 0 [origin] [origin] where
  seen_iff id := by
    rw [List.mem_singleton]
    constructor
    · rintro rfl
      exact ⟨0, Nat.le_refl 0, .here⟩
    · rintro ⟨m, le, walk⟩
      cases Nat.le_zero.mp le
      cases walk
      rfl
  frontier_iff id := by
    rw [List.mem_singleton]
    constructor
    · rintro rfl
      exact .zero
    · intro h
      exact h.eq_zero_iff.mp rfl

/-- Of the nodes next to the frontier those not seen lie one step farther, and no others do. -/
theorem mem_frontierAfter_iff
    (h : Layer (g.Adjacent direction relations) origin distance seen frontier) (id : NodeId) :
    id ∈ g.frontierAfter direction relations seen frontier ↔
      Distance (g.Adjacent direction relations) origin (distance + 1) id := by
  rw [mem_frontierAfter, h.seen_iff]
  constructor
  · rintro ⟨⟨a, ha, last⟩, new⟩
    exact .of_no_shorter (((h.frontier_iff a).mp ha).1.onward last) new
  · intro far
    obtain ⟨a, near, last⟩ := far.before
    refine ⟨⟨a, (h.frontier_iff a).mpr near, last⟩, ?_⟩
    rintro ⟨m, le, walk⟩
    have := far.2 m walk
    omega

theorem layer_next (h : Layer (g.Adjacent direction relations) origin distance seen frontier) :
    Layer (g.Adjacent direction relations) origin (distance + 1)
      (g.frontierAfter direction relations seen frontier ++ seen)
      (g.frontierAfter direction relations seen frontier) where
  seen_iff id := by
    rw [List.mem_append, mem_frontierAfter_iff h, h.seen_iff]
    constructor
    · rintro (far | ⟨m, le, walk⟩)
      · exact ⟨distance + 1, Nat.le_refl _, far.1⟩
      · exact ⟨m, Nat.le_succ_of_le le, walk⟩
    · rintro ⟨m, le, walk⟩
      by_cases known : ∃ k ≤ distance, Walk (g.Adjacent direction relations) origin k id
      · exact .inr known
      · have last : m = distance + 1 := by
          have : ¬ m ≤ distance := fun small => known ⟨m, small, walk⟩
          omega
        exact .inl (.of_no_shorter (last ▸ walk) known)
  frontier_iff := mem_frontierAfter_iff h

/-- The search finds the nodes behind its current distance up to the depth, each with its distance. -/
theorem mem_spread (depth : Nat)
    (h : Layer (g.Adjacent direction relations) origin distance seen frontier) (r : Reach) :
    r ∈ g.spread direction relations depth distance seen frontier ↔
      distance < r.distance ∧ r.distance ≤ distance + depth ∧
        Distance (g.Adjacent direction relations) origin r.distance r.id := by
  induction depth generalizing distance seen frontier with
  | zero =>
    simp only [spread, List.not_mem_nil, false_iff]
    omega
  | succ depth ih =>
    have next := layer_next h
    have reached := mem_frontierAfter_iff h
    unfold spread
    split
    · next none =>
      simp only [List.not_mem_nil, false_iff]
      rintro ⟨lt, _, far⟩
      -- Nothing lies one step farther, so nothing lies beyond.
      obtain ⟨a, ha⟩ := far.exists_nearer (Nat.succ_le_of_lt lt)
      have := (reached a).mpr ha
      rw [none] at this
      exact List.not_mem_nil this
    · rw [List.mem_append, ih next, List.mem_map]
      constructor
      · rintro (⟨id, hid, rfl⟩ | ⟨lt, le, far⟩)
        · exact ⟨Nat.lt_succ_self _, by simp only; omega, (reached id).mp hid⟩
        · exact ⟨by omega, by omega, far⟩
      · rintro ⟨lt, le, far⟩
        rcases Nat.lt_or_eq_of_le (Nat.succ_le_of_lt lt) with lt | same
        · exact .inr ⟨lt, by omega, far⟩
        · cases r with
          | mk id d =>
            cases same
            exact .inl ⟨id, (reached id).mpr far, rfl⟩

theorem distance_lt_of_mem_spread {depth : Nat} {r : Reach}
    (h : r ∈ g.spread direction relations depth distance seen frontier) : distance < r.distance := by
  induction depth generalizing distance seen frontier with
  | zero => exact absurd h List.not_mem_nil
  | succ depth ih =>
    unfold spread at h
    split at h
    · exact absurd h List.not_mem_nil
    · rcases List.mem_append.mp h with h | h
      · obtain ⟨id, _, rfl⟩ := List.mem_map.mp h
        exact Nat.lt_succ_self _
      · exact Nat.lt_of_succ_lt (ih h)

end Graph

/-- Nearer nodes come first, and of one distance those of smaller ids. -/
def Reach.Before (a b : Reach) : Prop :=
  a.distance < b.distance ∨ a.distance = b.distance ∧ a.id.val < b.id.val

namespace Graph

variable {g : Graph} {direction : Direction} {relations : Option (List Relation)}

theorem spread_ordered (depth distance : Nat) (seen frontier : List NodeId) :
    (g.spread direction relations depth distance seen frontier).Pairwise Reach.Before := by
  induction depth generalizing distance seen frontier with
  | zero => exact List.Pairwise.nil
  | succ depth ih =>
    unfold spread
    split
    · exact List.Pairwise.nil
    · refine List.pairwise_append.mpr ⟨?_, ih _ _ _, ?_⟩
      · refine List.pairwise_map.mpr ((ascendingIds_ascending _).imp ?_)
        intro a b lt
        exact .inr ⟨rfl, lt⟩
      · intro a ha b hb
        obtain ⟨id, _, rfl⟩ := List.mem_map.mp ha
        exact .inl (distance_lt_of_mem_spread hb)

theorem contains_of_adjacent (h : g.WellFormed) {a b : NodeId}
    (step : g.Adjacent direction relations a b) : g.contains b = true := by
  obtain ⟨l, hl, _, leads⟩ := step
  have ends := h.ends_present l hl
  cases direction with
  | outgoing => exact leads.2 ▸ ends.2
  | incoming => exact leads.2 ▸ ends.1
  | both =>
    rcases leads with leads | leads
    · exact leads.2 ▸ ends.2
    · exact leads.2 ▸ ends.1

theorem contains_of_distance (h : g.WellFormed) {origin id : NodeId} {n : Nat} (other : id ≠ origin)
    (far : Distance (g.Adjacent direction relations) origin n id) : g.contains id = true := by
  cases n with
  | zero => exact absurd (far.eq_zero_iff.mp rfl) other
  | succ n =>
    obtain ⟨a, _, step⟩ := far.before
    exact contains_of_adjacent h step

theorem mem_spread_origin {origin : NodeId} (depth : Nat) (r : Reach) :
    r ∈ g.spread direction relations depth 0 [origin] [origin] ↔
      r.id ≠ origin ∧ Distance (g.Adjacent direction relations) origin r.distance r.id ∧
        r.distance ≤ depth := by
  rw [mem_spread depth layer_start, Nat.zero_add]
  constructor
  · rintro ⟨positive, le, far⟩
    exact ⟨fun same => Nat.ne_of_gt positive (far.eq_zero_iff.mpr same), far, le⟩
  · rintro ⟨other, far, le⟩
    exact ⟨Nat.pos_of_ne_zero fun zero => other (far.eq_zero_iff.mp zero), le, far⟩

theorem ids_nodup_of_ordered {step : NodeId → NodeId → Prop} {origin : NodeId} {reached : List Reach}
    (ordered : reached.Pairwise Reach.Before)
    (minimal : ∀ r ∈ reached, Distance step origin r.distance r.id) :
    (reached.map (·.id)).Nodup := by
  refine List.pairwise_map.mpr (ordered.imp_of_mem ?_)
  intro a b ha hb before same
  have level : a.distance = b.distance := (minimal a ha).unique (same ▸ minimal b hb)
  rcases before with lt | ⟨_, lt⟩
  · omega
  · rw [same] at lt
    exact absurd lt (UInt64.lt_irrefl _)

end Graph

end SourceAtlas
