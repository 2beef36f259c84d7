import SourceAtlas.Proofs.Distinct
import SourceAtlas.Proofs.Impact.Level

/-! The blast radius is the ball of the graph metric. The queue of the walk holds what is left of one
level and then what was met of the next, so a level is worked off before the next begins, and what the
walk meets is what the search by levels finds. No node in the queue is unknown, because both ends of
every link are there. -/
namespace SourceAtlas

namespace Reach

theorem le_iff {a b : Reach} : a.le b = true ↔
    a.distance < b.distance ∨ a.distance = b.distance ∧ a.id.val.toNat ≤ b.id.val.toNat := by
  simp [le, UInt64.le_iff_toNat_le]

theorem le_trans (a b c : Reach) (ab : a.le b = true) (bc : b.le c = true) : a.le c = true := by
  rw [le_iff] at *
  omega

theorem le_total (a b : Reach) : (a.le b || b.le a) = true := by
  rw [Bool.or_eq_true, le_iff, le_iff]
  omega

theorem le_antisymm {a b : Reach} (ab : a.le b = true) (ba : b.le a = true) : a = b := by
  rw [le_iff] at ab ba
  have level : a.distance = b.distance := by omega
  have value : a.id.val = b.id.val := UInt64.toNat.inj (by omega)
  cases a with
  | mk aId _ =>
    cases aId
    cases level
    cases value
    rfl

theorem le_of_before {a b : Reach} (h : a.Before b) : a.le b = true := by
  rw [le_iff]
  exact h.imp_right fun same => ⟨same.1, Nat.le_of_lt (UInt64.lt_iff_toNat_lt.mp same.2)⟩

end Reach

theorem nodup_meet {distance : Nat} {met : List Reach} {ids : List NodeId} :
    ((meet distance met ids).map (·.id)).Nodup := by
  induction ids generalizing met with
  | nil => exact List.nodup_nil
  | cons id rest ih =>
    unfold meet
    split
    · exact ih
    · rw [List.map_cons, List.nodup_cons]
      refine ⟨?_, ih⟩
      intro again
      obtain ⟨r, hr, same⟩ := List.mem_map.mp again
      exact (mem_meet.mp hr).2.2 (by simp [same])

namespace Graph

variable {g : Graph} {direction : Direction} {relations : Option (List Relation)}

theorem neighborIds_of_contains {id : NodeId} (here : g.contains id = true) (direction : Direction)
    (relations : Option (List Relation)) :
    g.neighborIds id direction relations = .ok (g.adjacent direction relations id) := by
  rw [neighborIds, if_pos here]

/-- Nodes in the queue at the depth or beyond add nothing. -/
theorem walk_of_far {depth : Nat} {met queue : List Reach} (far : ∀ r ∈ queue, depth ≤ r.distance) :
    g.walk direction relations depth met queue = .ok met := by
  induction queue with
  | nil => rw [walk]
  | cons r rest ih =>
    rw [walk, if_pos (far r List.mem_cons_self)]
    exact ih fun s hs => far s (List.mem_cons_of_mem _ hs)

theorem walk_turn {depth : Nat} {met rest : List Reach} {current : Reach}
    (near : current.distance < depth) (here : g.contains current.id = true) :
    g.walk direction relations depth met (current :: rest) =
      let fresh := meet (current.distance + 1) met (g.adjacent direction relations current.id)
      g.walk direction relations depth (met ++ fresh) (rest ++ fresh) := by
  rw [walk, if_neg (Nat.not_le.mpr near)]
  split
  · next fault failed =>
    rw [neighborIds_of_contains here] at failed
    cases failed
  · next ids answer =>
    rw [neighborIds_of_contains here] at answer
    cases answer
    rfl

/-- What `fresh` adds to a walk that has met some nodes and works off a level. -/
structure Met (g : Graph) (direction : Direction) (relations : Option (List Relation)) (distance : Nat)
    (met level fresh : List Reach) : Prop where
  distance_eq : ∀ r ∈ fresh, r.distance = distance
  distinct : (fresh.map (·.id)).Nodup
  mem_iff : ∀ id, id ∈ fresh.map (·.id) ↔
    (∃ r ∈ level, g.Adjacent direction relations r.id id) ∧ id ∉ met.map (·.id)

theorem met_turn (current : Reach) (met : List Reach) :
    g.Met direction relations (current.distance + 1) met [current]
      (meet (current.distance + 1) met (g.adjacent direction relations current.id)) where
  distance_eq _ hr := (mem_meet.mp hr).1
  distinct := nodup_meet
  mem_iff id := by
    constructor
    · intro listed
      obtain ⟨r, hr, rfl⟩ := List.mem_map.mp listed
      obtain ⟨_, beside, new⟩ := mem_meet.mp hr
      exact ⟨⟨current, List.mem_cons_self, mem_adjacent.mp beside⟩, new⟩
    · rintro ⟨⟨r, hr, beside⟩, new⟩
      cases List.mem_singleton.mp hr
      exact List.mem_map.mpr ⟨⟨id, _⟩, mem_meet.mpr ⟨rfl, mem_adjacent.mpr beside, new⟩, rfl⟩

theorem Met.append {distance : Nat} {met level level' fresh fresh' : List Reach}
    (h : g.Met direction relations distance met level fresh)
    (h' : g.Met direction relations distance (met ++ fresh) level' fresh') :
    g.Met direction relations distance met (level ++ level') (fresh ++ fresh') where
  distance_eq r hr := (List.mem_append.mp hr).elim (h.distance_eq r) (h'.distance_eq r)
  distinct := by
    rw [List.map_append, List.nodup_append']
    refine ⟨h.distinct, h'.distinct, ?_⟩
    intro id listed again
    exact ((h'.mem_iff id).mp again).2 (by rw [List.map_append]; exact List.mem_append_right _ listed)
  mem_iff id := by
    have old := h.mem_iff id
    have new := h'.mem_iff id
    simp only [List.map_append, List.mem_append, or_and_right, exists_or, not_or] at old new ⊢
    by_cases known : id ∈ fresh.map (·.id)
    · simp only [known, true_iff, true_or] at old ⊢
      exact .inl old
    · simp only [known, not_false_eq_true, and_true, false_iff, false_or] at old new ⊢
      exact new.trans (or_iff_right old).symm

/-- The walk works a level off, whatever was put behind it. -/
theorem walk_level {depth distance : Nat} (near : distance < depth) {level : List Reach}
    (here : ∀ r ∈ level, r.distance = distance ∧ g.contains r.id = true) (met later : List Reach) :
    ∃ fresh, g.Met direction relations (distance + 1) met level fresh ∧
      g.walk direction relations depth met (level ++ later) =
        g.walk direction relations depth (met ++ fresh) (later ++ fresh) := by
  induction level generalizing met later with
  | nil =>
    refine ⟨[], ⟨by simp, by simp, by simp⟩, ?_⟩
    rw [List.nil_append, List.append_nil, List.append_nil]
  | cons current rest ih =>
    obtain ⟨rfl, known⟩ := here current List.mem_cons_self
    have first : g.Met direction relations (current.distance + 1) met [current] _ := met_turn current met
    obtain ⟨fresh, others, same⟩ := ih (fun r hr => here r (List.mem_cons_of_mem _ hr))
      (met ++ meet (current.distance + 1) met (g.adjacent direction relations current.id))
      (later ++ meet (current.distance + 1) met (g.adjacent direction relations current.id))
    refine ⟨_, first.append others, ?_⟩
    rw [List.cons_append, walk_turn near known]
    simp only [List.append_assoc] at same ⊢
    exact same

theorem Met.mem_iff_frontier {distance : Nat} {met level fresh : List Reach}
    (h : g.Met direction relations distance met level fresh) (id : NodeId) :
    id ∈ fresh.map (·.id) ↔
      id ∈ g.frontierAfter direction relations (met.map (·.id)) (level.map (·.id)) := by
  rw [h.mem_iff, mem_frontierAfter]
  simp only [List.mem_map, exists_exists_and_eq_and]

/-- What is fresh of a level is the next frontier of the search by levels. -/
theorem Met.perm {distance : Nat} {met level fresh : List Reach}
    (h : g.Met direction relations distance met level fresh) :
    fresh.Perm ((g.frontierAfter direction relations (met.map (·.id)) (level.map (·.id))).map
      (⟨·, distance⟩)) := by
  have once : (g.frontierAfter direction relations (met.map (·.id)) (level.map (·.id))).Nodup :=
    nodup_of_ascending (ascendingIds_ascending _)
  have apart : ((g.frontierAfter direction relations (met.map (·.id)) (level.map (·.id))).map
      (Reach.mk · distance)).Nodup := once.map fun a b same => congrArg Reach.id same
  refine (List.perm_ext_iff_of_nodup h.distinct.of_map apart).mpr ?_
  intro r
  rw [List.mem_map]
  constructor
  · intro hr
    exact ⟨r.id, (h.mem_iff_frontier r.id).mp (List.mem_map_of_mem hr), h.distance_eq r hr ▸ rfl⟩
  · rintro ⟨id, reached, rfl⟩
    obtain ⟨s, hs, rfl⟩ := List.mem_map.mp ((h.mem_iff_frontier id).mpr reached)
    exact h.distance_eq s hs ▸ hs

/-- From a level on, the walk meets what the search by levels finds. -/
theorem walk_eq_ok (wf : g.WellFormed) (depth : Nat) {distance : Nat} (met : List Reach) {level : List Reach}
    (here : ∀ r ∈ level, r.distance = distance ∧ g.contains r.id = true) :
    ∃ beyond, g.walk direction relations (distance + depth) met level = .ok (met ++ beyond) ∧
      beyond.Perm (g.spread direction relations depth distance (met.map (·.id)) (level.map (·.id))) := by
  induction depth generalizing distance met level with
  | zero =>
    refine ⟨[], ?_, .nil⟩
    rw [List.append_nil]
    exact walk_of_far fun r hr => Nat.le_of_eq (here r hr).1.symm
  | succ depth ih =>
    have near : distance < distance + (depth + 1) := by omega
    obtain ⟨fresh, added, same⟩ : ∃ fresh, g.Met direction relations (distance + 1) met level fresh ∧ _ :=
      walk_level near here met []
    rw [List.append_nil, List.nil_append] at same
    have perm := added.perm
    have next : ∀ r ∈ fresh, r.distance = distance + 1 ∧ g.contains r.id = true := by
      intro r hr
      obtain ⟨⟨a, _, beside⟩, _⟩ := (added.mem_iff r.id).mp (List.mem_map_of_mem hr)
      exact ⟨added.distance_eq r hr, contains_of_adjacent wf beside⟩
    obtain ⟨beyond, met', perm'⟩ := ih (met ++ fresh) next
    rw [Nat.add_assoc, Nat.add_comm 1] at met'
    refine ⟨fresh ++ beyond, ?_, ?_⟩
    · rw [same, met', List.append_assoc]
    · have seen : ∀ id, id ∈ (met ++ fresh).map (·.id) ↔
          id ∈ g.frontierAfter direction relations (met.map (·.id)) (level.map (·.id)) ++ met.map (·.id) := by
        intro id
        rw [List.map_append, List.mem_append, List.mem_append, added.mem_iff_frontier, or_comm]
      rw [spread_succ, ← spread_congr depth (distance + 1) seen added.mem_iff_frontier]
      exact perm.append perm'

/-- In a store the walk finds what the search by levels finds, in its order. -/
theorem impact_eq_spread (wf : g.WellFormed) {origin : NodeId} (present : g.contains origin = true)
    {query : ImpactQuery} (positive : query.maxDepth ≠ some 0) (cap : Nat) :
    g.impact origin query cap = .ok (g.spread query.direction query.relations
      (effectiveDepth query.maxDepth cap) 0 [origin] [origin]) := by
  have start : ∀ r ∈ [(⟨origin, 0⟩ : Reach)], r.distance = 0 ∧ g.contains r.id = true := by
    simpa using present
  obtain ⟨beyond, answer, perm⟩ : ∃ beyond,
      g.walk query.direction query.relations (0 + effectiveDepth query.maxDepth cap) [⟨origin, 0⟩]
        [⟨origin, 0⟩] = .ok ([⟨origin, 0⟩] ++ beyond) ∧
      beyond.Perm (g.spread query.direction query.relations (effectiveDepth query.maxDepth cap) 0
        [origin] [origin]) :=
    walk_eq_ok wf (effectiveDepth query.maxDepth cap) [⟨origin, 0⟩] start
  have others : ([(⟨origin, 0⟩ : Reach)] ++ beyond).filter (·.id ≠ origin) = beyond := by
    rw [List.singleton_append, List.filter_cons_of_neg (by simp), List.filter_eq_self]
    intro r hr
    exact decide_eq_true ((mem_spread_origin _ r).mp (perm.mem_iff.mp hr)).1
  have sorted : beyond.mergeSort Reach.le = g.spread query.direction query.relations
      (effectiveDepth query.maxDepth cap) 0 [origin] [origin] :=
    mergeSort_eq_of_pairwise Reach.le_trans Reach.le_total (fun _ _ _ _ => Reach.le_antisymm)
      ((spread_ordered _ 0 _ _).imp Reach.le_of_before) perm
  rw [Nat.zero_add] at answer
  rw [impact, present, if_neg (by simp), if_neg positive, answer]
  simp only [bind, Except.bind, pure, Except.pure, others, sorted]

/-- What was answered was asked for a node of the graph and for a depth above zero. -/
theorem asked_of_impact {origin : NodeId} {query : ImpactQuery} {cap : Nat} {reached : List Reach}
    (answer : g.impact origin query cap = .ok reached) :
    g.contains origin = true ∧ query.maxDepth ≠ some 0 := by
  unfold impact at answer
  split at answer
  · cases answer
  · next present =>
    split at answer
    · cases answer
    · next positive => exact ⟨by simpa using present, positive⟩

/-- In every store an impact query fails for an unknown origin, then for a depth of zero, and answers
otherwise with the ball around the origin, nearest nodes first. -/
theorem impact_is_ball (calls : List Call) (origin : NodeId) (query : ImpactQuery) (cap : Nat) :
    let g := after calls
    let step := g.Adjacent query.direction query.relations
    let depth := match query.maxDepth with
      | some requested => min requested (max cap 1)
      | none => max cap 1
    (g.contains origin = false → g.impact origin query cap = .error (.nodeNotFound origin)) ∧
    (g.contains origin = true → query.maxDepth = some 0 →
      g.impact origin query cap = .error (.invalidArgument .zeroDepth)) ∧
    (g.contains origin = true → query.maxDepth ≠ some 0 →
      ∃ reached, g.impact origin query cap = .ok reached ∧
        (∀ r, r ∈ reached ↔
          r.id ≠ origin ∧ Distance step origin r.distance r.id ∧ r.distance ≤ depth) ∧
        (∀ r ∈ reached, g.contains r.id = true) ∧
        (reached.map (·.id)).Nodup ∧ reached.Pairwise Reach.Before) := by
  intro g step depth
  refine ⟨?_, ?_, ?_⟩
  · intro absent
    simp [impact, absent]
  · intro present zero
    simp [impact, present, zero]
  · intro present positive
    have wf : g.WellFormed := after_wellFormed calls
    have answer : g.impact origin query cap =
        .ok (g.spread query.direction query.relations depth 0 [origin] [origin]) :=
      impact_eq_spread wf present positive cap
    have ball : ∀ r, r ∈ g.spread query.direction query.relations depth 0 [origin] [origin] ↔
        r.id ≠ origin ∧ Distance step origin r.distance r.id ∧ r.distance ≤ depth :=
      mem_spread_origin depth
    have ordered : (g.spread query.direction query.relations depth 0 [origin] [origin]).Pairwise
        Reach.Before := spread_ordered depth 0 [origin] [origin]
    have distinct := ids_nodup_of_ordered ordered fun r hr => ((ball r).mp hr).2.1
    refine ⟨_, answer, ball, ?_, distinct, ordered⟩
    intro r hr
    obtain ⟨other, far, _⟩ := (ball r).mp hr
    exact contains_of_distance wf other far

/-- A cycle of three with a link to itself, a link twice and a fourth node that is not a file. -/
def cycleCalls : List Call :=
  [.nodes [{ Node.new .file "a" with id := ⟨1⟩ }, { Node.new .file "b" with id := ⟨2⟩ },
      { Node.new .file "c" with id := ⟨3⟩ }, { Node.new .external "d" with id := ⟨4⟩ }],
    .links [⟨⟨1⟩, ⟨2⟩, .imports, none⟩, ⟨⟨2⟩, ⟨3⟩, .imports, none⟩, ⟨⟨3⟩, ⟨1⟩, .imports, none⟩,
      ⟨⟨1⟩, ⟨1⟩, .includes, none⟩, ⟨⟨1⟩, ⟨2⟩, .includes, none⟩, ⟨⟨4⟩, ⟨2⟩, .references, none⟩]]

theorem impact_of_cycle :
    (after cycleCalls).impact ⟨5⟩ ⟨.both, some 0, none⟩ 0 = .error (.nodeNotFound ⟨5⟩) ∧
    (after cycleCalls).impact ⟨1⟩ ⟨.both, some 0, none⟩ 0 = .error (.invalidArgument .zeroDepth) ∧
    ∃ reached, (after cycleCalls).impact ⟨1⟩ ⟨.incoming, none, none⟩ 9 = .ok reached ∧
      reached = [⟨⟨3⟩, 1⟩, ⟨⟨2⟩, 2⟩, ⟨⟨4⟩, 3⟩] ∧ (reached.map (·.id)).Nodup := by
  refine ⟨(impact_is_ball cycleCalls ⟨5⟩ ⟨.both, some 0, none⟩ 0).1 (by decide),
    (impact_is_ball cycleCalls ⟨1⟩ ⟨.both, some 0, none⟩ 0).2.1 (by decide) rfl, ?_⟩
  obtain ⟨reached, answer, _, _, distinct, _⟩ :=
    (impact_is_ball cycleCalls ⟨1⟩ ⟨.incoming, none, none⟩ 9).2.2 (by decide) (by decide)
  have listed : (after cycleCalls).impact ⟨1⟩ ⟨.incoming, none, none⟩ 9 =
      .ok [⟨⟨3⟩, 1⟩, ⟨⟨2⟩, 2⟩, ⟨⟨4⟩, 3⟩] := by
    rw [impact_eq_spread (after_wellFormed cycleCalls) (by decide) (by decide)]
    decide
  exact ⟨reached, answer, Except.ok.inj (answer.symm.trans listed), distinct⟩

end Graph

end SourceAtlas
