import SourceAtlas.Proofs.Impact

/-! The nodes one link away. Their ids are those of the other ends of the links that may be followed, in
ascending order and each once however many links lead there, and every one is of a node of the store. A node
with a link to itself is beside itself in every direction, and what one node leads to comes from it. -/
namespace SourceAtlas

theorem mapM_map_eq_ok {α β γ ε : Type} {key : α → β} {f : β → Except ε γ} {result : α → γ} {xs : List α}
    (each : ∀ x ∈ xs, f (key x) = .ok (result x)) : (xs.map key).mapM f = .ok (xs.map result) := by
  induction xs with
  | nil => rfl
  | cons x rest ih =>
    have others := ih fun y hy => each y (List.mem_cons_of_mem _ hy)
    rw [List.map_cons, List.mapM_cons, each x List.mem_cons_self, others]
    rfl

/-- The way back. -/
def Direction.turned : Direction → Direction
  | .outgoing => .incoming
  | .incoming => .outgoing
  | .both => .both

theorem Link.leads_turned {l : Link} {direction : Direction} {a b : NodeId} :
    l.Leads direction a b ↔ l.Leads direction.turned b a := by
  cases direction with
  | outgoing => exact and_comm
  | incoming => exact and_comm
  | both => exact or_comm.trans (or_congr and_comm and_comm)

namespace Graph

variable {g : Graph} {direction : Direction} {relations : Option (List Relation)} {a b id : NodeId}

theorem getNode_of_mem (wf : g.WellFormed) {n : Node} (hn : n ∈ g.nodes) : g.getNode n.id = .ok n := by
  rw [getNode, node_of_mem wf.ids_distinct hn]

/-- Things that mention known ids, each with the node that it mentions. -/
theorem exists_mentioned {α : Type} (mentioned : α → NodeId) {xs : List α}
    (known : ∀ x ∈ xs, g.contains (mentioned x) = true) :
    ∃ pairs : List (Node × α), pairs.map (·.2) = xs ∧
      ∀ p ∈ pairs, p.1 ∈ g.nodes ∧ p.1.id = mentioned p.2 := by
  induction xs with
  | nil => exact ⟨[], rfl, by simp⟩
  | cons x rest ih =>
    obtain ⟨pairs, same, nodes⟩ := ih fun y hy => known y (List.mem_cons_of_mem _ hy)
    obtain ⟨n, hn, hid, _⟩ := node_of_contains (known x List.mem_cons_self)
    exact ⟨(n, x) :: pairs, by rw [List.map_cons, same],
      List.forall_mem_cons.mpr ⟨⟨hn, hid⟩, nodes⟩⟩

theorem exists_nodes_of_ids {ids : List NodeId} (known : ∀ id ∈ ids, g.contains id = true) :
    ∃ found : List Node, found.map (·.id) = ids ∧ ∀ n ∈ found, n ∈ g.nodes := by
  obtain ⟨pairs, same, nodes⟩ := exists_mentioned (fun id => id) known
  refine ⟨pairs.map (·.1), ?_, ?_⟩
  · rw [← same, List.map_map]
    exact List.map_congr_left fun p hp => (nodes p hp).2
  · intro n hn
    obtain ⟨p, hp, rfl⟩ := List.mem_map.mp hn
    exact (nodes p hp).1

section Steps

theorem adjacent_turned : g.Adjacent direction relations a b ↔ g.Adjacent direction.turned relations b a :=
  exists_congr fun _ => and_congr_right fun _ => and_congr_right fun _ => Link.leads_turned

theorem adjacent_self {l : Link} (hl : l ∈ g.links) (allowed : Allows relations l.relation)
    (loop : l.source = l.target) (direction : Direction) :
    g.Adjacent direction relations l.source l.source := by
  refine ⟨l, hl, allowed, ?_⟩
  cases direction with
  | outgoing => exact ⟨rfl, loop.symm⟩
  | incoming => exact ⟨loop.symm, rfl⟩
  | both => exact .inl ⟨rfl, loop.symm⟩

theorem contains_of_adjacent_to (wf : g.WellFormed) (step : g.Adjacent direction relations a b) :
    g.contains a = true :=
  contains_of_adjacent wf (adjacent_turned.mp step)

end Steps

theorem neighborIds_of_absent (absent : g.contains id = false) (direction : Direction)
    (relations : Option (List Relation)) :
    g.neighborIds id direction relations = .error (.nodeNotFound id) := by
  rw [neighborIds, absent]
  rfl

theorem neighbors_of_contains (wf : g.WellFormed) (here : g.contains id = true) (direction : Direction)
    (relations : Option (List Relation)) : ∃ found : List Node,
      g.neighbors id direction relations = .ok found ∧ (∀ n ∈ found, n ∈ g.nodes) ∧
      found.map (·.id) = g.adjacent direction relations id := by
  have known : ∀ other ∈ g.adjacent direction relations id, g.contains other = true :=
    fun other beside => contains_of_adjacent wf (mem_adjacent.mp beside)
  obtain ⟨found, same, nodes⟩ := exists_nodes_of_ids known
  have looked : (found.map (·.id)).mapM g.getNode = .ok (found.map fun n => n) :=
    mapM_map_eq_ok fun n hn => getNode_of_mem wf (nodes n hn)
  refine ⟨found, ?_, nodes, same⟩
  rw [neighbors, neighborIds_of_contains here, ← same]
  rw [List.map_id_fun', id_eq] at looked
  exact looked

/-- The node `b` is listed beside `a`. -/
def Neighboring (g : Graph) (direction : Direction) (relations : Option (List Relation))
    (a b : NodeId) : Prop :=
  ∃ ids, g.neighborIds a direction relations = .ok ids ∧ b ∈ ids

theorem neighboring_iff (wf : g.WellFormed) :
    g.Neighboring direction relations a b ↔ g.Adjacent direction relations a b := by
  constructor
  · rintro ⟨ids, answer, listed⟩
    cases here : g.contains a with
    | false =>
      rw [neighborIds_of_absent here] at answer
      cases answer
    | true =>
      rw [neighborIds_of_contains here] at answer
      cases answer
      exact mem_adjacent.mp listed
  · intro step
    have here := contains_of_adjacent_to wf step
    exact ⟨_, neighborIds_of_contains here direction relations, mem_adjacent.mpr step⟩

/-- In every store the neighbors of a node are asked for in vain exactly if the node is not there. They are
the nodes at the other ends of its links, by ascending ids. -/
theorem neighbors_are_one_hop (calls : List Call) (relations : Option (List Relation)) :
    let g := after calls
    (∀ id direction, g.contains id = false →
      g.neighborIds id direction relations = .error (.nodeNotFound id) ∧
      g.neighbors id direction relations = .error (.nodeNotFound id)) ∧
    (∀ id direction, g.contains id = true → ∃ found : List Node,
      g.neighborIds id direction relations = .ok (found.map (·.id)) ∧
      g.neighbors id direction relations = .ok found ∧ (∀ n ∈ found, n ∈ g.nodes) ∧
      (found.map (·.id)).Pairwise (fun a b => a.val < b.val) ∧
      ∀ x, x ∈ found.map (·.id) ↔ g.Adjacent direction relations id x) ∧
    (∀ l ∈ g.links, Allows relations l.relation → l.source = l.target → ∀ direction,
      g.Neighboring direction relations l.source l.source) ∧
    ∀ x y, g.Neighboring .outgoing relations y x ↔ g.Neighboring .incoming relations x y := by
  intro g
  have wf : g.WellFormed := after_wellFormed calls
  refine ⟨?_, ?_, ?_, ?_⟩
  · intro id direction absent
    refine ⟨neighborIds_of_absent absent direction relations, ?_⟩
    rw [neighbors, neighborIds_of_absent absent]
    rfl
  · intro id direction here
    obtain ⟨found, answer, nodes, same⟩ := neighbors_of_contains wf here direction relations
    refine ⟨found, ?_, answer, nodes, ?_, ?_⟩
    · rw [same, neighborIds_of_contains here]
    · rw [same]
      exact ascendingIds_ascending _
    · intro x
      rw [same, mem_adjacent]
  · intro l hl allowed loop direction
    exact (neighboring_iff wf).mpr (adjacent_self hl allowed loop direction)
  · intro x y
    rw [neighboring_iff wf, neighboring_iff wf]
    exact adjacent_turned

/-- Links beside one another, back and forth and from a node to itself, and a node that is put again. -/
def tangledCalls : List Call :=
  [.nodes [{ Node.new .file "a" with id := ⟨1⟩ }, { Node.new .file "b" with id := ⟨2⟩ },
      { Node.new .external "c" with id := ⟨3⟩ }],
    .links [⟨⟨1⟩, ⟨2⟩, .imports, none⟩, ⟨⟨1⟩, ⟨2⟩, .includes, none⟩, ⟨⟨2⟩, ⟨1⟩, .imports, none⟩,
      ⟨⟨1⟩, ⟨1⟩, .includes, none⟩, ⟨⟨3⟩, ⟨1⟩, .references, none⟩, ⟨⟨1⟩, ⟨4⟩, .imports, none⟩],
    .nodes [{ Node.new .symbol "b#run" with id := ⟨2⟩ }]]

theorem tangled_neighbors_are_one_hop :
    let some := Option.some [Relation.imports, Relation.includes]
    ((after tangledCalls).contains ⟨4⟩ = false ∧
      (after tangledCalls).neighbors ⟨4⟩ .both some = .error (.nodeNotFound ⟨4⟩)) ∧
    ((after tangledCalls).contains ⟨1⟩ = true ∧
      ∃ found, (after tangledCalls).neighbors ⟨1⟩ .both some = .ok found ∧
        found.map (·.id) = [⟨1⟩, ⟨2⟩]) ∧
    (⟨⟨1⟩, ⟨1⟩, .includes, none⟩ ∈ (after tangledCalls).links ∧ Allows some .includes ∧
      (after tangledCalls).Neighboring .incoming some ⟨1⟩ ⟨1⟩) ∧
    (after tangledCalls).Neighboring .incoming some ⟨1⟩ ⟨2⟩ := by
  intro some
  obtain ⟨absent, present, loops, turn⟩ := neighbors_are_one_hop tangledCalls some
  have unknown : (after tangledCalls).contains ⟨4⟩ = false := by decide
  have known : (after tangledCalls).contains ⟨1⟩ = true := by decide
  have loop : ⟨⟨1⟩, ⟨1⟩, .includes, none⟩ ∈ (after tangledCalls).links := by decide
  have allowed : Allows some .includes := allows_iff.mp (by decide)
  obtain ⟨found, ids, answer, _⟩ := present ⟨1⟩ .both known
  have listed : (after tangledCalls).neighborIds ⟨1⟩ .both some = .ok [⟨1⟩, ⟨2⟩] := by decide
  refine ⟨⟨unknown, (absent ⟨4⟩ .both unknown).2⟩,
    ⟨known, found, answer, Except.ok.inj (ids.symm.trans listed)⟩,
    ⟨loop, allowed, loops _ loop allowed rfl .incoming⟩, ?_⟩
  exact (turn ⟨1⟩ ⟨2⟩).mp ⟨[⟨1⟩], by decide, by decide⟩

end Graph

end SourceAtlas
