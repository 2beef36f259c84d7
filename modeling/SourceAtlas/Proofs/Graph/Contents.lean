import SourceAtlas.Proofs.Graph.Batch

/-! What a store holds after a history of calls, told from the items of the calls alone. A node takes its
place when its id is put for the first time and its content from the last time; a link is there from the
first time that its key is put, and nothing that happens to its ends changes it. -/
namespace SourceAtlas.Graph

variable {placed : List Node} {linked : List Link} {g g' : Graph} {node : Node}

/-- What a call takes of its batch: all of it, or what stands in front of the item at which it fails. -/
def Takes {α : Type} (put : Graph → α → Except Fault Graph) (g : Graph) (batch taken : List α) : Prop :=
  taken = batch ∧ (g.putEach put batch).2 = none ∨
    ∃ x rest fault, batch = taken ++ x :: rest ∧ put (g.putEach put batch).1 x = .error fault ∧
      (g.putEach put batch).2 = some fault

theorem takes_accepted {α : Type} (put : Graph → α → Except Fault Graph) (g : Graph) (batch : List α) :
    Takes put g batch (g.accepted put batch) := by
  induction batch generalizing g with
  | nil => exact .inl ⟨rfl, rfl⟩
  | cons x rest ih =>
    cases result : put g x with
    | error fault => exact .inr ⟨x, rest, fault, by simp [accepted, putEach, result]⟩
    | ok next =>
      simp only [Takes, accepted, putEach, result]
      rcases ih next with ⟨all, done⟩ | ⟨y, more, fault, split, refused, failed⟩
      · exact .inl ⟨by rw [all], done⟩
      · exact .inr ⟨y, more, fault, by rw [List.cons_append, ← split], refused, failed⟩

namespace Reached

theorem ids_eq (reached : Reached placed linked g) :
    g.nodes.map (·.id) = (distinctBy (·.id) placed).map (·.id) := by
  induction reached with
  | start => rfl
  | @node placed linked g g' node _ ok ih =>
    obtain ⟨_, rfl⟩ := put_eq_ok_iff.mp ok
    have ids : (g.withNode node).nodes.map (·.id) = _ := ids_placeNode
    have known_iff : node.id ∈ g.nodes.map (·.id) ↔ node.id ∈ placed.map (·.id) := by
      rw [ih, mem_distinctBy_keys]
    rw [ids, distinctBy_concat]
    by_cases known : node.id ∈ placed.map (·.id)
    · rw [if_pos (known_iff.mpr known), if_pos known, ih]
    · rw [if_neg fun present => known (known_iff.mp present), if_neg known, List.map_append, ih,
        List.map_singleton]
  | link _ ok ih =>
    obtain ⟨_, _, ⟨_, rfl⟩ | ⟨_, rfl⟩⟩ := putLink_cases ok
    · exact ih
    · exact ih

theorem node_eq (reached : Reached placed linked g) (id : NodeId) :
    g.node? id = placed.reverse.find? (·.id = id) := by
  induction reached with
  | start => rfl
  | @node placed linked g g' node _ ok ih =>
    obtain ⟨_, rfl⟩ := put_eq_ok_iff.mp ok
    rw [node_withNode, List.reverse_append, List.reverse_singleton, List.singleton_append,
      List.find?_cons, ih]
    by_cases here : node.id = id
    · simp [here]
    · simp [here]
  | link _ ok ih =>
    obtain ⟨_, _, ⟨_, rfl⟩ | ⟨_, rfl⟩⟩ := putLink_cases ok
    · exact ih
    · exact ih

theorem mem_nodes_iff (reached : Reached placed linked g) {n : Node} :
    n ∈ g.nodes ↔ placed.reverse.find? (·.id = n.id) = some n := by
  rw [← reached.node_eq]
  constructor
  · exact node_of_mem reached.wellFormed.ids_distinct
  · exact fun found => (mem_of_node found).1

theorem links_eq (reached : Reached placed linked g) : g.links = distinctBy Link.key linked := by
  induction reached with
  | start => rfl
  | node _ ok ih =>
    obtain ⟨_, rfl⟩ := put_eq_ok_iff.mp ok
    exact ih
  | @link placed linked g g' link _ ok ih =>
    have known_iff : g.hasLink link.key = true ↔ link.key ∈ linked.map Link.key := by
      rw [hasLink_iff, ih, mem_distinctBy_keys]
    rw [distinctBy_concat]
    obtain ⟨_, _, ⟨known, rfl⟩ | ⟨fresh, rfl⟩⟩ := putLink_cases ok
    · rw [if_pos (known_iff.mp known), ih]
    · have new : link.key ∉ linked.map Link.key := by
        rw [← known_iff, fresh]
        exact Bool.false_ne_true
      rw [if_neg new, ih]

end Reached

theorem placeNode_known {nodes : List Node} (distinct : (nodes.map (·.id)).Nodup)
    (known : node.id ∈ nodes.map (·.id)) :
    placeNode node nodes = nodes.map fun n => if n.id = node.id then node else n := by
  induction nodes with
  | nil => cases known
  | cons first rest ih =>
    obtain ⟨alone, distinct⟩ := List.nodup_cons.mp distinct
    by_cases here : first.id = node.id
    · have others : rest.map (fun n => if n.id = node.id then node else n) = rest.map id := by
        apply List.map_congr_left
        intro n hn
        have other : n.id ≠ node.id := fun same => alone (List.mem_map.mpr ⟨n, hn, same.trans here.symm⟩)
        rw [if_neg other, id]
      rw [placeNode, if_pos here, List.map_cons, if_pos here, others, List.map_id]
    · have later : node.id ∈ rest.map (·.id) := by
        rcases List.mem_cons.mp known with same | later
        · exact absurd same.symm here
        · exact later
      rw [placeNode, if_neg here, List.map_cons, if_neg here, ih distinct later]

/-- A node that is put again changes neither links nor other nodes. -/
theorem WellFormed.put_again (wf : g.WellFormed) (known : g.contains node.id = true)
    (put : g.put node = .ok g') : g'.links = g.links ∧
      g'.nodes = g.nodes.map fun n => if n.id = node.id then node else n := by
  obtain ⟨_, rfl⟩ := put_eq_ok_iff.mp put
  exact ⟨rfl, placeNode_known wf.ids_distinct (contains_iff_mem_ids.mp known)⟩

theorem putLinks_fails_iff {batch : List Link} : (∃ fault, (g.putLinks batch).2 = some fault) ↔
    ∃ l ∈ batch, g.contains l.source = false ∨ g.contains l.target = false := by
  constructor
  · rintro ⟨fault, failed⟩
    by_contra allPresent
    have ends : ∀ l ∈ batch, g.contains l.source = true ∧ g.contains l.target = true := by
      intro l hl
      have present : ¬ (g.contains l.source = false ∨ g.contains l.target = false) :=
        fun absent => allPresent ⟨l, hl, absent⟩
      simpa [not_or] using present
    obtain ⟨h, ok⟩ := putLinks_ok_iff.mpr ends
    rw [ok] at failed
    cases failed
  · rintro ⟨l, hl, absent⟩
    cases result : (g.putLinks batch).2 with
    | some fault => exact ⟨fault, rfl⟩
    | none =>
      have ends := putLinks_ok_iff.mp ⟨_, Prod.ext rfl result⟩ l hl
      simp [ends.1, ends.2] at absent

/-- After any calls, of which one that fails has taken what stands in front of the item it fails at, the
store has the last node of every id, in order of the first, and the first link of every key. -/
theorem contents_after (calls : List Call) :
    (∀ h : Graph, (∀ batch, Takes put h batch (h.accepted put batch)) ∧
      ∀ batch, Takes putLink h batch (h.accepted putLink batch)) ∧
    (after calls).nodes.map (·.id) =
      (distinctBy (·.id) (empty.placedNodes calls)).map (·.id) ∧
    (∀ n, n ∈ (after calls).nodes ↔
      (empty.placedNodes calls).reverse.find? (·.id = n.id) = some n) ∧
    (after calls).links = distinctBy Link.key (empty.placedLinks calls) ∧
    (∀ node g', (after calls).contains node.id = true → (after calls).put node = .ok g' →
      g'.links = (after calls).links ∧
        g'.nodes = (after calls).nodes.map fun n => if n.id = node.id then node else n) ∧
    ∀ batch, (∃ fault, ((after calls).putLinks batch).2 = some fault) ↔
      ∃ l ∈ batch, (after calls).contains l.source = false ∨ (after calls).contains l.target = false := by
  have reached := reached_after calls
  refine ⟨fun h => ⟨takes_accepted put h, takes_accepted putLink h⟩, reached.ids_eq,
    fun _ => reached.mem_nodes_iff, reached.links_eq, ?_, fun _ => putLinks_fails_iff⟩
  intro node g' known ok
  exact reached.wellFormed.put_again known ok

/-- A file moves, another is refused at its path together with what comes behind it, and a link is put
twice before one without an end. -/
def movingCalls : List Call :=
  [.nodes [⟨⟨1⟩, "a.rs", .file, .empty, .none⟩, ⟨⟨2⟩, "b.rs", .file, .empty, .none⟩],
    .links [⟨⟨2⟩, ⟨1⟩, .imports, some 3⟩, ⟨⟨2⟩, ⟨1⟩, .imports, some 1⟩, ⟨⟨2⟩, ⟨4⟩, .imports, some 5⟩,
      ⟨⟨1⟩, ⟨2⟩, .imports, some 6⟩],
    .nodes [⟨⟨1⟩, "c.rs", .file, .empty, .none⟩, ⟨⟨3⟩, "b.rs", .file, .empty, .none⟩,
      ⟨⟨4⟩, "d.rs", .file, .empty, .none⟩]]

def renamedFile : Node := ⟨⟨2⟩, "e.rs", .file, .empty, .none⟩

theorem contents_of_moving :
    ((after movingCalls).contains renamedFile.id = true ∧
      ((after movingCalls).put renamedFile).isOk = true) ∧
    (after movingCalls).nodes.map (·.id) = [⟨1⟩, ⟨2⟩] ∧
    ⟨⟨1⟩, "c.rs", .file, .empty, .none⟩ ∈ (after movingCalls).nodes ∧
    (after movingCalls).links = [⟨⟨2⟩, ⟨1⟩, .imports, some 3⟩] ∧
    (∃ g', (after movingCalls).put renamedFile = .ok g' ∧ g'.links = (after movingCalls).links) ∧
    ∃ fault, ((after movingCalls).putLinks [⟨⟨1⟩, ⟨4⟩, .imports, none⟩]).2 = some fault := by
  have known : (after movingCalls).contains renamedFile.id = true := by decide +kernel
  have accepted : ((after movingCalls).put renamedFile).isOk = true := by decide +kernel
  obtain ⟨_, ids, last, links, again, fails⟩ := contents_after movingCalls
  refine ⟨⟨known, accepted⟩, ids.trans (by decide +kernel), (last _).mpr (by decide +kernel),
    links.trans (by decide +kernel), ?_, (fails _).mpr (by decide +kernel)⟩
  cases result : (after movingCalls).put renamedFile with
  | error fault =>
    rw [result] at accepted
    cases accepted
  | ok g' => exact ⟨g', rfl, (again renamedFile g' known result).1⟩

end SourceAtlas.Graph
