import SourceAtlas.Graph.Basic
import SourceAtlas.Proofs.TextMap

/-! What putting one node or one link does to a graph: which nodes it holds afterwards, in which
order their ids stand, and what the index of paths answers. Callers use these facts and never look
into how a node is placed. -/
namespace SourceAtlas.Graph

theorem contains_iff {g : Graph} {id : NodeId} :
    g.contains id = true ↔ ∃ n ∈ g.nodes, n.id = id := by
  simp [contains]

theorem contains_iff_mem_ids {g : Graph} {id : NodeId} :
    g.contains id = true ↔ id ∈ g.nodes.map (·.id) := by
  rw [contains_iff, List.mem_map]

theorem mem_of_node {g : Graph} {id : NodeId} {n : Node} (h : g.node? id = some n) :
    n ∈ g.nodes ∧ n.id = id :=
  ⟨List.mem_of_find?_eq_some h, by simpa using List.find?_some h⟩

theorem node_of_contains {g : Graph} {id : NodeId} (h : g.contains id = true) :
    ∃ n ∈ g.nodes, n.id = id ∧ g.node? id = some n := by
  obtain ⟨m, hm, he⟩ := contains_iff.mp h
  have found : (g.node? id).isSome := by
    rw [node?, List.find?_isSome]
    exact ⟨m, hm, by simpa using he⟩
  obtain ⟨n, hn⟩ := Option.isSome_iff_exists.mp found
  exact ⟨n, (mem_of_node hn).1, (mem_of_node hn).2, hn⟩

theorem node_eq_none_iff {g : Graph} {id : NodeId} : g.node? id = none ↔ g.contains id = false := by
  simp [node?, contains]

theorem node_of_mem {g : Graph} (distinct : (g.nodes.map (·.id)).Nodup) {n : Node}
    (h : n ∈ g.nodes) : g.node? n.id = some n := by
  obtain ⟨m, hm, same, found⟩ := node_of_contains (contains_iff.mpr ⟨n, h, rfl⟩)
  rw [found, List.inj_on_of_nodup_map distinct hm h same]

section Place

variable {node : Node} {nodes : List Node}

/-- A new id comes last; a known one stays where it is. -/
theorem ids_placeNode : (placeNode node nodes).map (·.id) =
    if node.id ∈ nodes.map (·.id) then nodes.map (·.id) else nodes.map (·.id) ++ [node.id] := by
  induction nodes with
  | nil => rfl
  | cons first rest ih =>
    by_cases h : first.id = node.id
    · simp [placeNode, h]
    · have other : ¬ node.id = first.id := fun e => h e.symm
      simp only [placeNode, if_neg h, List.map_cons, ih, List.mem_cons, other, false_or]
      split <;> rfl

theorem placeNode_fresh (fresh : node.id ∉ nodes.map (·.id)) :
    placeNode node nodes = nodes ++ [node] := by
  induction nodes with
  | nil => rfl
  | cons first rest ih =>
    simp only [List.map_cons, List.mem_cons, not_or] at fresh
    have h : ¬ first.id = node.id := fun e => fresh.1 e.symm
    rw [placeNode, if_neg h, ih fresh.2, List.cons_append]

theorem nodup_placeNode (distinct : (nodes.map (·.id)).Nodup) :
    ((placeNode node nodes).map (·.id)).Nodup := by
  rw [ids_placeNode]
  split
  · exact distinct
  · next fresh => simpa using distinct.concat fresh

theorem mem_placeNode (distinct : (nodes.map (·.id)).Nodup) {m : Node} :
    m ∈ placeNode node nodes ↔ m = node ∨ m ∈ nodes ∧ m.id ≠ node.id := by
  induction nodes with
  | nil => simp [placeNode]
  | cons first rest ih =>
    rw [List.map_cons, List.nodup_cons] at distinct
    by_cases h : first.id = node.id
    · have others : ∀ n ∈ rest, n.id ≠ node.id := fun n hn e =>
        distinct.1 (List.mem_map.mpr ⟨n, hn, e.trans h.symm⟩)
      rw [placeNode, if_pos h, List.mem_cons, List.mem_cons]
      constructor
      · rintro (hm | hm)
        · exact .inl hm
        · exact .inr ⟨.inr hm, others m hm⟩
      · rintro (hm | ⟨hm | hm, ne⟩)
        · exact .inl hm
        · exact absurd (hm ▸ h) ne
        · exact .inr hm
    · rw [placeNode, if_neg h, List.mem_cons, ih distinct.2, List.mem_cons]
      constructor
      · rintro (hm | hm | ⟨hm, ne⟩)
        · exact .inr ⟨.inl hm, hm ▸ h⟩
        · exact .inl hm
        · exact .inr ⟨.inr hm, ne⟩
      · rintro (hm | ⟨hm | hm, ne⟩)
        · exact .inr (.inl hm)
        · exact .inl hm
        · exact .inr (.inr ⟨hm, ne⟩)

end Place

/-- Every entry of the index leads to a node of that path. -/
def IndexSound (g : Graph) : Prop :=
  ∀ path id, g.paths.get? path = some id → ∃ n ∈ g.nodes, n.id = id ∧ n.path = path

section Index

variable {g : Graph} {node : Node}

def withNode (g : Graph) (node : Node) : Graph :=
  ⟨placeNode node g.nodes, g.links, claimPath (g.releasedPaths node) node⟩

theorem put_eq_ok_iff {g' : Graph} :
    g.put node = .ok g' ↔ g.pathTaken node = false ∧ g' = g.withNode node := by
  unfold put
  cases taken : g.pathTaken node
  · simp [withNode, eq_comm]
  · simp

theorem get_claimPath (paths : TextMap NodeId) (path : String) : (claimPath paths node).get? path =
    if path = node.path ∧ (node.kind = .file ∨ paths.get? path = none) then some node.id
    else paths.get? path := by
  unfold claimPath
  rw [TextMap.contains_eq_isSome]
  by_cases here : path = node.path
  · subst here
    cases owner : paths.get? node.path <;> by_cases file : node.kind = .file <;> simp [file, owner]
  · have other : ¬ node.path = path := fun e => here e.symm
    split <;> simp [here, TextMap.get_insert_of_ne other]

/-- The node gives up every path that it answered to, other than its new one. -/
theorem get_releasedPaths (distinct : (g.nodes.map (·.id)).Nodup) (sound : g.IndexSound)
    (path : String) : (g.releasedPaths node).get? path =
      if path ≠ node.path ∧ g.paths.get? path = some node.id then none else g.paths.get? path := by
  unfold releasedPaths
  cases found : g.node? node.id with
  | none =>
    have absent := node_eq_none_iff.mp found
    have never : g.paths.get? path ≠ some node.id := by
      intro h
      obtain ⟨n, hn, hid, _⟩ := sound path node.id h
      rw [contains_iff.mpr ⟨n, hn, hid⟩] at absent
      cases absent
    simp [never]
  | some old =>
    obtain ⟨hold, hid⟩ := mem_of_node found
    have owned : ∀ {p}, g.paths.get? p = some node.id → old.path = p := by
      intro p h
      obtain ⟨n, hn, hnid, hp⟩ := sound p node.id h
      rw [← hp, List.inj_on_of_nodup_map distinct hold hn (hid.trans hnid.symm)]
    by_cases h : g.paths.get? path = some node.id
    · have here := owned h
      subst here
      by_cases moved : old.path = node.path <;> simp [h, moved, TextMap.get_erase]
    · simp only [h, and_false, if_false]
      split
      · next moved =>
        have other : ¬ old.path = path := fun e => h (e ▸ moved.2)
        simp [TextMap.get_erase, other]
      · rfl

/-- The index after a node is put: its path answers, with the node itself if that is a file or the
path was free, and no other path answers with it. -/
theorem get_paths_withNode (distinct : (g.nodes.map (·.id)).Nodup) (sound : g.IndexSound)
    (path : String) : (g.withNode node).paths.get? path =
      if path = node.path then
        some (if node.kind = .file then node.id else (g.paths.get? path).getD node.id)
      else if g.paths.get? path = some node.id then none else g.paths.get? path := by
  rw [withNode, get_claimPath, get_releasedPaths distinct sound]
  by_cases here : path = node.path
  · subst here
    cases g.paths.get? node.path <;> by_cases file : node.kind = .file <;> simp [file]
  · simp [here]

end Index

theorem putLink_cases {g g' : Graph} {link : Link} (h : g.putLink link = .ok g') :
    g.contains link.source = true ∧ g.contains link.target = true ∧
      (g.hasLink link.key = true ∧ g' = g ∨
        g.hasLink link.key = false ∧ g' = { g with links := g.links ++ [link] }) := by
  unfold putLink at h
  split at h
  · next ends =>
    rw [Bool.and_eq_true] at ends
    cases h
    cases known : g.hasLink link.key
    · exact ⟨ends.1, ends.2, .inr ⟨rfl, by simp⟩⟩
    · exact ⟨ends.1, ends.2, .inl ⟨rfl, by simp⟩⟩
  · cases h

theorem hasLink_iff {g : Graph} {key : NodeId × NodeId × Relation} :
    g.hasLink key = true ↔ key ∈ g.links.map (·.key) := by
  simp [hasLink]

end SourceAtlas.Graph
