import SourceAtlas.Proofs.Graph.Put

/-! What holds of every graph that is made by putting nodes and links. The index of paths is part of
it: two files never share a path because the index leads the path of every file to that file, and
every entry of the index to a node that is still there and still has the path. -/
namespace SourceAtlas.Graph

structure WellFormed (g : Graph) : Prop where
  ids_distinct : (g.nodes.map (·.id)).Nodup
  ends_present : ∀ l ∈ g.links, g.contains l.source = true ∧ g.contains l.target = true
  keys_distinct : (g.links.map (·.key)).Nodup
  file_paths_distinct : ∀ a ∈ g.nodes, ∀ b ∈ g.nodes,
    a.kind = .file → b.kind = .file → a.path = b.path → a = b
  index_sound : g.IndexSound
  files_indexed : ∀ n ∈ g.nodes, n.kind = .file → g.paths.get? n.path = some n.id

theorem getNode_of_contains {g : Graph} {id : NodeId} (h : g.contains id = true) :
    ∃ n ∈ g.nodes, n.id = id ∧ g.getNode id = .ok n := by
  obtain ⟨n, hn, hid, found⟩ := node_of_contains h
  exact ⟨n, hn, hid, by simp [getNode, found]⟩

theorem files_distinct_of_indexed {g : Graph} (distinct : (g.nodes.map (·.id)).Nodup)
    (indexed : ∀ n ∈ g.nodes, n.kind = .file → g.paths.get? n.path = some n.id) :
    ∀ a ∈ g.nodes, ∀ b ∈ g.nodes, a.kind = .file → b.kind = .file → a.path = b.path → a = b := by
  intro a ha b hb fa fb same
  have ia := indexed a ha fa
  have ib := indexed b hb fb
  rw [← same, ia] at ib
  exact List.inj_on_of_nodup_map distinct ha hb (Option.some.inj ib)

namespace WellFormed

variable {g g' : Graph}

theorem empty : WellFormed Graph.empty where
  ids_distinct := List.nodup_nil
  ends_present := by simp [Graph.empty]
  keys_distinct := List.nodup_nil
  file_paths_distinct := by simp [Graph.empty]
  index_sound := by simp [IndexSound, Graph.empty]
  files_indexed := by simp [Graph.empty]

theorem node_unique (h : g.WellFormed) {a b : Node} (ha : a ∈ g.nodes) (hb : b ∈ g.nodes)
    (same : a.id = b.id) : a = b :=
  List.inj_on_of_nodup_map h.ids_distinct ha hb same

theorem kind_of_mem (h : g.WellFormed) {n : Node} (hn : n ∈ g.nodes) :
    g.kind? n.id = some n.kind := by
  rw [kind?, node_of_mem h.ids_distinct hn]
  rfl

/-- A node is refused exactly if it is a file and another file has its path. -/
theorem pathTaken_iff (h : g.WellFormed) {node : Node} : g.pathTaken node = true ↔
    node.kind = .file ∧
      ∃ m ∈ g.nodes, m.kind = .file ∧ m.path = node.path ∧ m.id ≠ node.id := by
  unfold pathTaken
  constructor
  · intro taken
    split at taken
    · next owner answers =>
      obtain ⟨m, hm, hid, hpath⟩ := h.index_sound node.path owner answers
      subst hid
      simp only [h.kind_of_mem hm, Bool.and_eq_true, decide_eq_true_eq, Option.some.injEq] at taken
      exact ⟨taken.1.2, m, hm, taken.2, hpath, taken.1.1⟩
    · cases taken
  · rintro ⟨file, m, hm, mfile, hpath, hid⟩
    have answers := h.files_indexed m hm mfile
    rw [hpath] at answers
    simp [answers, h.kind_of_mem hm, mfile, file, hid]

theorem mem_withNode (h : g.WellFormed) {node m : Node} :
    m ∈ (g.withNode node).nodes ↔ m = node ∨ m ∈ g.nodes ∧ m.id ≠ node.id :=
  mem_placeNode h.ids_distinct

theorem contains_withNode {node : Node} {id : NodeId} (h : g.contains id = true) :
    (g.withNode node).contains id = true := by
  rw [contains_iff_mem_ids] at h ⊢
  have ids : (g.withNode node).nodes.map (·.id) = _ := ids_placeNode
  rw [ids]
  split
  · exact h
  · exact List.mem_append_left _ h

theorem indexSound_withNode (h : g.WellFormed) (node : Node) : (g.withNode node).IndexSound := by
  intro path id entry
  -- An entry that was there before still leads to its node, unless that is the one put.
  have old : g.paths.get? path = some id → id ≠ node.id →
      ∃ n ∈ (g.withNode node).nodes, n.id = id ∧ n.path = path := by
    intro before ne
    obtain ⟨n, hn, hid, hpath⟩ := h.index_sound path id before
    exact ⟨n, h.mem_withNode.mpr (.inr ⟨hn, hid ▸ ne⟩), hid, hpath⟩
  rw [get_paths_withNode h.ids_distinct h.index_sound] at entry
  split at entry
  · next here =>
    by_cases self : id = node.id
    · exact ⟨node, h.mem_withNode.mpr (.inl rfl), self.symm, here.symm⟩
    · split at entry
      · exact absurd (Option.some.inj entry).symm self
      · cases before : g.paths.get? path with
        | none =>
          rw [before] at entry
          exact absurd (Option.some.inj entry).symm self
        | some owner =>
          rw [before] at entry
          exact old (before.trans entry) self
  · split at entry
    · cases entry
    · next notSelf => exact old entry fun e => notSelf (e ▸ entry)

theorem files_indexed_withNode (h : g.WellFormed) {node : Node} (free : g.pathTaken node = false) :
    ∀ n ∈ (g.withNode node).nodes, n.kind = .file →
      (g.withNode node).paths.get? n.path = some n.id := by
  intro n hn file
  rw [get_paths_withNode h.ids_distinct h.index_sound]
  rcases h.mem_withNode.mp hn with rfl | ⟨hn, ne⟩
  · simp [file]
  · have before := h.files_indexed n hn file
    have notSelf : ¬ g.paths.get? n.path = some node.id := by
      rw [before]
      exact fun e => ne (Option.some.inj e)
    split
    · next here =>
      split
      · next nodeFile =>
        have taken := h.pathTaken_iff.mpr ⟨nodeFile, n, hn, file, here, ne⟩
        rw [free] at taken
        cases taken
      · simp [before]
    · exact before

/-- Whatever is put, of whatever kind and path and whether its id is known or not. -/
theorem put (h : g.WellFormed) {node : Node} (ok : g.put node = .ok g') : g'.WellFormed := by
  obtain ⟨free, rfl⟩ := put_eq_ok_iff.mp ok
  have distinct : ((g.withNode node).nodes.map (·.id)).Nodup := nodup_placeNode h.ids_distinct
  have indexed := h.files_indexed_withNode free
  exact
    { ids_distinct := distinct
      ends_present := fun l hl =>
        ⟨contains_withNode (h.ends_present l hl).1, contains_withNode (h.ends_present l hl).2⟩
      keys_distinct := h.keys_distinct
      file_paths_distinct := files_distinct_of_indexed distinct indexed
      index_sound := h.indexSound_withNode node
      files_indexed := indexed }

theorem putLink (h : g.WellFormed) {link : Link} (ok : g.putLink link = .ok g') :
    g'.WellFormed := by
  obtain ⟨source, target, ⟨known, rfl⟩ | ⟨fresh, rfl⟩⟩ := putLink_cases ok
  · exact h
  · have ends : ∀ l ∈ g.links ++ [link], g.contains l.source = true ∧ g.contains l.target = true := by
      intro l hl
      rcases List.mem_append.mp hl with hl | hl
      · exact h.ends_present l hl
      · rw [List.mem_singleton.mp hl]
        exact ⟨source, target⟩
    have keys : ((g.links ++ [link]).map (·.key)).Nodup := by
      have new : link.key ∉ g.links.map (·.key) := by
        rw [← hasLink_iff, fresh]
        exact Bool.false_ne_true
      rw [List.map_append]
      simpa using h.keys_distinct.concat new
    exact
      { ids_distinct := h.ids_distinct
        ends_present := ends
        keys_distinct := keys
        file_paths_distinct := h.file_paths_distinct
        index_sound := h.index_sound
        files_indexed := h.files_indexed }

end WellFormed

end SourceAtlas.Graph
