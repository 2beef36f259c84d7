import SourceAtlas.Impact
import SourceAtlas.Proofs.Graph.History
import SourceAtlas.Search

/-! A graph made again from its lists. The nodes and links of a well-formed graph go into an empty one
without a fault and stand there in the same order. Only the index of paths may differ, and it does not
if no node ever changed its path or kind: then a path is answered by its file, or else by the first
node that has it. -/
namespace SourceAtlas.Graph

variable {placed : List Node} {linked : List Link} {g h : Graph}

theorem accepted_of_no_fault {α : Type} {put : Graph → α → Except Fault Graph} {xs : List α}
    (ok : g.putEach put xs = (h, none)) : accepted put g xs = xs := by
  induction xs generalizing g with
  | nil => rfl
  | cons x rest ih =>
    unfold putEach at ok
    split at ok
    · next next result => simp only [accepted, result, ih ok]
    · cases ok

theorem putNodes_fresh (wf : g.WellFormed) {batch : List Node}
    (distinct : ((g.nodes ++ batch).map (·.id)).Nodup)
    (files : ∀ a ∈ g.nodes ++ batch, ∀ b ∈ g.nodes ++ batch,
      a.kind = .file → b.kind = .file → a.path = b.path → a = b) :
    ∃ h, g.putNodes batch = (h, none) ∧ h.nodes = g.nodes ++ batch ∧ h.links = g.links := by
  induction batch generalizing g with
  | nil => exact ⟨g, rfl, by simp, rfl⟩
  | cons node rest ih =>
    have unknown : node.id ∉ g.nodes.map (·.id) := by
      intro known
      rw [List.map_append] at distinct
      exact (List.nodup_append.mp distinct).2.2 _ known _ List.mem_cons_self rfl
    have free : g.pathTaken node = false := by
      rw [Bool.eq_false_iff]
      intro taken
      obtain ⟨file, m, hm, mfile, path, other⟩ := wf.pathTaken_iff.mp taken
      have same := files m (List.mem_append_left _ hm) node
        (List.mem_append_right _ List.mem_cons_self) mfile file path
      exact other (congrArg Node.id same)
    have ok : g.put node = .ok (g.withNode node) := put_eq_ok_iff.mpr ⟨free, rfl⟩
    have nodes : (g.withNode node).nodes = g.nodes ++ [node] := placeNode_fresh unknown
    have split : g.nodes ++ node :: rest = (g.withNode node).nodes ++ rest := by
      rw [nodes, List.append_assoc, List.singleton_append]
    rw [split] at distinct files ⊢
    obtain ⟨h, put, hnodes, hlinks⟩ := ih (wf.put ok) distinct files
    refine ⟨h, ?_, hnodes, hlinks⟩
    rw [putNodes, putEach, ok]
    exact put

theorem putLinks_fresh {batch : List Link}
    (ends : ∀ l ∈ batch, g.contains l.source = true ∧ g.contains l.target = true)
    (distinct : ((g.links ++ batch).map (·.key)).Nodup) :
    g.putLinks batch = ({ g with links := g.links ++ batch }, none) := by
  induction batch generalizing g with
  | nil => simp [putLinks, putEach]
  | cons link rest ih =>
    have new : g.hasLink link.key = false := by
      rw [Bool.eq_false_iff, Ne, hasLink_iff]
      intro known
      rw [List.map_append] at distinct
      exact (List.nodup_append.mp distinct).2.2 _ known _ List.mem_cons_self rfl
    obtain ⟨source, target⟩ := ends link List.mem_cons_self
    have ok : g.putLink link = .ok { g with links := g.links ++ [link] } := by
      simp [putLink, source, target, new]
    have others := ih (g := { g with links := g.links ++ [link] })
      (fun l hl => ends l (List.mem_cons_of_mem _ hl)) (by simpa using distinct)
    rw [putLinks, putEach, ok]
    simpa [putLinks] using others

/-- The two lists of a well-formed graph make a graph with the same lists. -/
theorem restored (wf : g.WellFormed) : ∃ h₁ h, empty.putNodes g.nodes = (h₁, none) ∧
    h₁.putLinks g.links = (h, none) ∧ h.nodes = g.nodes ∧ h.links = g.links ∧
    Reached g.nodes g.links h := by
  have ids : ((empty.nodes ++ g.nodes).map (·.id)).Nodup := wf.ids_distinct
  obtain ⟨h₁, first, nodes, links⟩ := putNodes_fresh .empty ids wf.file_paths_distinct
  have none : h₁.links = [] := links
  have same : h₁.nodes = g.nodes := nodes
  have ends : ∀ l ∈ g.links, h₁.contains l.source = true ∧ h₁.contains l.target = true := by
    intro l hl
    simpa only [contains_iff_mem_ids, same] using wf.ends_present l hl
  have second := putLinks_fresh ends (by simpa [none] using wf.keys_distinct)
  have reached := (Reached.start.putNodes g.nodes).putLinks g.links
  rw [first, accepted_of_no_fault first] at reached
  rw [accepted_of_no_fault second, second] at reached
  exact ⟨h₁, _, first, second, same, by simp [none], reached⟩

/-- The node that a path stands for: the file of that path, or else the first node that has it. -/
def ownerOf (nodes : List Node) (path : String) : Option NodeId :=
  ((nodes.find? fun n => n.path = path && n.kind = .file).or
    (nodes.find? fun n => n.path = path)).map (·.id)

/-- No node is put again under another path or as another kind of thing. -/
def KeepsPlaces (placed : List Node) : Prop :=
  ∀ a ∈ placed, ∀ b ∈ placed, a.id = b.id → a.path = b.path ∧ a.kind = b.kind

theorem ownerOf_append (nodes : List Node) (node : Node) (path : String) :
    ownerOf (nodes ++ [node]) path =
      if path = node.path then
        if node.kind = .file ∧ (nodes.find? fun n => n.path = path && n.kind = .file) = none then
          some node.id
        else (ownerOf nodes path).or (some node.id)
      else ownerOf nodes path := by
  unfold ownerOf
  rw [List.find?_append, List.find?_append]
  by_cases here : path = node.path
  · subst here
    cases nodes.find? fun n => n.path = node.path && n.kind = .file <;>
      cases nodes.find? fun n => n.path = node.path <;>
      by_cases file : node.kind = .file <;> simp [file]
  · have other : ¬ node.path = path := fun e => here e.symm
    simp [here, other]

theorem ownerOf_placeNode {node : Node} {nodes : List Node}
    (same : ∀ n ∈ nodes, n.id = node.id → n.path = node.path ∧ n.kind = node.kind)
    (known : node.id ∈ nodes.map (·.id)) (path : String) :
    ownerOf (placeNode node nodes) path = ownerOf nodes path := by
  -- Both searches of `ownerOf` look at path and kind alone.
  have search : ∀ p : String → NodeKind → Bool,
      ((placeNode node nodes).find? fun n => p n.path n.kind).map (·.id) =
        (nodes.find? fun n => p n.path n.kind).map (·.id) := by
    intro p
    induction nodes with
    | nil => exact absurd known List.not_mem_nil
    | cons first rest ih =>
      by_cases h : first.id = node.id
      · obtain ⟨hpath, hkind⟩ := same first List.mem_cons_self h
        rw [placeNode, if_pos h, List.find?_cons, List.find?_cons, hpath, hkind]
        cases p node.path node.kind <;> simp [h]
      · have later : node.id ∈ rest.map (·.id) := by
          rcases List.mem_cons.mp known with e | later
          · exact absurd e.symm h
          · exact later
        rw [placeNode, if_neg h, List.find?_cons, List.find?_cons]
        cases p first.path first.kind
        · exact ih (fun n hn => same n (List.mem_cons_of_mem _ hn)) later
        · rfl
  unfold ownerOf
  rw [Option.map_or, Option.map_or, search fun q k => q = path && k = .file,
    search fun q _ => q = path]

theorem ownerOf_isSome {nodes : List Node} {n : Node} (hn : n ∈ nodes) :
    (ownerOf nodes n.path).isSome := by
  have found : (nodes.find? fun m => m.path = n.path).isSome := by
    rw [List.find?_isSome]
    exact ⟨n, hn, by simp⟩
  simp [ownerOf, found]

theorem get_paths_put_again (wf : g.WellFormed) {old node : Node} (hold : old ∈ g.nodes)
    (id : old.id = node.id) (place : old.path = node.path ∧ old.kind = node.kind)
    (answered : (g.paths.get? node.path).isSome) (path : String) :
    (g.withNode node).paths.get? path = g.paths.get? path := by
  rw [get_paths_withNode wf.ids_distinct wf.index_sound]
  by_cases here : path = node.path
  · subst here
    obtain ⟨owner, before⟩ := Option.isSome_iff_exists.mp answered
    by_cases file : node.kind = .file
    · have indexed := wf.files_indexed old hold (place.2.trans file)
      rw [place.1, id] at indexed
      simp [file, indexed]
    · simp [file, before]
  · have notSelf : ¬ g.paths.get? path = some node.id := by
      intro entry
      obtain ⟨n, hn, hid, hpath⟩ := wf.index_sound path node.id entry
      rw [wf.node_unique hn hold (hid.trans id.symm), place.1] at hpath
      exact here hpath.symm
    rw [if_neg here, if_neg notSelf]

theorem get_paths_put_fresh (wf : g.WellFormed) {node : Node}
    (answers : ∀ path, g.paths.get? path = ownerOf g.nodes path)
    (unknown : node.id ∉ g.nodes.map (·.id)) (free : g.pathTaken node = false) (path : String) :
    (g.withNode node).paths.get? path = ownerOf (g.nodes ++ [node]) path := by
  have notSelf : ¬ g.paths.get? path = some node.id := by
    intro entry
    obtain ⟨n, hn, hid, _⟩ := wf.index_sound path node.id entry
    exact unknown (List.mem_map.mpr ⟨n, hn, hid⟩)
  rw [get_paths_withNode wf.ids_distinct wf.index_sound, ownerOf_append, ← answers path]
  by_cases here : path = node.path
  · subst here
    by_cases file : node.kind = .file
    · have alone : (g.nodes.find? fun n => n.path = node.path && n.kind = .file) = none := by
        rw [List.find?_eq_none]
        intro n hn same
        simp only [Bool.and_eq_true, decide_eq_true_eq] at same
        have taken := wf.pathTaken_iff.mpr ⟨file, n, hn, same.2, same.1, fun e =>
          unknown (List.mem_map.mpr ⟨n, hn, e⟩)⟩
        rw [free] at taken
        cases taken
      simp [file, alone]
    · cases g.paths.get? node.path <;> simp [file]
  · simp [here, notSelf]

/-- As long as nodes keep their places, the list of nodes tells what every path answers. -/
theorem get_paths_of_keepsPlaces (reached : Reached placed linked g) (keeps : KeepsPlaces placed)
    (path : String) : g.paths.get? path = ownerOf g.nodes path := by
  -- A node that is put is either one put again in its place, or it comes last; neither takes a path
  -- away from the node that the list says.
  induction reached generalizing path with
  | start => rfl
  | @node placed linked g g' node before ok ih =>
    obtain ⟨free, rfl⟩ := put_eq_ok_iff.mp ok
    have wf := before.wellFormed
    have answers := ih fun a ha b hb =>
      keeps a (List.mem_append_left _ ha) b (List.mem_append_left _ hb)
    have place : ∀ n ∈ g.nodes, n.id = node.id → n.path = node.path ∧ n.kind = node.kind :=
      fun n hn => keeps n (List.mem_append_left _ (before.mem_placed hn)) node
        (List.mem_append_right _ List.mem_cons_self)
    by_cases known : node.id ∈ g.nodes.map (·.id)
    · obtain ⟨old, hold, id⟩ := List.mem_map.mp known
      have answered : (g.paths.get? node.path).isSome := by
        rw [answers, ← (place old hold id).1]
        exact ownerOf_isSome hold
      rw [get_paths_put_again wf hold id (place old hold id) answered, answers]
      exact (ownerOf_placeNode place known path).symm
    · rw [get_paths_put_fresh wf answers known free, withNode, placeNode_fresh known]
  | link _ ok ih =>
    obtain ⟨_, _, ⟨_, rfl⟩ | ⟨_, rfl⟩⟩ := putLink_cases ok
    · exact ih keeps path
    · exact ih keeps path

theorem WellFormed.keepsPlaces (wf : g.WellFormed) : KeepsPlaces g.nodes := by
  intro a ha b hb same
  rw [wf.node_unique ha hb same]
  exact ⟨rfl, rfl⟩

theorem paths_eq_of_keepsPlaces (reached : Reached placed linked g) (keeps : KeepsPlaces placed)
    (again : Reached g.nodes g.links h) (hn : h.nodes = g.nodes) : h.paths = g.paths := by
  apply TextMap.ext_get
  intro path
  rw [get_paths_of_keepsPlaces again reached.wellFormed.keepsPlaces, hn,
    get_paths_of_keepsPlaces reached keeps]

/-- Only the answers to paths look into the index. -/
theorem node?_eq_of_lists (hn : h.nodes = g.nodes) : h.node? = g.node? := by
  funext id
  simp only [node?, hn]

theorem getNode_eq_of_lists (hn : h.nodes = g.nodes) (id : NodeId) : h.getNode id = g.getNode id := by
  simp only [getNode, node?_eq_of_lists hn]

theorem contains_eq_of_lists (hn : h.nodes = g.nodes) (id : NodeId) :
    h.contains id = g.contains id := by
  simp only [contains, hn]

theorem neighborIds_eq_of_lists (hn : h.nodes = g.nodes) (hl : h.links = g.links) (id : NodeId)
    (direction : Direction) (relations : Option (List Relation)) :
    h.neighborIds id direction relations = g.neighborIds id direction relations := by
  simp only [neighborIds, adjacent, contains_eq_of_lists hn, hl]

theorem neighbors_eq_of_lists (hn : h.nodes = g.nodes) (hl : h.links = g.links) (id : NodeId)
    (direction : Direction) (relations : Option (List Relation)) :
    h.neighbors id direction relations = g.neighbors id direction relations := by
  have same : h.getNode = g.getNode := funext (getNode_eq_of_lists hn)
  simp only [neighbors, neighborIds_eq_of_lists hn hl, same]

theorem search_eq_of_lists (hn : h.nodes = g.nodes) (text : String) (limit offset : Nat) :
    h.search text limit offset = g.search text limit offset := by
  simp only [search, hn]

theorem walk_eq_of_lists (hn : h.nodes = g.nodes) (hl : h.links = g.links) (direction : Direction)
    (relations : Option (List Relation)) (depth : Nat) (met queue : List Reach) :
    h.walk direction relations depth met queue = g.walk direction relations depth met queue := by
  fun_induction g.walk direction relations depth met queue with
  | case1 met => rw [walk]
  | case2 met current rest far ih => rw [walk, if_pos far, ih]
  | case3 met current rest near fault failed =>
    rw [← neighborIds_eq_of_lists hn hl] at failed
    rw [walk, if_neg near]
    split
    · next other failed' =>
      cases failed'.symm.trans failed
      rfl
    · next ids answer => cases answer.symm.trans failed
  | case4 met current rest near ids answer ih =>
    rw [← neighborIds_eq_of_lists hn hl] at answer
    rw [walk, if_neg near]
    split
    · next other failed => cases answer.symm.trans failed
    · next ids' answer' =>
      cases answer.symm.trans answer'
      exact ih

theorem impact_eq_of_lists (hn : h.nodes = g.nodes) (hl : h.links = g.links) (origin : NodeId)
    (query : ImpactQuery) (cap : Nat) : h.impact origin query cap = g.impact origin query cap := by
  simp only [impact, contains_eq_of_lists hn, walk_eq_of_lists hn hl]

end SourceAtlas.Graph
