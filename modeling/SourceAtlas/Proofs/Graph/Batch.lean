import SourceAtlas.Proofs.Distinct
import SourceAtlas.Proofs.Graph.History

/-! What a whole batch does to a graph. Of several nodes of one id the last one put stands in the graph,
of several links of one key the first. Nodes are never refused as long as files of one path have one id,
whatever other nodes share an id. -/
namespace SourceAtlas

/-- The id is the one that belongs to the kind and the path. -/
def Node.Named (n : Node) : Prop := n.id = NodeId.of n.kind n.path

/-- Files of one path have one id. -/
def FilesAlike (nodes : List Node) : Prop :=
  ∀ a ∈ nodes, ∀ b ∈ nodes, a.kind = .file → b.kind = .file → a.path = b.path → a.id = b.id

theorem filesAlike_of_named {nodes : List Node} (named : ∀ n ∈ nodes, n.Named) : FilesAlike nodes := by
  intro a ha b hb aFile bFile path
  rw [named a ha, named b hb, aFile, bFile, path]

namespace Graph

variable {α : Type} {g h : Graph} {node : Node} {batch : List Node}

theorem node_withNode (g : Graph) (node : Node) (id : NodeId) :
    (g.withNode node).node? id = if node.id = id then some node else g.node? id := by
  have placed : ∀ nodes, (placeNode node nodes).find? (·.id = id) =
      if node.id = id then some node else nodes.find? (·.id = id) := by
    intro nodes
    induction nodes with
    | nil => by_cases here : node.id = id <;> simp [placeNode, here]
    | cons first rest ih =>
      by_cases known : first.id = node.id
      · rw [placeNode, if_pos known, List.find?_cons, List.find?_cons, known]
        by_cases here : node.id = id <;> simp [here]
      · rw [placeNode, if_neg known, List.find?_cons, List.find?_cons, ih]
        by_cases here : node.id = id
        · have other : ¬ first.id = id := fun e => known (e.trans here.symm)
          simp [here, other]
        · simp [here]
  exact placed g.nodes

theorem putEach_cons {put : Graph → α → Except Fault Graph} {x : α} {rest : List α}
    (ok : put g x = .ok h) : g.putEach put (x :: rest) = h.putEach put rest := by
  rw [putEach, ok]

theorem putNodes_cons (free : g.pathTaken node = false) :
    g.putNodes (node :: batch) = (g.withNode node).putNodes batch :=
  putEach_cons (put_eq_ok_iff.mpr ⟨free, rfl⟩)

theorem putNodes_append {batch' : List Node} (first : g.putNodes batch = (h, none)) :
    g.putNodes (batch ++ batch') = h.putNodes batch' := by
  induction batch generalizing g with
  | nil =>
    cases first
    rfl
  | cons node rest ih =>
    cases taken : g.pathTaken node with
    | true => simp [putNodes, putEach, Graph.put, taken] at first
    | false =>
      rw [putNodes_cons taken] at first
      rw [List.cons_append, putNodes_cons taken, ih first]

/-- Of several nodes of one id the last one stands in the graph. -/
theorem node_of_putNodes (put : g.putNodes batch = (h, none)) (id : NodeId) :
    h.node? id = (batch.reverse.find? (·.id = id)).or (g.node? id) := by
  induction batch generalizing g with
  | nil =>
    cases put
    rfl
  | cons node rest ih =>
    cases taken : g.pathTaken node with
    | true => simp [putNodes, putEach, Graph.put, taken] at put
    | false =>
      rw [putNodes_cons taken] at put
      rw [ih put, node_withNode, List.reverse_cons, List.find?_append, Option.or_assoc]
      congr 1
      by_cases here : node.id = id <;> simp [here]

theorem contains_of_putNodes (put : g.putNodes batch = (h, none)) {id : NodeId} :
    h.contains id = true ↔ id ∈ (g.nodes ++ batch).map (·.id) := by
  have isSome : ∀ f : Graph, f.contains id = (f.node? id).isSome := by
    intro f
    rw [node?, contains, Bool.eq_iff_iff, List.find?_isSome, List.any_eq_true]
  rw [isSome, node_of_putNodes put, Option.isSome_or, Bool.or_eq_true, ← isSome, contains_iff_mem_ids,
    List.find?_isSome, List.map_append, List.mem_append, or_comm]
  simp

theorem putNodes_alike (wf : g.WellFormed) (alike : FilesAlike (g.nodes ++ batch)) :
    ∃ h, g.putNodes batch = (h, none) ∧ h.WellFormed ∧ h.links = g.links ∧
      ∀ n ∈ h.nodes, n ∈ g.nodes ++ batch := by
  induction batch generalizing g with
  | nil => exact ⟨g, rfl, wf, rfl, by simp⟩
  | cons node rest ih =>
    have free : g.pathTaken node = false := by
      rw [Bool.eq_false_iff]
      intro taken
      -- The path can only be taken by a file of the same id, which the new one replaces.
      obtain ⟨file, m, hm, mfile, path, other⟩ := wf.pathTaken_iff.mp taken
      exact other (alike m (List.mem_append_left _ hm) node
        (List.mem_append_right _ List.mem_cons_self) mfile file path)
    have kept : ∀ n ∈ (g.withNode node).nodes ++ rest, n ∈ g.nodes ++ node :: rest := by
      intro n hn
      rcases List.mem_append.mp hn with hn | hn
      · rcases wf.mem_withNode.mp hn with rfl | ⟨hn, _⟩
        · exact List.mem_append_right _ List.mem_cons_self
        · exact List.mem_append_left _ hn
      · exact List.mem_append_right _ (List.mem_cons_of_mem _ hn)
    have next : (g.withNode node).WellFormed := wf.put (put_eq_ok_iff.mpr ⟨free, rfl⟩)
    obtain ⟨h, put, wf', links, known⟩ :=
      ih next fun a ha b hb => alike a (kept a ha) b (kept b hb)
    exact ⟨h, (putNodes_cons free).trans put, wf', links, fun n hn => kept n (known n hn)⟩

/-- Of several links of one key the first one stands in the graph. -/
theorem putLinks_distinct {batch : List Link}
    (ends : ∀ l ∈ batch, g.contains l.source = true ∧ g.contains l.target = true) :
    g.putLinks batch = ({ g with
      links := g.links ++ (distinctBy Link.key batch).filter fun l => !g.hasLink l.key }, none) := by
  induction batch generalizing g with
  | nil => simp [putLinks, putEach, distinctBy]
  | cons link rest ih =>
    obtain ⟨source, target⟩ := ends link List.mem_cons_self
    have later : ∀ l ∈ rest, g.contains l.source = true ∧ g.contains l.target = true :=
      fun l hl => ends l (List.mem_cons_of_mem _ hl)
    cases known : g.hasLink link.key with
    | true =>
      have ok : g.putLink link = .ok g := by simp [putLink, source, target, known]
      have others := ih later
      rw [putLinks] at others ⊢
      rw [putEach_cons ok, others, distinctBy, List.filter_cons, List.filter_filter]
      simp only [known, Bool.not_true, Bool.false_eq_true, if_false]
      congr 3
      apply List.filter_congr
      intro l _
      by_cases same : l.key = link.key <;> simp [same, known]
    | false =>
      have ok : g.putLink link = .ok { g with links := g.links ++ [link] } := by
        simp [putLink, source, target, known]
      have others := ih (g := { g with links := g.links ++ [link] }) later
      rw [putLinks] at others ⊢
      rw [putEach_cons ok, others, distinctBy, List.filter_cons, List.filter_filter]
      simp only [known, Bool.not_false, if_true, List.append_assoc, List.singleton_append]
      congr 4
      apply List.filter_congr
      intro l _
      by_cases same : l.key = link.key
      · simp [hasLink, same]
      · have other : ¬ link.key = l.key := fun e => same e.symm
        simp [hasLink, same, other]

theorem putLinks_ok_iff {batch : List Link} : (∃ h, g.putLinks batch = (h, none)) ↔
    ∀ l ∈ batch, g.contains l.source = true ∧ g.contains l.target = true := by
  constructor
  · rintro ⟨h, put⟩
    induction batch generalizing g with
    | nil => exact fun l hl => absurd hl List.not_mem_nil
    | cons link rest ih =>
      unfold putLinks putEach at put
      split at put
      · next next ok =>
        obtain ⟨source, target, step⟩ := putLink_cases ok
        have same : next.nodes = g.nodes := by
          rcases step with ⟨_, rfl⟩ | ⟨_, rfl⟩ <;> rfl
        have later := ih put
        intro l hl
        rcases List.mem_cons.mp hl with rfl | hl
        · exact ⟨source, target⟩
        · simpa only [contains, same] using later l hl
      · cases put
  · exact fun ends => ⟨_, putLinks_distinct ends⟩

end Graph

end SourceAtlas
