import SourceAtlas.Diff
import SourceAtlas.Proofs.Graph.Ascending
import SourceAtlas.Proofs.Graph.History

/-! What a difference lists: the ids that only one of two graphs has, those under which both have
different nodes, and the links whose keys only one of them has. Of stores it is a patch: it takes the
ids of one to those of the other, what it does not list is the same in both, and the difference the
other way is the same patch read backwards. -/
namespace SourceAtlas

theorem Graph.mem_linksMissingFrom_iff {g other : Graph} {l : Link} :
    l ∈ g.linksMissingFrom other ↔ l ∈ g.links ∧ l.key ∉ other.links.map (·.key) := by
  rw [linksMissingFrom, List.mem_filter, Bool.not_eq_true', ← Bool.not_eq_true, hasLink_iff]

theorem mem_sortedIds {ids : List NodeId} {id : NodeId} : id ∈ sortedIds ids ↔ id ∈ ids :=
  (List.mergeSort_perm ids _).mem_iff

theorem sortedIds_ascending {ids : List NodeId} (distinct : ids.Nodup) : Ascending (sortedIds ids) := by
  have sorted : (sortedIds ids).Pairwise fun a b => a.val ≤ b.val := by
    refine (List.pairwise_mergeSort ?_ ?_ ids).imp of_decide_eq_true
    · intro a b c ab bc
      exact decide_eq_true (UInt64.le_trans (of_decide_eq_true ab) (of_decide_eq_true bc))
    · intro a b
      simpa using UInt64.le_total a.val b.val
  have once : (sortedIds ids).Nodup := (List.mergeSort_perm ids _).nodup_iff.mpr distinct
  refine (sorted.and once).imp ?_
  rintro a b ⟨below, other⟩
  exact UInt64.lt_of_le_of_ne below fun same => other (congrArg NodeId.mk same)

namespace Diff

variable {old new : Snapshot} {id : NodeId}

theorem isNone_node_iff {g : Graph} : (g.node? id).isNone = true ↔ ∀ m ∈ g.nodes, m.id ≠ id := by
  rw [Option.isNone_iff_eq_none, Graph.node_eq_none_iff, ← Bool.not_eq_true, Graph.contains_iff]
  simp

theorem mem_addedNodes_iff : id ∈ (between old new).addedNodes ↔
    (∃ n ∈ new.graph.nodes, n.id = id) ∧ ∀ m ∈ old.graph.nodes, m.id ≠ id := by
  simp only [between, mem_sortedIds, List.mem_map, List.mem_filter, isNone_node_iff]
  constructor
  · rintro ⟨n, ⟨hn, unknown⟩, rfl⟩
    exact ⟨⟨n, hn, rfl⟩, unknown⟩
  · rintro ⟨⟨n, hn, rfl⟩, unknown⟩
    exact ⟨n, ⟨hn, unknown⟩, rfl⟩

theorem mem_removedNodes_iff : id ∈ (between old new).removedNodes ↔
    (∃ m ∈ old.graph.nodes, m.id = id) ∧ ∀ n ∈ new.graph.nodes, n.id ≠ id :=
  @mem_addedNodes_iff new old id

theorem mem_modifiedNodes_iff (wf : old.graph.WellFormed) :
    id ∈ (between old new).modifiedNodes ↔
      ∃ m ∈ old.graph.nodes, ∃ n ∈ new.graph.nodes, m.id = id ∧ n.id = id ∧ m ≠ n := by
  simp only [between, mem_sortedIds, List.mem_map, List.mem_filter]
  constructor
  · rintro ⟨n, ⟨hn, differs⟩, rfl⟩
    split at differs
    · next m found =>
      obtain ⟨hm, same⟩ := Graph.mem_of_node found
      exact ⟨m, hm, n, hn, same, rfl, of_decide_eq_true differs⟩
    · cases differs
  · rintro ⟨m, hm, n, hn, same, rfl, differs⟩
    refine ⟨n, ⟨hn, ?_⟩, rfl⟩
    rw [← same, Graph.node_of_mem wf.ids_distinct hm]
    exact decide_eq_true differs

theorem isEmpty_of_graph (wf : old.graph.WellFormed) (same : new.graph = old.graph) :
    (between old new).isEmpty = true := by
  have added : ∀ {a b : Snapshot}, b.graph = a.graph → (between a b).addedNodes = [] := by
    intro a b same
    rw [List.eq_nil_iff_forall_not_mem]
    intro id hid
    obtain ⟨⟨n, hn, known⟩, unknown⟩ := mem_addedNodes_iff.mp hid
    exact unknown n (same ▸ hn) known
  have links : ∀ {a b : Snapshot}, b.graph = a.graph → (between a b).addedLinks = [] := by
    intro a b same
    rw [List.eq_nil_iff_forall_not_mem]
    intro l hl
    obtain ⟨listed, unknown⟩ := Graph.mem_linksMissingFrom_iff.mp hl
    exact unknown (same ▸ List.mem_map_of_mem listed)
  have modified : (between old new).modifiedNodes = [] := by
    rw [List.eq_nil_iff_forall_not_mem]
    intro id hid
    obtain ⟨m, hm, n, hn, rfl, known, differ⟩ := (mem_modifiedNodes_iff wf).mp hid
    exact differ (wf.node_unique hm (same ▸ hn) known.symm)
  -- What is removed on the way is added on the way back.
  have removed : (between old new).removedNodes = [] := added same.symm
  have removedLinks : (between old new).removedLinks = [] := links same.symm
  simp [isEmpty, added same, links same, modified, removed, removedLinks]

/-- The difference read backwards. -/
def reversed (d : Diff) : Diff where
  fromVersion := d.toVersion
  toVersion := d.fromVersion
  addedNodes := d.removedNodes
  removedNodes := d.addedNodes
  modifiedNodes := d.modifiedNodes
  addedLinks := d.removedLinks
  removedLinks := d.addedLinks

/-- The links of a graph whose keys another one lacks, each once and in the order of the graph. -/
structure ListsLinks (links : List Link) (g other : Graph) : Prop where
  ordered : links.Sublist g.links
  once : links.Nodup
  exact : ∀ l, l ∈ links ↔ l ∈ g.links ∧ l.key ∉ other.links.map (·.key)

/-- What a difference has to list to be a patch that takes one graph to the other. -/
structure Patches (old new : Graph) (d : Diff) : Prop where
  added : ∀ id, id ∈ d.addedNodes ↔ old.node? id = none ∧ (new.node? id).isSome = true
  removed : ∀ id, id ∈ d.removedNodes ↔ (old.node? id).isSome = true ∧ new.node? id = none
  modified : ∀ id, id ∈ d.modifiedNodes ↔
    ∃ a b, old.node? id = some a ∧ new.node? id = some b ∧ a ≠ b
  ascending : Ascending d.addedNodes ∧ Ascending d.removedNodes ∧ Ascending d.modifiedNodes
  disjoint : d.addedNodes.Disjoint d.removedNodes ∧ d.addedNodes.Disjoint d.modifiedNodes ∧
    d.removedNodes.Disjoint d.modifiedNodes
  ids : ∀ id, id ∈ new.nodes.map (·.id) ↔
    id ∈ old.nodes.map (·.id) ∧ id ∉ d.removedNodes ∨ id ∈ d.addedNodes
  unlisted : ∀ id, id ∉ d.addedNodes → id ∉ d.removedNodes → id ∉ d.modifiedNodes →
    old.node? id = new.node? id
  addedLinks : ListsLinks d.addedLinks new old
  removedLinks : ListsLinks d.removedLinks old new

section Lists

theorem node_isSome_iff {g : Graph} : (g.node? id).isSome = true ↔ id ∈ g.nodes.map (·.id) := by
  rw [← Option.ne_none_iff_isSome, Ne, Graph.node_eq_none_iff, Bool.not_eq_false,
    Graph.contains_iff_mem_ids]

theorem mem_addedNodes_iff_node : id ∈ (between old new).addedNodes ↔
    old.graph.node? id = none ∧ (new.graph.node? id).isSome = true := by
  rw [mem_addedNodes_iff, ← isNone_node_iff, Option.isNone_iff_eq_none, node_isSome_iff, List.mem_map,
    and_comm]

theorem mem_removedNodes_iff_node : id ∈ (between old new).removedNodes ↔
    (old.graph.node? id).isSome = true ∧ new.graph.node? id = none := by
  rw [and_comm]
  exact @mem_addedNodes_iff_node new old id

theorem mem_modifiedNodes_iff_node (wf : old.graph.WellFormed) (wf' : new.graph.WellFormed) :
    id ∈ (between old new).modifiedNodes ↔
      ∃ a b, old.graph.node? id = some a ∧ new.graph.node? id = some b ∧ a ≠ b := by
  rw [mem_modifiedNodes_iff wf]
  constructor
  · rintro ⟨a, ha, b, hb, rfl, same, differ⟩
    refine ⟨a, b, Graph.node_of_mem wf.ids_distinct ha, ?_, differ⟩
    rw [← same]
    exact Graph.node_of_mem wf'.ids_distinct hb
  · rintro ⟨a, b, ha, hb, differ⟩
    obtain ⟨ha, here⟩ := Graph.mem_of_node ha
    obtain ⟨hb, there⟩ := Graph.mem_of_node hb
    exact ⟨a, ha, b, hb, here, there, differ⟩

theorem ListsLinks.of_missing {g : Graph} (wf : g.WellFormed) (other : Graph) :
    ListsLinks (g.linksMissingFrom other) g other where
  ordered := List.filter_sublist
  once := (List.Nodup.of_map _ wf.keys_distinct).filter _
  exact := fun _ => Graph.mem_linksMissingFrom_iff

end Lists

section Order

theorem ascending_of_filter {g : Graph} (wf : g.WellFormed) (keep : Node → Bool) :
    Ascending (sortedIds ((g.nodes.filter keep).map (·.id))) :=
  sortedIds_ascending (wf.ids_distinct.sublist (List.filter_sublist.map _))

theorem modifiedNodes_ascending (wf : new.graph.WellFormed) : Ascending (between old new).modifiedNodes :=
  ascending_of_filter wf _

end Order

theorem patches_between (wf : old.graph.WellFormed) (wf' : new.graph.WellFormed) :
    Patches old.graph new.graph (between old new) := by
  have modified := @mem_modifiedNodes_iff_node old new
  refine
    { added := fun _ => mem_addedNodes_iff_node
      removed := fun _ => mem_removedNodes_iff_node
      modified := fun _ => modified wf wf'
      ascending := ⟨ascending_of_filter wf' _, ascending_of_filter wf _, ascending_of_filter wf' _⟩
      disjoint := ⟨?_, ?_, ?_⟩
      ids := ?_
      unlisted := ?_
      addedLinks := .of_missing wf' _
      removedLinks := .of_missing wf _ }
  · intro id added removed
    rw [mem_addedNodes_iff_node] at added
    rw [mem_removedNodes_iff_node, added.1] at removed
    cases removed.1
  · intro id added changed
    obtain ⟨a, _, known, _⟩ := (modified wf wf').mp changed
    rw [mem_addedNodes_iff_node, known] at added
    cases added.1
  · intro id removed changed
    obtain ⟨_, b, _, known, _⟩ := (modified wf wf').mp changed
    rw [mem_removedNodes_iff_node, known] at removed
    cases removed.2
  · intro id
    rw [mem_addedNodes_iff_node, mem_removedNodes_iff_node, ← node_isSome_iff, ← node_isSome_iff]
    cases old.graph.node? id <;> cases new.graph.node? id <;> simp
  · intro id notAdded notRemoved notModified
    rw [mem_addedNodes_iff_node] at notAdded
    rw [mem_removedNodes_iff_node] at notRemoved
    rw [modified wf wf'] at notModified
    cases before : old.graph.node? id with
    | none =>
      cases after : new.graph.node? id with
      | none => rfl
      | some b => exact absurd ⟨before, by rw [after]; rfl⟩ notAdded
    | some a =>
      cases after : new.graph.node? id with
      | none => exact absurd ⟨by rw [before]; rfl, after⟩ notRemoved
      | some b =>
        by_contra differ
        exact notModified ⟨a, b, before, after, fun same => differ (congrArg some same)⟩

theorem between_reversed (wf : old.graph.WellFormed) (wf' : new.graph.WellFormed) :
    between new old = (between old new).reversed := by
  -- Only the changed nodes are listed in the order of one of the two graphs and looked up in the other.
  have modified : (between new old).modifiedNodes = (between old new).modifiedNodes := by
    apply eq_of_ascending_ids (modifiedNodes_ascending wf) (modifiedNodes_ascending wf')
    intro id
    have turn : ∀ {g h : Graph}, (∃ a b, g.node? id = some a ∧ h.node? id = some b ∧ a ≠ b) →
        ∃ a b, h.node? id = some a ∧ g.node? id = some b ∧ a ≠ b := by
      rintro g h ⟨a, b, ha, hb, differ⟩
      exact ⟨b, a, hb, ha, differ.symm⟩
    have here := @mem_modifiedNodes_iff_node new old id wf' wf
    have there := @mem_modifiedNodes_iff_node old new id wf wf'
    exact here.trans (⟨turn, turn⟩ : _ ↔ _) |>.trans there.symm
  have same := congrArg (fun ids => { between new old with modifiedNodes := ids }) modified
  exact same

theorem isEmpty_iff (wf : old.graph.WellFormed) (wf' : new.graph.WellFormed) :
    (between old new).isEmpty = true ↔ (∀ id, old.graph.node? id = new.graph.node? id) ∧
      ∀ key, key ∈ old.graph.links.map (·.key) ↔ key ∈ new.graph.links.map (·.key) := by
  have patch := patches_between wf wf'
  have missing : ∀ {g other : Graph}, (∀ l, l ∉ g.linksMissingFrom other) ↔
      ∀ key ∈ g.links.map (·.key), key ∈ other.links.map (·.key) := by
    intro g other
    simp [Graph.mem_linksMissingFrom_iff]
  have links : ((between old new).addedLinks = [] ∧ (between old new).removedLinks = []) ↔
      ∀ key, key ∈ old.graph.links.map (·.key) ↔ key ∈ new.graph.links.map (·.key) := by
    rw [List.eq_nil_iff_forall_not_mem, List.eq_nil_iff_forall_not_mem]
    refine (and_congr missing missing).trans ?_
    exact ⟨fun both key => ⟨both.2 key, both.1 key⟩,
      fun both => ⟨fun key => (both key).mpr, fun key => (both key).mp⟩⟩
  have nodes : ((between old new).addedNodes = [] ∧ (between old new).removedNodes = [] ∧
      (between old new).modifiedNodes = []) ↔ ∀ id, old.graph.node? id = new.graph.node? id := by
    constructor
    · rintro ⟨added, removed, modified⟩ id
      apply patch.unlisted id
      · rw [added]; exact List.not_mem_nil
      · rw [removed]; exact List.not_mem_nil
      · rw [modified]; exact List.not_mem_nil
    · intro same
      simp only [List.eq_nil_iff_forall_not_mem, patch.added, patch.removed, patch.modified, same]
      refine ⟨?_, ?_, ?_⟩
      · rintro id ⟨none, some⟩
        rw [none] at some
        cases some
      · rintro id ⟨some, none⟩
        rw [none] at some
        cases some
      · rintro id ⟨a, b, ha, hb, differ⟩
        rw [ha] at hb
        exact differ (Option.some.inj hb)
  rw [← nodes, ← links]
  simp only [isEmpty, Bool.and_eq_true, List.isEmpty_iff, and_assoc]

/-- The difference of two snapshots whose stores were made by any calls. -/
theorem difference_is_patch (before after : List Call) (old new : Snapshot)
    (past : old.graph = Graph.after before) (present : new.graph = Graph.after after) :
    Patches old.graph new.graph (between old new) ∧
    ((between old new).isEmpty = true ↔ (∀ id, old.graph.node? id = new.graph.node? id) ∧
      ∀ key, key ∈ old.graph.links.map (·.key) ↔ key ∈ new.graph.links.map (·.key)) ∧
    between new old = (between old new).reversed := by
  have wf : old.graph.WellFormed := past ▸ Graph.after_wellFormed before
  have wf' : new.graph.WellFormed := present ▸ Graph.after_wellFormed after
  exact ⟨patches_between wf wf', isEmpty_iff wf wf', between_reversed wf wf'⟩

def numbered (id : UInt64) (path : String) (terms : TextMap UInt32) : Node :=
  ⟨⟨id⟩, path, .file, terms, .none⟩

/-- Three files that import one another; the links are put before the third file is known, so one of
them is refused. -/
def earlierCalls : List Call :=
  [.nodes [numbered 3 "c" .empty, numbered 1 "a" .empty],
   .links [⟨⟨3⟩, ⟨1⟩, .imports, some 4⟩, ⟨⟨1⟩, ⟨2⟩, .imports, none⟩],
   .nodes [numbered 2 "b" .empty],
   .links [⟨⟨2⟩, ⟨1⟩, .imports, none⟩]]

/-- The third file is another one, the first has a term, and one link is on another line. -/
def laterCalls : List Call :=
  [.nodes [numbered 1 "a" (TextMap.empty.insert "term" 1), numbered 2 "b" .empty,
     numbered 4 "d" .empty],
   .links [⟨⟨4⟩, ⟨2⟩, .references, none⟩, ⟨⟨2⟩, ⟨1⟩, .imports, some 9⟩]]

theorem exchanged_file_is_patch :
    let old := Snapshot.ofGraph 1 (Graph.after earlierCalls)
    let new := Snapshot.ofGraph 2 (Graph.after laterCalls)
    (old.graph = Graph.after earlierCalls ∧ new.graph = Graph.after laterCalls) ∧
    between old new =
      { fromVersion := 1, toVersion := 2, addedNodes := [⟨4⟩], removedNodes := [⟨3⟩],
        modifiedNodes := [⟨1⟩], addedLinks := [⟨⟨4⟩, ⟨2⟩, .references, none⟩],
        removedLinks := [⟨⟨3⟩, ⟨1⟩, .imports, some 4⟩] } ∧
    Patches old.graph new.graph (between old new) ∧
    between new old = (between old new).reversed := by
  intro old new
  have law := difference_is_patch earlierCalls laterCalls old new rfl rfl
  exact ⟨⟨rfl, rfl⟩, by decide +kernel, law.1, law.2.2⟩

end Diff

end SourceAtlas
