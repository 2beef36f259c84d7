import SourceAtlas.Proofs.Diff

/-! What a difference touches. A node is left untouched exactly if it is the same in both graphs, and with it
the keys of the links that start there. The links that end there are another matter: one that was added or
removed touches the node that it starts from alone. So the touched nodes are all that is affected exactly if
every such link ends at one of them. -/
namespace SourceAtlas

/-- The graphs have the same keys of this sort. -/
def Graph.SameKeys (g h : Graph) (sort : NodeId × NodeId × Relation → Prop) : Prop :=
  ∀ key, sort key → (key ∈ g.links.map (·.key) ↔ key ∈ h.links.map (·.key))

def Graph.SameOutgoing (g h : Graph) (id : NodeId) : Prop := g.SameKeys h fun key => key.1 = id

def Graph.SameIncoming (g h : Graph) (id : NodeId) : Prop := g.SameKeys h fun key => key.2.1 = id

namespace Diff

variable {old new : Snapshot} {id : NodeId}

def changedLinks (d : Diff) : List Link := d.addedLinks ++ d.removedLinks

theorem mem_touchedNodes {d : Diff} : id ∈ d.touchedNodes ↔
    (id ∈ d.addedNodes ∨ id ∈ d.removedNodes ∨ id ∈ d.modifiedNodes) ∨
      ∃ l ∈ d.changedLinks, l.source = id := by
  simp only [touchedNodes, changedLinks, mem_ascendingIds, List.mem_append, List.mem_map, or_assoc]

theorem touchedNodes_reversed (d : Diff) (same : id ∈ d.touchedNodes) : id ∈ d.reversed.touchedNodes := by
  rw [mem_touchedNodes] at same ⊢
  rcases same with (added | removed | modified) | ⟨l, hl, starts⟩
  · exact .inl (.inr (.inl added))
  · exact .inl (.inl removed)
  · exact .inl (.inr (.inr modified))
  · exact .inr ⟨l, List.mem_append.mpr (List.mem_append.mp hl).symm, starts⟩

/-- What the changed links are not about is the same in both graphs, and nothing else is. -/
theorem sameKeys_iff (sort : NodeId × NodeId × Relation → Prop) :
    old.graph.SameKeys new.graph sort ↔ ∀ l ∈ (between old new).changedLinks, ¬ sort l.key := by
  have missing : ∀ {g h : Graph}, (∀ l ∈ g.linksMissingFrom h, ¬ sort l.key) ↔
      ∀ key, sort key → key ∈ g.links.map (·.key) → key ∈ h.links.map (·.key) := by
    intro g h
    simp only [Graph.mem_linksMissingFrom_iff]
    constructor
    · intro none key wanted listed
      obtain ⟨l, hl, rfl⟩ := List.mem_map.mp listed
      by_contra unlisted
      exact none l ⟨hl, unlisted⟩ wanted
    · rintro kept l ⟨hl, unlisted⟩ wanted
      exact unlisted (kept l.key wanted (List.mem_map_of_mem hl))
  have both : (∀ l ∈ (between old new).changedLinks, ¬ sort l.key) ↔
      (∀ l ∈ new.graph.linksMissingFrom old.graph, ¬ sort l.key) ∧
        ∀ l ∈ old.graph.linksMissingFrom new.graph, ¬ sort l.key := List.forall_mem_append
  rw [both, missing, missing]
  constructor
  · intro same
    exact ⟨fun key wanted => (same key wanted).mpr, fun key wanted => (same key wanted).mp⟩
  · rintro ⟨added, removed⟩ key wanted
    exact ⟨removed key wanted, added key wanted⟩

theorem not_listed_iff (wf : old.graph.WellFormed) (wf' : new.graph.WellFormed) :
    ¬ (id ∈ (between old new).addedNodes ∨ id ∈ (between old new).removedNodes ∨
        id ∈ (between old new).modifiedNodes) ↔ old.graph.node? id = new.graph.node? id := by
  have patch := patches_between wf wf'
  constructor
  · intro unlisted
    obtain ⟨added, rest⟩ := not_or.mp unlisted
    obtain ⟨removed, modified⟩ := not_or.mp rest
    exact patch.unlisted id added removed modified
  · intro same
    rw [patch.added, patch.removed, patch.modified, same]
    cases new.graph.node? id <;> simp

theorem not_mem_touchedNodes_iff (wf : old.graph.WellFormed) (wf' : new.graph.WellFormed) :
    id ∉ (between old new).touchedNodes ↔
      old.graph.node? id = new.graph.node? id ∧ old.graph.SameOutgoing new.graph id := by
  rw [mem_touchedNodes, not_or, not_listed_iff wf wf', Graph.SameOutgoing, sameKeys_iff]
  refine and_congr_right fun _ => ?_
  constructor
  · intro none l hl starts
    exact none ⟨l, hl, starts⟩
  · rintro none ⟨l, hl, starts⟩
    exact none l hl starts

theorem sameIncoming_iff : old.graph.SameIncoming new.graph id ↔
    ∀ l ∈ (between old new).changedLinks, l.target ≠ id :=
  sameKeys_iff _

/-- Of two snapshots whose stores were made by any calls: which nodes their difference touches, and when these
are all the nodes that it affects. -/
theorem touched_nodes_are_changed_or_link_away (before after : List Call) (old new : Snapshot)
    (past : old.graph = Graph.after before) (present : new.graph = Graph.after after) :
    let d := between old new
    Ascending d.touchedNodes ∧
    (∀ id, id ∈ d.touchedNodes ↔
      (id ∈ d.addedNodes ∨ id ∈ d.removedNodes ∨ id ∈ d.modifiedNodes) ∨
        ∃ l ∈ d.changedLinks, l.source = id) ∧
    (∀ id, id ∉ d.touchedNodes ↔
      old.graph.node? id = new.graph.node? id ∧ old.graph.SameOutgoing new.graph id) ∧
    (∀ id, old.graph.SameIncoming new.graph id ↔ ∀ l ∈ d.changedLinks, l.target ≠ id) ∧
    ((∀ id, id ∉ d.touchedNodes → old.graph.node? id = new.graph.node? id ∧
        old.graph.SameOutgoing new.graph id ∧ old.graph.SameIncoming new.graph id) ↔
      ∀ l ∈ d.changedLinks, l.target ∈ d.touchedNodes) ∧
    (between new old).touchedNodes = d.touchedNodes := by
  intro d
  have wf : old.graph.WellFormed := past ▸ Graph.after_wellFormed before
  have wf' : new.graph.WellFormed := present ▸ Graph.after_wellFormed after
  have untouched : ∀ id, id ∉ d.touchedNodes ↔
      old.graph.node? id = new.graph.node? id ∧ old.graph.SameOutgoing new.graph id :=
    fun _ => not_mem_touchedNodes_iff wf wf'
  refine ⟨ascendingIds_ascending _, fun _ => mem_touchedNodes, untouched, fun _ => sameIncoming_iff, ?_, ?_⟩
  · constructor
    · intro unaffected l hl
      by_contra missed
      exact sameIncoming_iff.mp (unaffected l.target missed).2.2 l hl rfl
    · intro covered id missed
      obtain ⟨same, outgoing⟩ := (untouched id).mp missed
      refine ⟨same, outgoing, sameIncoming_iff.mpr fun l hl ends => missed ?_⟩
      exact ends ▸ covered l hl
  · rw [between_reversed wf wf']
    apply eq_of_ascending_ids (ascendingIds_ascending _) (ascendingIds_ascending _)
    intro id
    exact ⟨touchedNodes_reversed d.reversed, touchedNodes_reversed d⟩

/-- The files from before, with one more that imports an old one. -/
def extendedCalls : List Call :=
  earlierCalls ++ [.nodes [numbered 4 "d" .empty], .links [⟨⟨4⟩, ⟨1⟩, .imports, none⟩]]

theorem extended_files_touch_new_file :
    let old := Snapshot.ofGraph 1 (Graph.after earlierCalls)
    let new := Snapshot.ofGraph 2 (Graph.after extendedCalls)
    (old.graph = Graph.after earlierCalls ∧ new.graph = Graph.after extendedCalls) ∧
    (between old new).touchedNodes = [⟨4⟩] ∧
    (old.graph.node? ⟨1⟩ = new.graph.node? ⟨1⟩ ∧ old.graph.SameOutgoing new.graph ⟨1⟩) ∧
    ¬ old.graph.SameIncoming new.graph ⟨1⟩ := by
  intro old new
  obtain ⟨_, _, untouched, incoming, _⟩ :=
    touched_nodes_are_changed_or_link_away earlierCalls extendedCalls old new rfl rfl
  have touched : (between old new).touchedNodes = [⟨4⟩] := by decide +kernel
  have outside : ⟨1⟩ ∉ (between old new).touchedNodes := by
    rw [touched]
    decide
  have link : ⟨⟨4⟩, ⟨1⟩, .imports, none⟩ ∈ (between old new).changedLinks := by decide +kernel
  exact ⟨⟨rfl, rfl⟩, touched, (untouched _).mp outside, fun same => (incoming _).mp same _ link rfl⟩

/-- A link between two files that were there before touches the first one alone. -/
theorem linked_file_is_untouched :
    let files := [.nodes [numbered 1 "a" .empty, numbered 2 "b" .empty]]
    let old := Snapshot.ofGraph 1 (Graph.after files)
    let new := Snapshot.ofGraph 2 (Graph.after (files ++ [.links [⟨⟨1⟩, ⟨2⟩, .imports, none⟩]]))
    (between old new).addedLinks = [⟨⟨1⟩, ⟨2⟩, .imports, none⟩] ∧
    (between old new).touchedNodes = [⟨1⟩] ∧
    (∃ n ∈ old.graph.nodes, n.id = ⟨2⟩ ∧ n ∈ new.graph.nodes) ∧
    ¬ old.graph.SameIncoming new.graph ⟨2⟩ := by
  intro files old new
  have link : (⟨1⟩, ⟨2⟩, .imports) ∈ new.graph.links.map (·.key) := by decide +kernel
  have fresh : (⟨1⟩, ⟨2⟩, .imports) ∉ old.graph.links.map (·.key) := by decide +kernel
  exact ⟨by decide +kernel, by decide +kernel, by decide +kernel,
    fun same => fresh ((same _ rfl).mpr link)⟩

end Diff

end SourceAtlas
