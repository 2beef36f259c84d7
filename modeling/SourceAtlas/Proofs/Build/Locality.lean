import SourceAtlas.Proofs.Build.Declared
import SourceAtlas.Proofs.Build.Edit
import SourceAtlas.Proofs.Diff

/-! An edit of one file is local. Of the two graphs before and after it only the nodes and links of that
file's own record can differ, and the nodes of outside names, which carry the language of the first
record that refers to them. -/
namespace SourceAtlas

/-- What the files of an input speak of. -/
def BuildInput.Mentions [Tools] (i : BuildInput) (kind : NodeKind) (path : String) : Prop :=
  ∃ d, i.tree.discover i.config i.root = .ok d ∧
    Mentioned ⟨d.listing, d.crates⟩ (d.records none) kind path

theorem Record.source_of_mem_links {r : Record} {resolver : Resolver} {indexed : List String} {l : Link}
    (h : l ∈ r.links resolver indexed) : l.source = r.id := by
  rcases List.mem_append.mp h with h | h
  · obtain ⟨s, _, rfl⟩ := List.mem_map.mp h
    rfl
  · obtain ⟨e, _, made⟩ := List.mem_filterMap.mp h
    obtain ⟨_, _, rfl⟩ := Option.map_eq_some_iff.mp made
    rfl

namespace Assembly

variable {resolver : Resolver} {records : List Record} {before after : Record} {g : Graph}

theorem links_replace : (resolver.assembly (records.map after.replace)).links.filter
      (fun l => l.source ≠ after.id) =
    (resolver.assembly records).links.filter fun l => l.source ≠ after.id := by
  have paths : (records.map after.replace).map (·.path) = records.map (·.path) := by
    simp [Record.replace_path]
  -- Record by record: what refers to the edited file still finds it, and only its own links go.
  simp only [Resolver.assembly, ofRecords, paths, List.filter_flatMap, List.flatMap_map]
  apply List.flatMap_congr
  intro r _
  by_cases here : r.path = after.path
  · have own : ∀ x : Record, x.path = after.path →
        (x.links resolver (records.map (·.path))).filter (fun l => l.source ≠ after.id) = [] := by
      intro x same
      rw [List.filter_eq_nil_iff]
      intro l hl
      simp [Record.source_of_mem_links hl, Record.id, same]
    rw [own r here, Record.replace_of_eq here, own after rfl]
  · rw [Record.replace_of_ne here]

theorem nodes_replace {place : NodeKind × String} (inside : place.1 ≠ .external)
    (only : ∀ r ∈ records, r.path = after.path → r = before) (notBefore : place ∉ before.places)
    (notAfter : place ∉ after.places) :
    (resolver.assembly (records.map after.replace)).allNodes.filter (·.place = place) =
      (resolver.assembly records).allNodes.filter (·.place = place) := by
  -- Nodes of outside names may change, but they have no place inside of the tree.
  have outside : ∀ rs : List Record,
      (resolver.assembly rs).outside.values.filter (·.place = place) = [] := by
    intro rs
    rw [List.filter_eq_nil_iff]
    intro n hn
    obtain ⟨e, he, rfl⟩ := List.mem_map.mp hn
    rw [(mem_outside he).1]
    rintro same
    exact inside (by simpa using congrArg Prod.fst (of_decide_eq_true same).symm)
  have none : ∀ r : Record, place ∉ r.places → r.nodes.filter (·.place = place) = [] := by
    intro r absent
    rw [List.filter_eq_nil_iff]
    intro n hn same
    rw [← Record.nodes_places] at absent
    exact absent (List.mem_map.mpr ⟨n, hn, of_decide_eq_true same⟩)
  simp only [allNodes, List.filter_append, outside, List.append_nil]
  simp only [Resolver.assembly, ofRecords, List.filter_flatMap, List.flatMap_map]
  apply List.flatMap_congr
  intro r hr
  by_cases here : r.path = after.path
  · rw [Record.replace_of_eq here, none after notAfter, only r hr here, none before notBefore]
  · rw [Record.replace_of_ne here]

/-- If ids tell things apart, the graph holds the last node that is put for each of them. -/
theorem mem_nodes_iff (apart : IdsApart (Mentioned resolver records)) (wf : g.WellFormed)
    (last : ∀ id, g.node? id = (resolver.assembly records).allNodes.reverse.find? (·.id = id))
    {n : Node} : n ∈ g.nodes ↔
      (resolver.assembly records).allNodes.reverse.find? (·.place = n.place) = some n := by
  have byId : n ∈ g.nodes ↔ g.node? n.id = some n := by
    constructor
    · exact Graph.node_of_mem wf.ids_distinct
    · exact fun found => (Graph.mem_of_node found).1
  rw [byId, last]
  -- Among the nodes that are put, an id says as much as a place.
  by_cases known : n ∈ (resolver.assembly records).allNodes
  · have alike : ∀ m ∈ (resolver.assembly records).allNodes.reverse,
        decide (m.id = n.id) = decide (m.place = n.place) := by
      intro m hm
      rw [List.mem_reverse] at hm
      rw [decide_eq_decide]
      constructor
      · exact place_of_id apart hm known
      · intro place
        obtain ⟨kind, path⟩ := Prod.mk.inj place
        rw [named_of_mem hm, named_of_mem known, kind, path]
    rw [← List.head?_filter, ← List.head?_filter, List.filter_congr alike]
  · have absent : ∀ p : Node → Bool,
        (resolver.assembly records).allNodes.reverse.find? p ≠ some n := fun p found =>
      known (List.mem_reverse.mp (List.mem_of_find?_eq_some found))
    exact iff_of_false (absent _) (absent _)

end Assembly

/-- A node of one file before or after an edit of it, or of an outside name. -/
def Node.Concerns (n : Node) (before after : Record) : Prop :=
  n.place ∈ before.places ++ after.places ∨ n.kind = .external

/-- All that two snapshots do not share are nodes and links of one file, and nodes of outside names. -/
structure LocalTo (before after : Record) (first second : Snapshot) : Prop where
  present : ∀ id ∈ (Diff.between first second).addedNodes ++ (Diff.between first second).modifiedNodes,
    ∃ n ∈ second.graph.nodes, n.id = id ∧ n.Concerns before after
  past : ∀ id ∈ (Diff.between first second).removedNodes ++ (Diff.between first second).modifiedNodes,
    ∃ n ∈ first.graph.nodes, n.id = id ∧ n.Concerns before after
  changedLinks : ∀ l ∈ (Diff.between first second).addedLinks ++ (Diff.between first second).removedLinks,
    l.source = before.id
  nodes : ∀ n : Node, ¬ n.Concerns before after → (n ∈ first.graph.nodes ↔ n ∈ second.graph.nodes)
  links : ∀ l : Link, l.source ≠ before.id → (l ∈ first.graph.links ↔ l ∈ second.graph.links)

/-- A difference lists only what is not shared. -/
theorem LocalTo.of_shared {before after : Record} {first second : Snapshot}
    (wf : first.graph.WellFormed) (wf' : second.graph.WellFormed)
    (nodes : ∀ n : Node, ¬ n.Concerns before after →
      (n ∈ first.graph.nodes ↔ n ∈ second.graph.nodes))
    (links : ∀ l : Link, l.source ≠ before.id →
      (l ∈ first.graph.links ↔ l ∈ second.graph.links)) : LocalTo before after first second := by
  have unshared : ∀ n : Node, ¬ (n ∈ first.graph.nodes ↔ n ∈ second.graph.nodes) →
      n.Concerns before after := fun n differ => by_contra fun other => differ (nodes n other)
  constructor
  case nodes => exact nodes
  case links => exact links
  case present =>
    intro id changed
    rcases List.mem_append.mp changed with added | modified
    · obtain ⟨⟨n, hn, rfl⟩, unknown⟩ := Diff.mem_addedNodes_iff.mp added
      exact ⟨n, hn, rfl, unshared n fun same => unknown n (same.mpr hn) rfl⟩
    · obtain ⟨m, hm, n, hn, same, rfl, differ⟩ := (Diff.mem_modifiedNodes_iff wf).mp modified
      exact ⟨n, hn, rfl, unshared n fun both => differ (wf.node_unique hm (both.mpr hn) same)⟩
  case past =>
    intro id changed
    rcases List.mem_append.mp changed with removed | modified
    · obtain ⟨⟨n, hn, rfl⟩, unknown⟩ := Diff.mem_removedNodes_iff.mp removed
      exact ⟨n, hn, rfl, unshared n fun same => unknown n (same.mp hn) rfl⟩
    · obtain ⟨m, hm, n, hn, rfl, same, differ⟩ := (Diff.mem_modifiedNodes_iff wf).mp modified
      exact ⟨m, hm, rfl, unshared m fun both =>
        differ (wf'.node_unique (both.mp hm) hn same.symm)⟩
  case changedLinks =>
    intro l changed
    by_contra other
    rcases List.mem_append.mp changed with added | removed
    · obtain ⟨hl, unknown⟩ := Graph.mem_linksMissingFrom_iff.mp added
      exact unknown (List.mem_map_of_mem ((links l other).mpr hl))
    · obtain ⟨hl, unknown⟩ := Graph.mem_linksMissingFrom_iff.mp removed
      exact unknown (List.mem_map_of_mem ((links l other).mp hl))

/-- What a snapshot keeps of the discovery that it was built from. -/
structure Snapshot.BuiltFrom [Tools] (s : Snapshot) (d : Discovery) : Prop where
  wellFormed : s.graph.WellFormed
  links : s.graph.links =
    distinctBy Link.key (Resolver.assembly ⟨d.listing, d.crates⟩ (d.records none)).links
  last : ∀ id, s.graph.node? id =
    (Resolver.assembly ⟨d.listing, d.crates⟩ (d.records none)).allNodes.reverse.find? (·.id = id)
  recorded : ∀ path r, s.record? path = some r ↔ r ∈ d.records none ∧ r.path = path

namespace BuildInput

variable [Tools]

variable {inputs : List BuildInput} {i : BuildInput} {previous : Option Snapshot} {s : Snapshot}
  {d : Discovery}

theorem builtFrom_of_build (discerned : Discerned inputs) (hi : i ∈ inputs)
    (earlier : ∀ p, previous = some p → Lineage inputs p) (built : i.build previous = .ok s) :
    ∃ d, i.tree.discover i.config i.root = .ok d ∧ s.BuiltFrom d := by
  obtain ⟨d, _, found, _, assembled⟩ := SourceTree.build_ok_iff.mp built
  obtain ⟨wf, links, last⟩ := Discovery.graph_of_build assembled
  have records : d.records previous = d.records none :=
    Discovery.records_of_traced discerned hi (fun p same => (earlier p same).traced discerned) found
  rw [records] at links last
  obtain ⟨g, _, _, _, rfl⟩ := Discovery.build_ok_iff.mp assembled
  refine ⟨d, found, wf, links, last, ?_⟩
  intro path r
  have ordered := Discovery.records_ascending (candidates_ascending found)
  rw [← records] at ordered ⊢
  exact Snapshot.record_new_iff ordered

/-- A build of a directory with something to index never fails as long as there is a version for it. -/
theorem exists_build (directory : i.tree.isDirectory i.root.path = true)
    (found : i.tree.discover i.config i.root = .ok d) (some : d.candidates ≠ [])
    (room : HasRoom previous) : ∃ s, i.build previous = .ok s := by
  obtain ⟨s, assembled⟩ := d.exists_build room
  exact ⟨s, SourceTree.build_ok_iff.mpr ⟨d, directory, found, some, assembled⟩⟩

end BuildInput

namespace Snapshot.BuiltFrom

variable [Tools]

variable {first second : Snapshot} {d d' : Discovery} {before after : Record}

theorem links_agree (one : first.BuiltFrom d) (two : second.BuiltFrom d')
    (edited : d.Edited before after d') {l : Link} (other : l.source ≠ before.id) :
    l ∈ first.graph.links ↔ l ∈ second.graph.links := by
  have id : before.id = after.id := by rw [Record.id, Record.id, edited.path]
  -- The source is part of the key, so links of other files are never dropped for one of this file.
  have kept : ∀ links : List Link, l ∈ distinctBy Link.key links ↔
      l ∈ distinctBy Link.key (links.filter fun l => l.source ≠ after.id) := by
    intro links
    have filtered : (distinctBy Link.key links).filter (fun l => l.source ≠ after.id) =
        distinctBy Link.key (links.filter fun l => l.source ≠ after.id) :=
      distinctBy_filter Link.key (fun key => key.1 ≠ after.id) links
    rw [← filtered, List.mem_filter, decide_eq_true_iff]
    exact (and_iff_left (id ▸ other)).symm
  rw [one.links, two.links, edited.listing, edited.crates, edited.records, kept,
    kept (Resolver.assembly _ _).links, Assembly.links_replace]

theorem nodes_agree (one : first.BuiltFrom d) (two : second.BuiltFrom d')
    (edited : d.Edited before after d')
    (apart : IdsApart (Mentioned ⟨d.listing, d.crates⟩ (d.records none)))
    (apart' : IdsApart (Mentioned ⟨d'.listing, d'.crates⟩ (d'.records none))) {n : Node}
    (other : ¬ n.Concerns before after) : n ∈ first.graph.nodes ↔ n ∈ second.graph.nodes := by
  rw [Node.Concerns, not_or, List.mem_append, not_or] at other
  obtain ⟨⟨notBefore, notAfter⟩, inside⟩ := other
  rw [Assembly.mem_nodes_iff apart one.wellFormed one.last,
    Assembly.mem_nodes_iff apart' two.wellFormed two.last, edited.listing, edited.crates,
    edited.records, ← List.head?_filter, ← List.head?_filter, List.filter_reverse,
    List.filter_reverse, Assembly.nodes_replace inside edited.only notBefore notAfter]

end Snapshot.BuiltFrom

/-- Around an edit of a file that has a record before and after, only nodes of that file and of outside
names change, and only links that start at the file. -/
theorem edit_is_local [Tools] {inputs : List BuildInput} (discerned : Discerned inputs) {i : BuildInput}
    {place path : String} {content : Bytes} (old : i ∈ inputs) (new : i.edit place content ∈ inputs)
    {p q : Option Snapshot} (earlier : ∀ s, p = some s → Lineage inputs s)
    (earlier' : ∀ s, q = some s → Lineage inputs s) {first : Snapshot}
    (built : i.build p = .ok first) {before : Record}
    (recorded : first.record? path = some before)
    (below : Path.below? i.root.path place = some path)
    (fits : UInt64.ofNat content.length ≤ i.config.maxFileSize)
    {source : String} (text : Text.ofUtf8? content = some source) {e : Extraction}
    (parsed : Extraction.ofSource? (.ofPath path) path source = some (.ok e))
    (apart : IdsApart i.Mentions) (apart' : IdsApart (i.edit place content).Mentions) :
    ∃ second after, (i.edit place content).build q = .ok second ∧
      second.record? path = some after ∧ LocalTo before after first second := by
  obtain ⟨d, found, one⟩ := BuildInput.builtFrom_of_build discerned old earlier built
  obtain ⟨hbefore, rfl⟩ := (one.recorded path before).mp recorded
  obtain ⟨d', after, found', some, hafter, edited⟩ :=
    BuildInput.exists_edited found hbefore below fits ⟨rfl, source, text, parsed⟩
  have directory : (i.edit place content).tree.isDirectory i.root.path = true := by
    rw [BuildInput.isDirectory_edit found hbefore below]
    exact (SourceTree.build_ok_iff.mp built).choose_spec.1
  obtain ⟨second, built'⟩ := BuildInput.exists_build directory found' some (.of_lineage discerned earlier')
  obtain ⟨d'', found'', two⟩ := BuildInput.builtFrom_of_build discerned new earlier' built'
  cases found'.symm.trans found''
  refine ⟨second, after, built', (two.recorded _ _).mpr ⟨hafter, edited.path⟩, ?_⟩
  apply LocalTo.of_shared one.wellFormed two.wellFormed
  · intro n other
    exact one.nodes_agree two edited
      (fun _ _ _ _ a b => apart _ _ _ _ ⟨d, found, a⟩ ⟨d, found, b⟩)
      (fun _ _ _ _ a b => apart' _ _ _ _ ⟨d', found', a⟩ ⟨d', found', b⟩) other
  · intro l other
    exact one.links_agree two edited other

theorem BuildInput.idsApart_of_places [Tools] {i : BuildInput}
    (apart : ∀ d ∈ (i.tree.discover i.config i.root).toOption,
      ∀ p ∈ (Resolver.assembly ⟨d.listing, d.crates⟩ (d.records none)).allNodes.map Node.place,
      ∀ q ∈ (Resolver.assembly ⟨d.listing, d.crates⟩ (d.records none)).allNodes.map Node.place,
        NodeId.of p.1 p.2 = NodeId.of q.1 q.2 → p = q) : IdsApart i.Mentions := by
  rintro kind path kind' path' ⟨d, found, one⟩ ⟨d', found', other⟩
  cases found.symm.trans found'
  have known : d ∈ (i.tree.discover i.config i.root).toOption := by
    rw [found]
    rfl
  exact SourceAtlas.idsApart_of_places (apart d known) _ _ _ _ one other

open Scanners

/-- The header of the sample includes another one from outside. -/
def headerEdit : BuildInput := sampleInput.edit "part.h" (Text.utf8 "#include <stdlib.h>\n")

theorem header_edit_is_local :
    Discerned [sampleInput, headerEdit] ∧ Lineage [sampleInput, headerEdit] sampleSnapshot ∧
    IdsApart sampleInput.Mentions ∧ IdsApart headerEdit.Mentions ∧
    ∃ before, sampleSnapshot.record? "part.h" = some before ∧
      ∃ second after, headerEdit.build (some sampleSnapshot) = .ok second ∧
        second.record? "part.h" = some after ∧ LocalTo before after sampleSnapshot second ∧
        (Diff.between sampleSnapshot second).addedLinks.map (·.source) =
          [NodeId.of .file "part.h"] := by
  have discerned : Discerned [sampleInput, headerEdit] := by
    unfold Discerned
    decide +kernel
  have lineage : Lineage [sampleInput, headerEdit] sampleSnapshot := by
    refine Lineage.build (i := sampleInput) List.mem_cons_self ?_ sample_built (by decide +kernel)
    intro p none
    cases none
  have apart : IdsApart sampleInput.Mentions := BuildInput.idsApart_of_places (by decide +kernel)
  have apart' : IdsApart headerEdit.Mentions := BuildInput.idsApart_of_places (by decide +kernel)
  obtain ⟨before, recorded⟩ := Option.isSome_iff_exists.mp
    (show (sampleSnapshot.record? "part.h").isSome = true by decide +kernel)
  have text : Text.ofUtf8? (Text.utf8 "#include <stdlib.h>\n") = some "#include <stdlib.h>\n" := by
    decide +kernel
  obtain ⟨second, after, built, known, isLocal⟩ := edit_is_local discerned List.mem_cons_self
    (List.mem_cons_of_mem _ List.mem_cons_self) (p := none) (q := some sampleSnapshot)
    (by rintro _ ⟨⟩) (fun _ same => Option.some.inj same ▸ lineage) sample_built recorded
    (by decide +kernel) (by decide +kernel) text rfl apart apart'
  have sources : (headerEdit.build (some sampleSnapshot)).toOption.map
      (fun s => (Diff.between sampleSnapshot s).addedLinks.map (·.source)) =
        some [NodeId.of .file "part.h"] := by
    decide +kernel
  have edited : headerEdit.build (some sampleSnapshot) = .ok second := built
  rw [edited] at sources
  simp only [Except.toOption, Option.map_some, Option.some.injEq] at sources
  exact ⟨discerned, lineage, apart, apart', before, recorded, second, after, edited, known, isLocal,
    sources⟩

end SourceAtlas
