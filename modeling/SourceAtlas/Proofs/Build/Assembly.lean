import SourceAtlas.Proofs.Build.Parts
import SourceAtlas.Proofs.Graph.Batch

/-! What a set of records puts into its graph: a node for everything that the records speak of and a
link for everything that they declare. Nothing of it is ever refused, as every node carries the id of
its own kind and path and every link leads to a node that was put before it. -/
namespace SourceAtlas

/-- What a node stands for. -/
def Node.place (n : Node) : NodeKind × String := (n.kind, n.path)

/-- The things that records speak of. -/
inductive Mentioned (resolver : Resolver) (records : List Record) : NodeKind → String → Prop where
  | file {r : Record} : r ∈ records → Mentioned resolver records .file r.path
  | symbol {r : Record} {s : Symbol} : r ∈ records → s ∈ r.symbols →
      Mentioned resolver records .symbol (r.symbolPath s)
  | outside {r : Record} {d : Dependency} {name : String} : r ∈ records → d ∈ r.dependencies →
      .external name ∈ resolver.resolve r.path d.spec → Mentioned resolver records .external name

/-- The file of a record declares that it is related to a node, in some line. -/
inductive Record.Declares (resolver : Resolver) (records : List Record) (r : Record) :
    NodeId → Relation → UInt32 → Prop where
  | symbol {s : Symbol} : s ∈ r.symbols →
      Declares resolver records r (NodeId.of .symbol (r.symbolPath s)) .defines s.line
  | outside {d : Dependency} {name : String} : d ∈ r.dependencies →
      .external name ∈ resolver.resolve r.path d.spec →
      Declares resolver records r (NodeId.of .external name) d.spec.relation d.line
  | file {d : Dependency} {other : Record} : d ∈ r.dependencies → other ∈ records →
      .internal other.path ∈ resolver.resolve r.path d.spec → other.path ≠ r.path →
      Declares resolver records r other.id d.spec.relation d.line

namespace Node

/-- Counting terms changes nothing else. -/
theorem addTerms_eq (n : Node) (text : String) :
    n.addTerms text = { n with tokens := (n.addTerms text).tokens } := by
  unfold addTerms
  generalize Term.tokenize text = terms
  induction terms generalizing n with
  | nil => rfl
  | cons term rest ih => exact ih (n.addTerm term)

theorem foldl_addTerms_eq (n : Node) (texts : List String) :
    texts.foldl addTerms n = { n with tokens := (texts.foldl addTerms n).tokens } := by
  induction texts generalizing n with
  | nil => rfl
  | cons text rest ih =>
    rw [List.foldl_cons, ih, addTerms_eq]

end Node

namespace Record

variable {r : Record} {s : Symbol}

def places (r : Record) : List (NodeKind × String) :=
  (.file, r.path) :: r.symbols.map fun s => (.symbol, r.symbolPath s)

theorem fileNode_place (r : Record) : r.fileNode.place = (.file, r.path) ∧ r.fileNode.Named := by
  dsimp only [fileNode]
  rw [Node.foldl_addTerms_eq, Node.foldl_addTerms_eq, Node.addTerms_eq]
  exact ⟨rfl, rfl⟩

theorem symbolNode_place (r : Record) (s : Symbol) :
    (r.symbolNode s).place = (.symbol, r.symbolPath s) ∧ (r.symbolNode s).Named := by
  unfold symbolNode
  rw [Node.addTerms_eq]
  exact ⟨rfl, rfl⟩

theorem nodes_places (r : Record) : r.nodes.map Node.place = r.places := by
  simp [nodes, places, fileNode_place, symbolNode_place]

theorem named_of_mem_nodes {n : Node} (h : n ∈ r.nodes) : n.Named := by
  rcases List.mem_cons.mp h with rfl | h
  · exact (fileNode_place r).2
  · obtain ⟨s, _, rfl⟩ := List.mem_map.mp h
    exact (symbolNode_place r s).2

end Record

theorem outsideNode_place (language : Language) (name : String) :
    (outsideNode language name).place = (.external, name) ∧
      (outsideNode language name).Named := by
  unfold outsideNode
  rw [Node.addTerms_eq]
  exact ⟨rfl, rfl⟩

/-- Of several records that refer to an outside name the first one makes its node. -/
theorem get_foldl_addOutside (known : TextMap Node) (entries : List (Language × String))
    (name : String) : (entries.foldl addOutside known).get? name =
      (known.get? name).or ((entries.find? (·.2 = name)).map fun e => outsideNode e.1 name) := by
  induction entries generalizing known with
  | nil => simp
  | cons entry rest ih =>
    rw [List.foldl_cons, ih, addOutside, TextMap.contains_eq_isSome, List.find?_cons]
    cases old : known.get? entry.2 with
    | some node =>
      by_cases here : entry.2 = name
      · subst here
        simp [old]
      · simp [here]
    | none =>
      by_cases here : entry.2 = name
      · subst here
        simp [old]
      · simp [here, TextMap.get_insert_of_ne here]

namespace Reference

variable {indexed : List String} {origin path name : String} {answer : Resolution}

theorem ofResolution_eq_outside_iff :
    ofResolution indexed origin answer = .outside name ↔ answer = .external name := by
  cases answer with
  | internal path =>
    simp only [ofResolution, reduceCtorEq, iff_false]
    split
    · simp
    · split <;> simp
  | external other => simp [ofResolution]
  | missing => simp [ofResolution]

theorem ofResolution_eq_file_iff : ofResolution indexed origin answer = .file path ↔
    answer = .internal path ∧ path ≠ origin ∧ path ∈ indexed := by
  cases answer with
  | internal other =>
    simp only [ofResolution, List.contains_iff_mem]
    split
    · next self =>
      simp only [reduceCtorEq, Resolution.internal.injEq, false_iff, not_and]
      rintro rfl other
      exact absurd self other
    · next differs =>
      split
      · next known =>
        simp only [file.injEq, Resolution.internal.injEq]
        constructor
        · rintro rfl
          exact ⟨rfl, differs, known⟩
        · exact And.left
      · next unknown =>
        simp only [reduceCtorEq, Resolution.internal.injEq, false_iff, not_and]
        rintro rfl _ known
        exact unknown known
  | external name => simp [ofResolution]
  | missing => simp [ofResolution]

end Reference

namespace Record

variable {resolver : Resolver} {records : List Record} {r : Record}

theorem mem_references_iff {indexed : List String} {d : Dependency} {reference : Reference} :
    (d, reference) ∈ r.references resolver indexed ↔ d ∈ r.dependencies ∧
      ∃ answer ∈ resolver.resolve r.path d.spec,
        Reference.ofResolution indexed r.path answer = reference := by
  simp only [references, List.mem_flatMap, List.mem_map, Prod.mk.injEq]
  constructor
  · rintro ⟨_, hd, answer, given, rfl, rfl⟩
    exact ⟨hd, answer, given, rfl⟩
  · rintro ⟨hd, answer, given, rfl⟩
    exact ⟨d, hd, answer, given, rfl, rfl⟩

theorem mem_outsideNames_iff {indexed : List String} {name : String} :
    name ∈ r.outsideNames resolver indexed ↔
      ∃ d ∈ r.dependencies, .external name ∈ resolver.resolve r.path d.spec := by
  simp only [outsideNames, List.mem_filterMap]
  constructor
  · rintro ⟨⟨d, reference⟩, he, named⟩
    obtain ⟨hd, answer, given, read⟩ := mem_references_iff.mp he
    cases reference with
    | outside other =>
      cases named
      rw [Reference.ofResolution_eq_outside_iff.mp read] at given
      exact ⟨d, hd, given⟩
    | file _ => cases named
    | itself => cases named
    | unresolved => cases named
  · rintro ⟨d, hd, given⟩
    exact ⟨(d, .outside name), mem_references_iff.mpr ⟨hd, _, given, rfl⟩, rfl⟩

/-- The links of a record are what its file declares. -/
theorem mem_links_iff {l : Link} : l ∈ r.links resolver (records.map (·.path)) ↔
    l.source = r.id ∧
      ∃ line, l.line = some line ∧ r.Declares resolver records l.target l.relation line := by
  simp only [links, List.mem_append, List.mem_map, List.mem_filterMap, dependencyLink?,
    Option.map_eq_some_iff]
  constructor
  · rintro (⟨s, hs, rfl⟩ | ⟨⟨d, reference⟩, he, target, leads, rfl⟩)
    · exact ⟨rfl, s.line, rfl, .symbol hs⟩
    · obtain ⟨hd, answer, given, read⟩ := mem_references_iff.mp he
      refine ⟨rfl, d.line, rfl, ?_⟩
      cases reference with
      | file path =>
        cases leads
        obtain ⟨rfl, other, known⟩ := Reference.ofResolution_eq_file_iff.mp read
        obtain ⟨about, ha, rfl⟩ := List.mem_map.mp known
        exact .file hd ha given other
      | outside name =>
        cases leads
        rw [Reference.ofResolution_eq_outside_iff.mp read] at given
        exact .outside hd given
      | itself => cases leads
      | unresolved => cases leads
  · obtain ⟨source, target, relation, found⟩ := l
    rintro ⟨rfl, line, rfl, declared⟩
    cases declared with
    | symbol hs => exact .inl ⟨_, hs, rfl⟩
    | outside hd given =>
      exact .inr ⟨(_, .outside _), mem_references_iff.mpr ⟨hd, _, given, rfl⟩, _, rfl, rfl⟩
    | @file d other hd ho given differs =>
      have read : Reference.ofResolution (records.map (·.path)) r.path (.internal other.path) =
          .file other.path :=
        Reference.ofResolution_eq_file_iff.mpr ⟨rfl, differs, List.mem_map_of_mem ho⟩
      exact .inr ⟨(d, .file other.path), mem_references_iff.mpr ⟨hd, _, given, read⟩, _, rfl, rfl⟩

end Record

/-- The parts of the graph of these records. -/
abbrev Resolver.assembly (resolver : Resolver) (records : List Record) : Assembly :=
  .ofRecords resolver.listing resolver.crates records

namespace Assembly

variable {resolver : Resolver} {records : List Record}

/-- Every reference to an outside name, with the language of the record that makes it. -/
def outsideEntries (resolver : Resolver) (records : List Record) : List (Language × String) :=
  records.flatMap fun r =>
    (r.outsideNames resolver (records.map (·.path))).map fun name => (r.language, name)

theorem mem_outsideEntries_iff {name : String} :
    (∃ language, (language, name) ∈ outsideEntries resolver records) ↔
      Mentioned resolver records .external name := by
  simp only [outsideEntries, List.mem_flatMap, List.mem_map, Prod.mk.injEq]
  constructor
  · rintro ⟨_, r, hr, _, known, rfl, rfl⟩
    obtain ⟨d, hd, given⟩ := Record.mem_outsideNames_iff.mp known
    exact .outside hr hd given
  · rintro (_ | _ | ⟨hr, hd, given⟩)
    exact ⟨_, _, hr, name, Record.mem_outsideNames_iff.mpr ⟨_, hd, given⟩, rfl, rfl⟩

theorem get_outside (name : String) :
    (resolver.assembly records).outside.get? name =
      ((outsideEntries resolver records).find? (·.2 = name)).map fun e => outsideNode e.1 name := by
  exact (get_foldl_addOutside .empty (outsideEntries resolver records) name).trans (by simp)

theorem mem_outside {e : String × Node}
    (h : e ∈ (resolver.assembly records).outside.entries) :
    e.2.place = (.external, e.1) ∧ e.2.Named := by
  have found := TextMap.mem_entries_iff.mp h
  rw [get_outside] at found
  obtain ⟨entry, _, made⟩ := Option.map_eq_some_iff.mp found
  exact made ▸ outsideNode_place entry.1 e.1

theorem mem_outside_keys_iff {name : String} :
    name ∈ (resolver.assembly records).outside.keys ↔
      Mentioned resolver records .external name := by
  rw [← mem_outsideEntries_iff, TextMap.keys, List.mem_map]
  constructor
  · rintro ⟨⟨name, node⟩, he, rfl⟩
    have found := TextMap.mem_entries_iff.mp he
    rw [get_outside] at found
    obtain ⟨⟨language, other⟩, first, _⟩ := Option.map_eq_some_iff.mp found
    have same : other = name := by simpa using List.find?_some first
    exact ⟨language, same ▸ List.mem_of_find?_eq_some first⟩
  · rintro ⟨language, known⟩
    have found : ((outsideEntries resolver records).find? (·.2 = name)).isSome := by
      rw [List.find?_isSome]
      exact ⟨(language, name), known, by simp⟩
    obtain ⟨first, hfirst⟩ := Option.isSome_iff_exists.mp found
    refine ⟨(name, outsideNode first.1 name), TextMap.mem_entries_iff.mpr ?_, rfl⟩
    rw [get_outside, hfirst, Option.map_some]

/-- The nodes that are put, in their order. -/
def allNodes (a : Assembly) : List Node := a.nodes ++ a.outside.values

theorem named_of_mem {n : Node}
    (h : n ∈ (resolver.assembly records).allNodes) : n.Named := by
  rcases List.mem_append.mp h with h | h
  · obtain ⟨r, _, hn⟩ := List.mem_flatMap.mp h
    exact Record.named_of_mem_nodes hn
  · obtain ⟨e, he, rfl⟩ := List.mem_map.mp h
    exact (mem_outside he).2

theorem places_eq : (resolver.assembly records).allNodes.map Node.place =
    records.flatMap Record.places ++
      (resolver.assembly records).outside.keys.map (NodeKind.external, ·) := by
  rw [allNodes, List.map_append]
  congr 1
  · simp only [Resolver.assembly, ofRecords, List.map_flatMap, Record.nodes_places]
  · rw [TextMap.values, TextMap.keys, List.map_map, List.map_map]
    apply List.map_congr_left
    intro e he
    exact (mem_outside he).1

theorem mentioned_iff {kind : NodeKind} {path : String} : Mentioned resolver records kind path ↔
    (kind, path) ∈
      (resolver.assembly records).allNodes.map Node.place := by
  rw [places_eq, List.mem_append, List.mem_flatMap, List.mem_map]
  simp only [Record.places, List.mem_cons, List.mem_map]
  constructor
  · intro h
    cases h with
    | file hr => exact .inl ⟨_, hr, .inl rfl⟩
    | symbol hr hs => exact .inl ⟨_, hr, .inr ⟨_, hs, rfl⟩⟩
    | outside hr hd given =>
      exact .inr ⟨path, mem_outside_keys_iff.mpr (.outside hr hd given), rfl⟩
  · rintro (⟨r, hr, e | ⟨s, hs, e⟩⟩ | ⟨name, known, e⟩)
    · cases e
      exact .file hr
    · cases e
      exact .symbol hr hs
    · cases e
      exact mem_outside_keys_iff.mp known

theorem mentioned_of_mem {n : Node} (h : n ∈ (resolver.assembly records).allNodes) :
    Mentioned resolver records n.kind n.path :=
  mentioned_iff.mpr (List.mem_map_of_mem h)

theorem mem_ids_iff {id : NodeId} :
    id ∈ (resolver.assembly records).allNodes.map (·.id) ↔
      ∃ kind path, Mentioned resolver records kind path ∧ id = NodeId.of kind path := by
  simp only [mentioned_iff, List.mem_map]
  constructor
  · rintro ⟨n, hn, rfl⟩
    exact ⟨n.kind, n.path, ⟨n, hn, rfl⟩, named_of_mem hn⟩
  · rintro ⟨kind, path, ⟨n, hn, place⟩, rfl⟩
    cases place
    exact ⟨n, hn, named_of_mem hn⟩

theorem mem_links_iff {l : Link} :
    l ∈ (resolver.assembly records).links ↔
      ∃ r ∈ records, l.source = r.id ∧
        ∃ line, l.line = some line ∧ r.Declares resolver records l.target l.relation line := by
  simp only [Resolver.assembly, ofRecords, List.mem_flatMap, Record.mem_links_iff]

theorem ends_known {l : Link} (h : l ∈ (resolver.assembly records).links) :
    l.source ∈ (resolver.assembly records).allNodes.map (·.id) ∧
      l.target ∈ (resolver.assembly records).allNodes.map (·.id) := by
  obtain ⟨r, hr, source, line, _, declared⟩ := mem_links_iff.mp h
  obtain ⟨_, target, relation, _⟩ := l
  rw [mem_ids_iff, mem_ids_iff]
  refine ⟨⟨.file, r.path, .file hr, source⟩, ?_⟩
  cases declared with
  | symbol hs => exact ⟨_, _, .symbol hr hs, rfl⟩
  | outside hd given => exact ⟨_, _, .outside hr hd given, rfl⟩
  | file _ ho _ _ => exact ⟨_, _, .file ho, rfl⟩

/-- Nothing is refused if files of one path have one id and every link has ends. -/
theorem graph_of_alike {a : Assembly} (alike : FilesAlike a.allNodes)
    (ends : ∀ l ∈ a.links, l.source ∈ a.allNodes.map (·.id) ∧ l.target ∈ a.allNodes.map (·.id)) :
    ∃ h, Graph.empty.putNodes a.allNodes = (h, none) ∧
      a.graph = .ok { h with links := distinctBy Link.key a.links } := by
  have files : FilesAlike (Graph.empty.nodes ++ a.nodes) := fun m hm n hn =>
    alike m (List.mem_append_left _ hm) n (List.mem_append_left _ hn)
  obtain ⟨g, first, wf, nolinks, known⟩ := Graph.putNodes_alike .empty files
  have all : ∀ n ∈ g.nodes ++ a.outside.values, n ∈ a.allNodes := by
    intro n hn
    rcases List.mem_append.mp hn with hn | hn
    · exact List.mem_append_left _ (known n hn)
    · exact List.mem_append_right _ hn
  obtain ⟨h, second, _, kept, _⟩ := Graph.putNodes_alike wf fun m hm n hn =>
    alike m (all m hm) n (all n hn)
  have whole : Graph.empty.putNodes a.allNodes = (h, none) :=
    (Graph.putNodes_append first).trans second
  have present : ∀ l ∈ a.links, h.contains l.source = true ∧ h.contains l.target = true := by
    intro l hl
    rw [Graph.contains_of_putNodes whole, Graph.contains_of_putNodes whole]
    exact ends l hl
  have third := Graph.putLinks_distinct present
  rw [kept, nolinks] at third
  have fresh : (distinctBy Link.key a.links).filter (fun l => !h.hasLink l.key) =
      distinctBy Link.key a.links := by
    rw [List.filter_eq_self]
    intro l _
    simp [Graph.hasLink, kept, nolinks, Graph.empty]
  rw [fresh] at third
  exact ⟨h, whole, by simp only [graph, first, second, third]; rfl⟩

theorem graph_of_named {a : Assembly} (named : ∀ n ∈ a.allNodes, n.Named)
    (ends : ∀ l ∈ a.links, l.source ∈ a.allNodes.map (·.id) ∧ l.target ∈ a.allNodes.map (·.id)) :
    ∃ h, Graph.empty.putNodes a.allNodes = (h, none) ∧
      a.graph = .ok { h with links := distinctBy Link.key a.links } :=
  graph_of_alike (filesAlike_of_named named) ends

/-- Records always make a graph: the last node of every id and the first link of every key. -/
theorem graph_of_records (resolver : Resolver) (records : List Record) :
    ∃ g, (resolver.assembly records).graph = .ok g ∧
      g.links = distinctBy Link.key (resolver.assembly records).links ∧
      ∀ id, g.node? id = (resolver.assembly records).allNodes.reverse.find? (·.id = id) := by
  obtain ⟨h, put, assembled⟩ := graph_of_named (a := resolver.assembly records)
    (fun n hn => named_of_mem hn) fun l hl => ends_known hl
  refine ⟨_, assembled, rfl, ?_⟩
  intro id
  have last := Graph.node_of_putNodes put id
  rwa [show Graph.empty.node? id = none from rfl, Option.or_none] at last

end Assembly

section Builds

variable [Tools]

theorem Discovery.exists_build (d : Discovery) {previous : Option Snapshot} (room : HasRoom previous) :
    ∃ s, d.build previous = .ok s := by
  obtain ⟨g, assembled, _⟩ := Assembly.graph_of_records ⟨d.listing, d.crates⟩ (d.records previous)
  obtain ⟨version, next⟩ := room.exists_version
  exact ⟨_, build_ok_iff.mpr ⟨g, version, assembled, next, rfl⟩⟩

theorem Discovery.overflow_of_error {d : Discovery} {previous : Option Snapshot} {fault : Fault}
    (failed : d.build previous = .error fault) :
    fault = .overflow ∧ ∃ old, previous = some old ∧ old.version.toNat = 2 ^ 64 - 1 := by
  cases previous with
  | none =>
    obtain ⟨s, built⟩ := d.exists_build hasRoom_none
    cases built.symm.trans failed
  | some old =>
    obtain ⟨g, assembled, _⟩ :=
      Assembly.graph_of_records ⟨d.listing, d.crates⟩ (d.records (some old))
    have graph : (Assembly.ofRecords d.listing d.crates (d.records (some old))).graph = .ok g := assembled
    rw [build_eq, graph] at failed
    cases next : nextVersion (some old) with
    | ok version =>
      rw [next] at failed
      cases failed
    | error cause =>
      rw [next] at failed
      cases failed
      obtain ⟨same, last⟩ := nextVersion_eq_error_iff.mp next
      exact ⟨same, old, rfl, last⟩

/-- The graph of a build is that of its records. -/
theorem Discovery.graph_of_build {d : Discovery} {previous : Option Snapshot} {s : Snapshot}
    (built : d.build previous = .ok s) : s.graph.WellFormed ∧
      s.graph.links = distinctBy Link.key
        (Resolver.assembly ⟨d.listing, d.crates⟩ (d.records previous)).links ∧
      ∀ id, s.graph.node? id = (Resolver.assembly ⟨d.listing, d.crates⟩
        (d.records previous)).allNodes.reverse.find? (·.id = id) := by
  obtain ⟨g, _, assembled, _, rfl⟩ := build_ok_iff.mp built
  obtain ⟨h, assembled', links, last⟩ :=
    Assembly.graph_of_records ⟨d.listing, d.crates⟩ (d.records previous)
  cases assembled.symm.trans assembled'
  have wf : g.WellFormed := Assembly.graph_eq_after assembled ▸ Graph.after_wellFormed _
  exact ⟨wf, links, last⟩

end Builds

end SourceAtlas
