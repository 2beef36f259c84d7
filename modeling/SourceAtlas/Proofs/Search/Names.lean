import SourceAtlas.Proofs.Build.Conservation
import SourceAtlas.Proofs.Search.Counts

/-! Nodes are found by their names. A name goes into the counts of its node through the same cutting as a
query does, so every term of the query is counted there. The node of a file holds the names of its symbols
besides its path. -/
namespace SourceAtlas

/-- The graph holds the last node that was put under each id. -/
structure Graph.AssembledFrom (resolver : Resolver) (records : List Record) (g : Graph) : Prop where
  wellFormed : g.WellFormed
  last : ∀ id, g.node? id = (resolver.assembly records).allNodes.reverse.find? (·.id = id)
  paths : (records.map (·.path)).Nodup

/-- Everything that is counted occurs less often than a word can count. -/
structure Record.Countable (resolver : Resolver) (records : List Record) : Prop where
  files : ∀ r ∈ records, r.terms.length < 2 ^ 32
  outside : ∀ name, Mentioned resolver records .external name → (Term.tokenize name).length < 2 ^ 32

theorem Record.Countable.symbol {resolver : Resolver} {records : List Record} {r : Record} {s : Symbol}
    (h : Countable resolver records) (hr : r ∈ records) (hs : s ∈ r.symbols) :
    (Term.tokenize s.name).length < 2 ^ 32 :=
  Nat.lt_of_le_of_lt (tokenize_length_le (name_mem_texts hs)) (h.files r hr)

theorem Node.Named.id_eq {n : Node} (named : n.Named) {kind : NodeKind} {path : String}
    (place : n.place = (kind, path)) : n.id = .of kind path := by
  obtain ⟨rfl, rfl⟩ := Prod.mk.inj place
  exact named

namespace Assembly

variable {resolver : Resolver} {records : List Record} {n : Node}

/-- The nodes that are put, by what they stand for. -/
theorem cases_of_mem (h : n ∈ (resolver.assembly records).allNodes) :
    (∃ r ∈ records, n = r.fileNode) ∨ (∃ r ∈ records, ∃ s ∈ r.symbols, n = r.symbolNode s) ∨
      ∃ language name, Mentioned resolver records .external name ∧ n = outsideNode language name := by
  rcases List.mem_append.mp h with h | h
  · obtain ⟨r, hr, hn⟩ := List.mem_flatMap.mp h
    rcases List.mem_cons.mp hn with rfl | hn
    · exact .inl ⟨r, hr, rfl⟩
    · obtain ⟨s, hs, rfl⟩ := List.mem_map.mp hn
      exact .inr (.inl ⟨r, hr, s, hs, rfl⟩)
  · obtain ⟨⟨name, node⟩, he, rfl⟩ := List.mem_map.mp h
    have found := TextMap.mem_entries_iff.mp he
    rw [get_outside] at found
    obtain ⟨entry, _, made⟩ := Option.map_eq_some_iff.mp found
    have known : name ∈ (resolver.assembly records).outside.keys := List.mem_map_of_mem he
    exact .inr (.inr ⟨entry.1, name, mem_outside_keys_iff.mp known, made.symm⟩)

end Assembly

namespace Graph.AssembledFrom

variable {resolver : Resolver} {records : List Record} {g : Graph} {r : Record} {s : Symbol} {n : Node}

theorem mem_allNodes (h : g.AssembledFrom resolver records) (hn : n ∈ g.nodes) :
    n ∈ (resolver.assembly records).allNodes :=
  Assembly.mem_allNodes h.wellFormed h.last hn

theorem eq_fileNode (h : g.AssembledFrom resolver records) (hn : n ∈ g.nodes)
    (kind : n.kind = .file) : ∃ r ∈ records, n = r.fileNode := by
  rcases Assembly.cases_of_mem (h.mem_allNodes hn) with
    made | ⟨r, _, s, _, rfl⟩ | ⟨language, name, _, rfl⟩
  · exact made
  · cases kind.symm.trans (congrArg Prod.fst (Record.symbolNode_place r s).1)
  · cases kind.symm.trans (congrArg Prod.fst (outsideNode_place language name).1)

theorem eq_symbolNode (h : g.AssembledFrom resolver records) (hn : n ∈ g.nodes)
    (kind : n.kind = .symbol) : ∃ r ∈ records, ∃ s ∈ r.symbols, n = r.symbolNode s := by
  rcases Assembly.cases_of_mem (h.mem_allNodes hn) with
    ⟨r, _, rfl⟩ | made | ⟨language, name, _, rfl⟩
  · cases kind.symm.trans (congrArg Prod.fst (Record.fileNode_place r).1)
  · exact made
  · cases kind.symm.trans (congrArg Prod.fst (outsideNode_place language name).1)

theorem eq_outsideNode (h : g.AssembledFrom resolver records) (hn : n ∈ g.nodes)
    (kind : n.kind = .external) : ∃ language name,
      Mentioned resolver records .external name ∧ n = outsideNode language name ∧ n.path = name := by
  rcases Assembly.cases_of_mem (h.mem_allNodes hn) with
    ⟨r, _, rfl⟩ | ⟨r, _, s, _, rfl⟩ | ⟨language, name, mentioned, rfl⟩
  · cases kind.symm.trans (congrArg Prod.fst (Record.fileNode_place r).1)
  · cases kind.symm.trans (congrArg Prod.fst (Record.symbolNode_place r s).1)
  · exact ⟨language, name, mentioned, rfl, congrArg Prod.snd (outsideNode_place language name).1⟩

theorem fileNode_mem (h : g.AssembledFrom resolver records)
    (apart : IdsApart (Mentioned resolver records)) (hr : r ∈ records) : r.fileNode ∈ g.nodes := by
  obtain ⟨n, node, place⟩ := Assembly.node_of_mentioned apart h.last (.file hr)
  obtain ⟨hn, _⟩ := Graph.mem_of_node node
  obtain ⟨r', hr', rfl⟩ := h.eq_fileNode hn (congrArg Prod.fst place)
  rw [(Record.fileNode_place r').1] at place
  have same : r' = r := List.inj_on_of_nodup_map h.paths hr' hr (congrArg Prod.snd place)
  exact same ▸ hn

/-- The node in the place of a symbol is that of a symbol. -/
theorem symbolNode_mem (h : g.AssembledFrom resolver records)
    (apart : IdsApart (Mentioned resolver records)) (hr : r ∈ records) (hs : s ∈ r.symbols) :
    ∃ r' ∈ records, ∃ s' ∈ r'.symbols,
      r'.symbolPath s' = r.symbolPath s ∧ r'.symbolNode s' ∈ g.nodes := by
  obtain ⟨n, node, place⟩ := Assembly.node_of_mentioned apart h.last (.symbol hr hs)
  obtain ⟨hn, _⟩ := Graph.mem_of_node node
  obtain ⟨r', hr', s', hs', rfl⟩ := h.eq_symbolNode hn (congrArg Prod.fst place)
  rw [(Record.symbolNode_place r' s').1] at place
  exact ⟨r', hr', s', hs', congrArg Prod.snd place, hn⟩

theorem counted (h : g.AssembledFrom resolver records)
    (countable : Record.Countable resolver records) : ∀ n ∈ g.nodes, n.total < 2 ^ 32 := by
  intro n hn
  rcases Assembly.cases_of_mem (h.mem_allNodes hn) with
    ⟨r, hr, rfl⟩ | ⟨r, hr, s, hs, rfl⟩ | ⟨language, name, mentioned, rfl⟩
  · exact r.fileNode_counts.total_lt (countable.files r hr)
  · exact (r.symbolNode_counts s).total_lt (countable.symbol hr hs)
  · exact (outsideNode_counts language name).total_lt (countable.outside name mentioned)

variable {text : String}

/-- A text finds a file if all of its terms come from what goes into the node of the file. -/
theorem finds_file (h : g.AssembledFrom resolver records)
    (countable : Record.Countable resolver records) (hr : r ∈ records) (here : r.fileNode ∈ g.nodes)
    (some : Term.tokenize text ≠ []) (each : ∀ term ∈ Term.tokenize text, term ∈ r.terms) :
    g.Finds text r.fileNode.id (Term.distinct text).length :=
  Graph.finds_of_counts h.wellFormed.ids_distinct (h.counted countable) here r.fileNode_counts
    (countable.files r hr) some each

theorem finds_symbol (h : g.AssembledFrom resolver records)
    (countable : Record.Countable resolver records) (hr : r ∈ records) (hs : s ∈ r.symbols)
    (here : r.symbolNode s ∈ g.nodes) (some : Term.tokenize s.name ≠ []) :
    g.Finds s.name (r.symbolNode s).id (Term.distinct s.name).length :=
  Graph.finds_of_counts h.wellFormed.ids_distinct (h.counted countable) here
    (r.symbolNode_counts s) (countable.symbol hr hs) some fun _ ht => ht

theorem finds_outside (h : g.AssembledFrom resolver records)
    (countable : Record.Countable resolver records) (hn : n ∈ g.nodes) (kind : n.kind = .external)
    (some : Term.tokenize n.path ≠ []) :
    g.Finds n.path n.id (Term.distinct n.path).length := by
  obtain ⟨language, name, mentioned, rfl, path⟩ := h.eq_outsideNode hn kind
  rw [path] at some ⊢
  exact Graph.finds_of_counts h.wellFormed.ids_distinct (h.counted countable) hn
    (outsideNode_counts language name) (countable.outside name mentioned) some fun _ ht => ht

end Graph.AssembledFrom

namespace SourceTree

variable {t : SourceTree} {config : BuildConfig} {root : BuildRoot} {previous : Option Snapshot}
  {s : Snapshot} {d : Discovery}

theorem assembledFrom_of_build [Tools] (keyed : ∀ p, previous = some p → p.Keyed)
    (built : t.build config root previous = .ok s) (found : t.discover config root = .ok d) :
    s.graph.AssembledFrom ⟨d.listing, d.crates⟩ s.records.values := by
  obtain ⟨_, _, found', _, assembled⟩ := build_ok_iff.mp built
  cases found.symm.trans found'
  obtain ⟨wf, _, last⟩ := Discovery.graph_of_build assembled
  obtain ⟨values, ordered⟩ := records_of_build keyed built found
  refine ⟨wf, values ▸ last, List.pairwise_map.mpr (ordered.imp ?_)⟩
  intro a b below same
  exact String.lt_irrefl b.path (same ▸ below)

end SourceTree

/-- A text finds the files that it is the path of or that declare a symbol of that name, the nodes of the
symbols of that name, and the node of the outside name. Symbols of different names are in one place only
if a name or a path holds the sign between them; the node is then that of one of them. -/
theorem names_find_nodes [Tools] {t : SourceTree} {config : BuildConfig} {root : BuildRoot}
    {previous : Option Snapshot} {s : Snapshot} {d : Discovery}
    (keyed : ∀ p, previous = some p → p.Keyed) (built : t.build config root previous = .ok s)
    (found : t.discover config root = .ok d)
    (apart : IdsApart (Mentioned ⟨d.listing, d.crates⟩ s.records.values))
    (countable : Record.Countable ⟨d.listing, d.crates⟩ s.records.values) (text : String)
    (some : Term.tokenize text ≠ []) :
    (∀ r ∈ s.records.values, (r.path = text ∨ ∃ declared ∈ r.symbols, declared.name = text) →
      r.fileNode ∈ s.graph.nodes ∧ s.graph.Finds text r.id (Term.distinct text).length) ∧
    (∀ n ∈ s.graph.nodes, (n.kind = .file → ∃ r ∈ s.records.values, n = r.fileNode) ∧
      (n.kind = .symbol →
        ∃ r ∈ s.records.values, ∃ declared ∈ r.symbols, n = r.symbolNode declared)) ∧
    (∀ r ∈ s.records.values, ∀ declared ∈ r.symbols, r.symbolNode declared ∈ s.graph.nodes →
      declared.name = text →
      s.graph.Finds text (r.symbolNode declared).id (Term.distinct text).length) ∧
    (∀ r ∈ s.records.values, ∀ declared ∈ r.symbols, declared.name = text →
      (∀ r' ∈ s.records.values, ∀ other ∈ r'.symbols,
        r'.symbolPath other = r.symbolPath declared → other.name = text) →
      s.graph.Finds text (.of .symbol (r.symbolPath declared)) (Term.distinct text).length) ∧
    ∀ n ∈ s.graph.nodes, n.kind = .external → n.path = text →
      s.graph.Finds text n.id (Term.distinct text).length := by
  have assembled := SourceTree.assembledFrom_of_build keyed built found
  refine ⟨?_, fun n hn => ⟨assembled.eq_fileNode hn, assembled.eq_symbolNode hn⟩, ?_, ?_, ?_⟩
  · intro r hr named
    have whole : text ∈ r.texts := by
      rcases named with rfl | ⟨declared, hd, rfl⟩
      · exact List.mem_cons_self
      · exact Record.name_mem_texts hd
    have each : ∀ term ∈ Term.tokenize text, term ∈ r.terms := fun term ht =>
      Record.mem_terms_iff.mpr ⟨text, whole, ht⟩
    have here := assembled.fileNode_mem apart hr
    have id : r.fileNode.id = r.id := r.fileNode_place.2.id_eq r.fileNode_place.1
    exact ⟨here, id ▸ assembled.finds_file countable hr here some each⟩
  · rintro r hr declared hd here rfl
    exact assembled.finds_symbol countable hr hd here some
  · rintro r hr declared hd rfl alone
    obtain ⟨r', hr', other, ho, path, here⟩ := assembled.symbolNode_mem apart hr hd
    have name := alone r' hr' other ho path
    have place := r'.symbolNode_place other
    have id := place.2.id_eq (path ▸ place.1)
    rw [← name] at some ⊢
    exact id ▸ assembled.finds_symbol countable hr' ho here some
  · rintro n hn kind rfl
    exact assembled.finds_outside countable hn kind some

theorem Record.countable_of_places {resolver : Resolver} {records : List Record}
    (files : ∀ r ∈ records, r.terms.length < 2 ^ 32)
    (outside : ∀ place ∈ (resolver.assembly records).allNodes.map Node.place,
      place.1 = .external → (Term.tokenize place.2).length < 2 ^ 32) : Countable resolver records :=
  ⟨files, fun name mentioned => outside (.external, name) (Assembly.mentioned_iff.mp mentioned) rfl⟩

open Scanners

/-- A function in C, and a header of the system. -/
def decoderSource : Bytes :=
  Text.utf8 "#include <zlib.h>\nint readHTTPBody(int x) \x7b\n return x;\n\x7d\n"

def decoderTree : SourceTree := ⟨TextMap.ofList
  [("src", .directory), ("src/codec.c", .file (.readable decoderSource))]⟩

def decoderRecord : Record :=
  ⟨"src/codec.c", .c, 57, .of decoderSource, [⟨"readHTTPBody", .function, 2⟩],
    [⟨.cInclude "zlib.h" true, 1⟩], [], false⟩

def decoderDiscovery : Discovery :=
  (decoderTree.discover sampleConfig sampleRoot).toOption.getD ⟨[], [], [], .empty⟩

def decoderSnapshot : Snapshot :=
  (decoderTree.build sampleConfig sampleRoot none).toOption.getD .empty

theorem decoder_names_find_nodes :
    decoderTree.build sampleConfig sampleRoot none = .ok decoderSnapshot ∧
    decoderTree.discover sampleConfig sampleRoot = .ok decoderDiscovery ∧
    (Term.distinct "readHTTPBody").length = 3 ∧
    decoderSnapshot.graph.Finds "readHTTPBody" (.of .file "src/codec.c") 3 ∧
    decoderSnapshot.graph.Finds "readHTTPBody" (.of .symbol "src/codec.c#readHTTPBody") 3 ∧
    (Term.distinct "zlib.h").length = 2 ∧
    decoderSnapshot.graph.Finds "zlib.h" (.of .external "zlib.h") 2 := by
  have built : decoderTree.build sampleConfig sampleRoot none = .ok decoderSnapshot := by
    decide +kernel
  have recorded : decoderSnapshot.records.values = [decoderRecord] ∧
      outsideNode .c "zlib.h" ∈ decoderSnapshot.graph.nodes := by
    decide +kernel
  obtain ⟨records, header⟩ := recorded
  have found : decoderTree.discover sampleConfig sampleRoot = .ok decoderDiscovery := by
    decide +kernel
  have resolver : decoderDiscovery.listing = ["src/codec.c"] ∧ decoderDiscovery.crates = .empty := by
    decide +kernel
  have apart : IdsApart (Mentioned ⟨["src/codec.c"], .empty⟩ [decoderRecord]) :=
    idsApart_of_places (by decide +kernel)
  have countable : Record.Countable ⟨["src/codec.c"], .empty⟩ [decoderRecord] :=
    Record.countable_of_places (by decide +kernel) (by decide +kernel)
  have keyed : ∀ p, (none : Option Snapshot) = some p → p.Keyed := fun _ it => nomatch it
  have three : (Term.distinct "readHTTPBody").length = 3 := by decide +kernel
  have two : (Term.distinct "zlib.h").length = 2 := by decide +kernel
  rw [← records, ← resolver.1, ← resolver.2] at apart countable
  obtain ⟨files, _, _, symbols, _⟩ := names_find_nodes keyed built found apart countable
    "readHTTPBody" (by decide +kernel)
  obtain ⟨_, _, _, _, external⟩ := names_find_nodes keyed built found apart countable
    "zlib.h" (by decide +kernel)
  rw [records] at files symbols
  have here : decoderRecord ∈ [decoderRecord] := List.mem_singleton_self _
  have file := (files _ here (.inr ⟨_, List.mem_singleton_self _, rfl⟩)).2
  have symbol := symbols _ here _ (List.mem_singleton_self _) rfl (by decide +kernel)
  have place := outsideNode_place .c "zlib.h"
  have system := external _ header (congrArg Prod.fst place.1) (congrArg Prod.snd place.1)
  rw [three] at file symbol
  rw [two, place.2.id_eq place.1] at system
  exact ⟨built, found, three, file, symbol, two, system⟩

end SourceAtlas
