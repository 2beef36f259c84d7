import SourceAtlas.Proofs.Build.Assembly
import SourceAtlas.Proofs.Graph.Restore

/-! A built graph holds what its sources declare. If ids tell apart all that the records speak of, there
is one node for each of these things, and a link for whatever some record declares, at the first line
where it does. -/
namespace SourceAtlas

/-- What extraction takes care of. -/
structure Extracted (records : List Record) : Prop where
  paths : (records.map (·.path)).Nodup
  ascending : ∀ r ∈ records, r.dependencies.Pairwise fun a b => a.line ≤ b.line
  names : ∀ r ∈ records, (r.symbols.map (·.name)).Nodup
  symbols : ∀ a ∈ records, ∀ b ∈ records, ∀ s ∈ a.symbols, ∀ t ∈ b.symbols,
    a.symbolPath s = b.symbolPath t → a = b

/-- No two different things have the same id. -/
def IdsApart (things : NodeKind → String → Prop) : Prop :=
  ∀ kind path kind' path', things kind path → things kind' path' →
    NodeId.of kind path = NodeId.of kind' path' → kind = kind' ∧ path = path'

/-- What the dependencies of a record resolve to, one after another. -/
def Record.answers (resolver : Resolver) (r : Record) : List Resolution :=
  r.dependencies.flatMap fun d => resolver.resolve r.path d.spec

/-- An answer that leads nowhere: nothing is there, or a file that no record is about. -/
def Resolution.Dangling (records : List Record) : Resolution → Prop
  | .internal path => ∀ r ∈ records, r.path ≠ path
  | .external _ => False
  | .missing => True

instance (records : List Record) : DecidablePred (Resolution.Dangling records)
  | .internal path => inferInstanceAs (Decidable (∀ r ∈ records, r.path ≠ path))
  | .external _ => inferInstanceAs (Decidable False)
  | .missing => inferInstanceAs (Decidable True)

namespace Reference

variable {answer : Resolution}

theorem ofResolution_eq_unresolved_iff {records : List Record} {r : Record} (hr : r ∈ records) :
    ofResolution (records.map (·.path)) r.path answer = .unresolved ↔ answer.Dangling records := by
  cases answer with
  | internal path =>
    simp only [ofResolution, List.contains_iff_mem, Resolution.Dangling]
    split
    · next self =>
      simp only [reduceCtorEq, false_iff]
      intro unknown
      exact unknown r hr self.symm
    · split
      · next known =>
        obtain ⟨other, ho, same⟩ := List.mem_map.mp known
        simp only [reduceCtorEq, false_iff]
        intro unknown
        exact unknown other ho same
      · next unknown =>
        simp only [true_iff]
        intro other ho same
        exact unknown (List.mem_map.mpr ⟨other, ho, same⟩)
  | external name => simp [ofResolution, Resolution.Dangling]
  | missing => simp [ofResolution, Resolution.Dangling]

end Reference

theorem Spec.relation_ne_defines (spec : Spec) : spec.relation ≠ .defines := by
  cases spec <;> simp [relation]

/-- The lines of the second link do not come before those of the first. -/
def Link.LineLE (a b : Link) : Prop := ∀ x ∈ a.line, ∀ y ∈ b.line, x ≤ y

namespace Record

variable {resolver : Resolver} {r : Record} {indexed : List String}

theorem references_ascending (ascending : r.dependencies.Pairwise fun a b => a.line ≤ b.line) :
    (r.references resolver indexed).Pairwise fun a b => a.1.line ≤ b.1.line := by
  rw [references, List.pairwise_flatMap]
  constructor
  · intro d _
    rw [List.pairwise_map]
    exact List.pairwise_of_forall fun _ _ => UInt32.le_refl d.line
  · refine ascending.imp ?_
    intro a b le x hx y hy
    obtain ⟨_, _, rfl⟩ := List.mem_map.mp hx
    obtain ⟨_, _, rfl⟩ := List.mem_map.mp hy
    exact le

theorem links_ordered (ascending : r.dependencies.Pairwise fun a b => a.line ≤ b.line)
    (symbols : (r.symbols.map fun s => NodeId.of .symbol (r.symbolPath s)).Nodup) :
    (r.links resolver indexed).Pairwise fun a b => a.key = b.key → a.LineLE b := by
  -- Symbols have different ids, dependencies ascending lines, and no relation is one of both.
  refine List.pairwise_append.mpr ⟨?_, ?_, ?_⟩
  · refine List.pairwise_map.mpr ((List.pairwise_map.mp symbols).imp ?_)
    intro s t differ same
    exact absurd (congrArg (·.2.1) same) differ
  · refine List.pairwise_filterMap.mpr ((references_ascending ascending).imp ?_)
    intro a b le l hl m hm _ x hx y hy
    obtain ⟨_, _, rfl⟩ := Option.map_eq_some_iff.mp hl
    obtain ⟨_, _, rfl⟩ := Option.map_eq_some_iff.mp hm
    cases hx
    cases hy
    exact le
  · intro l hl m hm same
    obtain ⟨s, _, rfl⟩ := List.mem_map.mp hl
    obtain ⟨e, _, made⟩ := List.mem_filterMap.mp hm
    obtain ⟨_, _, rfl⟩ := Option.map_eq_some_iff.mp made
    exact absurd (congrArg (·.2.2) same).symm (Spec.relation_ne_defines e.1.spec)

end Record

namespace Assembly

variable {resolver : Resolver} {records : List Record}

theorem place_of_id (apart : IdsApart (Mentioned resolver records)) {m n : Node}
    (hm : m ∈ (resolver.assembly records).allNodes) (hn : n ∈ (resolver.assembly records).allNodes)
    (same : m.id = n.id) : m.place = n.place := by
  rw [named_of_mem hm, named_of_mem hn] at same
  obtain ⟨kind, path⟩ := apart _ _ _ _ (mentioned_of_mem hm) (mentioned_of_mem hn) same
  exact Prod.ext kind path

/-- What records speak of is found under its id, whatever was put after it. -/
theorem node_of_mentioned (apart : IdsApart (Mentioned resolver records)) {g : Graph}
    (last : ∀ id, g.node? id = (resolver.assembly records).allNodes.reverse.find? (·.id = id))
    {kind : NodeKind} {path : String} (known : Mentioned resolver records kind path) :
    ∃ n, g.node? (NodeId.of kind path) = some n ∧ n.place = (kind, path) := by
  obtain ⟨m, hm, place⟩ := List.mem_map.mp (mentioned_iff.mp known)
  have id : m.id = NodeId.of kind path := by
    cases place
    exact named_of_mem hm
  have present : ((resolver.assembly records).allNodes.reverse.find?
      (·.id = NodeId.of kind path)).isSome = true := by
    rw [List.find?_isSome]
    exact ⟨m, List.mem_reverse.mpr hm, decide_eq_true id⟩
  obtain ⟨n, found⟩ := Option.isSome_iff_exists.mp present
  have hn : n ∈ (resolver.assembly records).allNodes :=
    List.mem_reverse.mp (List.mem_of_find?_eq_some found)
  have same : n.id = NodeId.of kind path := by simpa using List.find?_some found
  exact ⟨n, (last _).trans found, (place_of_id apart hn hm (same.trans id.symm)).trans place⟩

end Assembly

theorem Record.symbolPath_inj {r : Record} {s t : Symbol} (h : r.symbolPath s = r.symbolPath t) :
    s.name = t.name := by
  simpa [symbolPath, String.append_assoc] using h

namespace Extracted

variable {resolver : Resolver} {records : List Record}

theorem places_nodup (h : Extracted records) :
    ((resolver.assembly records).allNodes.map Node.place).Nodup := by
  rw [Assembly.places_eq]
  refine List.nodup_append.mpr ⟨?_, ?_, ?_⟩
  · rw [List.nodup_flatMap]
    constructor
    · intro r hr
      refine List.nodup_cons.mpr ⟨by simp, ?_⟩
      refine List.pairwise_map.mpr ((List.pairwise_map.mp (h.names r hr)).imp ?_)
      intro s t differ same
      exact differ (Record.symbolPath_inj (congrArg Prod.snd same))
    · refine (List.pairwise_map.mp h.paths).imp_of_mem ?_
      intro a b ha hb differ place inA inB
      simp only [Record.places, List.mem_cons, List.mem_map] at inA inB
      rcases inA with rfl | ⟨s, hs, rfl⟩
      · rcases inB with same | ⟨t, _, same⟩
        · exact differ (congrArg Prod.snd same)
        · cases same
      · rcases inB with same | ⟨t, ht, same⟩
        · cases same
        · have one : a = b := h.symbols a ha b hb s hs t ht (congrArg Prod.snd same.symm)
          exact differ (congrArg Record.path one)
  · refine List.pairwise_map.mpr ((TextMap.keys_ascending _).imp ?_)
    intro a b below same
    cases same
    exact String.lt_irrefl _ below
  · rintro place inside _ outside rfl
    obtain ⟨r, _, hp⟩ := List.mem_flatMap.mp inside
    obtain ⟨name, _, rfl⟩ := List.mem_map.mp outside
    simp [Record.places] at hp

theorem ids_nodup (h : Extracted records) (apart : IdsApart (Mentioned resolver records)) :
    ((resolver.assembly records).allNodes.map (·.id)).Nodup := by
  have places : (resolver.assembly records).allNodes.Pairwise fun a b => a.place ≠ b.place :=
    List.pairwise_map.mp h.places_nodup
  refine List.pairwise_map.mpr (places.imp_of_mem ?_)
  intro a b ha hb differ same
  exact differ (Assembly.place_of_id apart ha hb same)

theorem symbolIds_nodup (h : Extracted records) (apart : IdsApart (Mentioned resolver records))
    {r : Record} (hr : r ∈ records) :
    (r.symbols.map fun s => NodeId.of .symbol (r.symbolPath s)).Nodup := by
  refine List.pairwise_map.mpr ((List.pairwise_map.mp (h.names r hr)).imp_of_mem ?_)
  intro s t hs ht differ same
  exact differ (Record.symbolPath_inj (apart _ _ _ _ (.symbol hr hs) (.symbol hr ht) same).2)

theorem id_inj (h : Extracted records) (apart : IdsApart (Mentioned resolver records))
    {a b : Record} (ha : a ∈ records) (hb : b ∈ records) (same : a.id = b.id) : a = b :=
  List.inj_on_of_nodup_map h.paths ha hb (apart _ _ _ _ (.file ha) (.file hb) same).2

theorem links_ordered (h : Extracted records) (apart : IdsApart (Mentioned resolver records)) :
    (resolver.assembly records).links.Pairwise fun a b => a.key = b.key → a.LineLE b := by
  refine List.pairwise_flatMap.mpr ⟨?_, ?_⟩
  · intro r hr
    exact Record.links_ordered (h.ascending r hr) (h.symbolIds_nodup apart hr)
  · refine (List.pairwise_map.mp h.paths).imp_of_mem ?_
    intro a b ha hb differ l hl m hm same
    have sources : l.source = m.source := congrArg Prod.fst same
    rw [(Record.mem_links_iff.mp hl).1, (Record.mem_links_iff.mp hm).1] at sources
    exact absurd (congrArg Record.path (h.id_inj apart ha hb sources)) differ

/-- A file never declares that it is related to itself. -/
theorem target_ne (apart : IdsApart (Mentioned resolver records)) {r : Record} (hr : r ∈ records)
    {target : NodeId} {relation : Relation} {line : UInt32}
    (declared : r.Declares resolver records target relation line) : r.id ≠ target := by
  intro same
  cases declared with
  | symbol hs => cases (apart _ _ _ _ (.file hr) (.symbol hr hs) same).1
  | outside hd given => cases (apart _ _ _ _ (.file hr) (.outside hr hd given) same).1
  | file _ ho _ differs => exact differs (apart _ _ _ _ (.file hr) (.file ho) same).2.symm

end Extracted

namespace Assembly

variable {resolver : Resolver} {records : List Record}

theorem unresolved_eq : (resolver.assembly records).unresolved =
    (records.flatMap (Record.answers resolver)).countP (Resolution.Dangling records) := by
  have each : ∀ r ∈ records, r.unresolved resolver (records.map (·.path)) =
      (r.answers resolver).countP (Resolution.Dangling records) := by
    intro r hr
    simp only [Record.unresolved, Record.references, Record.answers, List.countP_flatMap]
    congr 1
    apply List.map_congr_left
    intro d _
    simp only [Function.comp_apply, List.countP_map]
    apply List.countP_congr
    intro answer _
    simp [Reference.ofResolution_eq_unresolved_iff hr]
  calc (resolver.assembly records).unresolved
      = (records.map fun r => r.unresolved resolver (records.map (·.path))).sum := rfl
    _ = (records.map fun r => (r.answers resolver).countP (Resolution.Dangling records)).sum := by
      rw [List.map_congr_left each]
    _ = _ := List.countP_flatMap.symm

theorem mem_keys_iff {source target : NodeId} {relation : Relation} :
    (source, target, relation) ∈
        (distinctBy Link.key (resolver.assembly records).links).map Link.key ↔
      ∃ r ∈ records, source = r.id ∧
        ∃ line, r.Declares resolver records target relation line := by
  rw [List.mem_map]
  constructor
  · rintro ⟨l, hl, key⟩
    obtain ⟨r, hr, own, line, _, declared⟩ := mem_links_iff.mp (mem_of_mem_distinctBy hl)
    cases key
    exact ⟨r, hr, own, line, declared⟩
  · rintro ⟨r, hr, own, line, declared⟩
    have known : ⟨source, target, relation, some line⟩ ∈ (resolver.assembly records).links :=
      mem_links_iff.mpr ⟨r, hr, own, line, rfl, declared⟩
    have kept : ∃ l ∈ distinctBy Link.key (resolver.assembly records).links,
        l.key = (source, target, relation) := exists_mem_distinctBy known
    exact kept

end Assembly

namespace Extracted

variable {resolver : Resolver} {records : List Record}

theorem nodes_of_put (h : Extracted records) (apart : IdsApart (Mentioned resolver records))
    {g : Graph} (put : Graph.empty.putNodes (resolver.assembly records).allNodes = (g, none)) :
    g.nodes = (resolver.assembly records).allNodes := by
  have ids := h.ids_nodup apart
  have files : ∀ a ∈ (resolver.assembly records).allNodes,
      ∀ b ∈ (resolver.assembly records).allNodes,
        a.kind = .file → b.kind = .file → a.path = b.path → a = b := by
    intro a ha b hb aFile bFile path
    have same : a.id = b.id := by
      rw [Assembly.named_of_mem ha, Assembly.named_of_mem hb, aFile, bFile, path]
    exact List.inj_on_of_nodup_map ids ha hb same
  obtain ⟨g', put', nodes, _⟩ := Graph.putNodes_fresh .empty ids files
  have same : g = g' := congrArg Prod.fst (put.symm.trans put')
  exact same ▸ nodes

/-- A link stands for the first line that declares it. -/
theorem first_line (h : Extracted records) (apart : IdsApart (Mentioned resolver records)) {l : Link}
    (hl : l ∈ distinctBy Link.key (resolver.assembly records).links) :
    l.source ≠ l.target ∧ ∃ r ∈ records, ∃ line, l.source = r.id ∧ l.line = some line ∧
      r.Declares resolver records l.target l.relation line ∧
      ∀ other, r.Declares resolver records l.target l.relation other → line ≤ other := by
  obtain ⟨r, hr, source, line, found, declared⟩ :=
    Assembly.mem_links_iff.mp (mem_of_mem_distinctBy hl)
  refine ⟨source ▸ target_ne apart hr declared, r, hr, line, source, found, declared, ?_⟩
  intro other again
  have second : ⟨l.source, l.target, l.relation, some other⟩ ∈ (resolver.assembly records).links :=
    Assembly.mem_links_iff.mpr ⟨r, hr, source, other, rfl, again⟩
  have self : ∀ a : Link, a.LineLE a := by
    intro a x hx y hy
    cases hx.symm.trans hy
    exact UInt32.le_refl x
  exact before_of_mem_distinctBy (h.links_ordered apart) self hl second rfl line found other rfl

end Extracted

/-- The graph of records that extraction made, if ids tell apart what they speak of. -/
theorem assembled_graph_is_declared {resolver : Resolver} {records : List Record}
    (extracted : Extracted records) (apart : IdsApart (Mentioned resolver records)) :
    ∃ (g : Graph) (outside : List String),
      (Assembly.ofRecords resolver.listing resolver.crates records).graph = .ok g ∧
      (g.nodes.map Node.place = records.flatMap Record.places ++ outside.map (NodeKind.external, ·) ∧
        outside.Pairwise (· < ·) ∧
        (∀ name, name ∈ outside ↔
          ∃ r ∈ records, ∃ d ∈ r.dependencies, .external name ∈ resolver.resolve r.path d.spec) ∧
        ∀ n ∈ g.nodes, n.Named) ∧
      ((g.links.map Link.key).Nodup ∧
        (∀ source target relation, (source, target, relation) ∈ g.links.map Link.key ↔
          ∃ r ∈ records, source = r.id ∧
            ∃ line, r.Declares resolver records target relation line) ∧
        ∀ l ∈ g.links, l.source ≠ l.target ∧ ∃ r ∈ records, ∃ line, l.source = r.id ∧
          l.line = some line ∧ r.Declares resolver records l.target l.relation line ∧
          ∀ other, r.Declares resolver records l.target l.relation other → line ≤ other) ∧
      (Assembly.ofRecords resolver.listing resolver.crates records).unresolved =
        (records.flatMap (Record.answers resolver)).countP (Resolution.Dangling records) := by
  obtain ⟨g, put, assembled⟩ := Assembly.graph_of_named (a := resolver.assembly records)
    (fun n hn => Assembly.named_of_mem hn) fun l hl => Assembly.ends_known hl
  have nodes := extracted.nodes_of_put apart put
  refine ⟨_, (resolver.assembly records).outside.keys, assembled, ⟨?_, ?_, ?_, ?_⟩, ⟨?_, ?_, ?_⟩,
    Assembly.unresolved_eq⟩
  · exact nodes ▸ Assembly.places_eq
  · exact TextMap.keys_ascending _
  · intro name
    rw [Assembly.mem_outside_keys_iff]
    constructor
    · rintro (_ | _ | ⟨hr, hd, given⟩)
      exact ⟨_, hr, _, hd, given⟩
    · rintro ⟨r, hr, d, hd, given⟩
      exact .outside hr hd given
  · intro n hn
    exact Assembly.named_of_mem (nodes ▸ hn)
  · exact List.pairwise_map.mpr (distinctBy_pairwise _ _)
  · intro source target relation
    exact Assembly.mem_keys_iff
  · intro l hl
    exact extracted.first_line apart hl

theorem idsApart_of_places {resolver : Resolver} {records : List Record}
    (apart : ∀ p ∈ (resolver.assembly records).allNodes.map Node.place,
      ∀ q ∈ (resolver.assembly records).allNodes.map Node.place,
        NodeId.of p.1 p.2 = NodeId.of q.1 q.2 → p = q) : IdsApart (Mentioned resolver records) := by
  intro kind path kind' path' one other same
  have equal := apart _ (Assembly.mentioned_iff.mp one) _ (Assembly.mentioned_iff.mp other) same
  exact Prod.ext_iff.mp equal

/-- A script that imports another one twice, a package, itself, a file that has no record and one that
is not there. -/
def importingScript : Record :=
  ⟨"a.js", .javaScript, 160, ⟨1⟩, [⟨"run", .function, 7⟩],
    [⟨.jsImport "./b", 1⟩, ⟨.jsImport "react", 2⟩, ⟨.jsImport "./b.js", 3⟩, ⟨.jsImport "./a.js", 4⟩,
      ⟨.jsImport "./c", 5⟩, ⟨.jsImport "./lost", 6⟩], [], false⟩

def importedScript : Record :=
  ⟨"b.js", .javaScript, 40, ⟨2⟩, [⟨"run", .function, 2⟩], [⟨.jsImport "react", 1⟩], [], false⟩

def sampleRecords : List Record := [importingScript, importedScript]

def sampleResolver : Resolver := ⟨["a.js", "b.js", "c.js"], .empty⟩

theorem sample_graph_is_declared :
    Extracted sampleRecords ∧ IdsApart (Mentioned sampleResolver sampleRecords) ∧
    ∃ g, (Assembly.ofRecords sampleResolver.listing sampleResolver.crates sampleRecords).graph =
        .ok g ∧
      (∀ n ∈ g.nodes, n.Named) ∧
      g.nodes.map Node.place = [(.file, "a.js"), (.symbol, "a.js#run"), (.file, "b.js"),
        (.symbol, "b.js#run"), (.external, "react")] ∧
      (importingScript.id, importedScript.id, .imports) ∈ g.links.map Link.key ∧
      g.links.map (·.line) = [some 7, some 1, some 2, some 2, some 1] ∧
      (Assembly.ofRecords sampleResolver.listing sampleResolver.crates sampleRecords).unresolved =
        2 := by
  have extracted : Extracted sampleRecords := by
    constructor <;> decide +kernel
  have apart : IdsApart (Mentioned sampleResolver sampleRecords) :=
    idsApart_of_places (by decide +kernel)
  obtain ⟨g, _, assembled, ⟨_, _, _, named⟩, ⟨_, keys, _⟩, count⟩ :=
    assembled_graph_is_declared extracted apart
  have listed : (sampleResolver.assembly sampleRecords).graph.toOption.map
      (fun g => (g.nodes.map Node.place, g.links.map (·.line))) =
        some ([(.file, "a.js"), (.symbol, "a.js#run"), (.file, "b.js"), (.symbol, "b.js#run"),
          (.external, "react")], [some 7, some 1, some 2, some 2, some 1]) := by
    decide +kernel
  rw [assembled] at listed
  simp only [Except.toOption, Option.map_some, Option.some.injEq, Prod.mk.injEq] at listed
  have imported : importingScript.Declares sampleResolver sampleRecords importedScript.id .imports 1 :=
    @Record.Declares.file _ _ _ ⟨.jsImport "./b", 1⟩ importedScript List.mem_cons_self
      (List.mem_cons_of_mem _ List.mem_cons_self) (by decide +kernel) (by decide)
  have linked := (keys importingScript.id importedScript.id .imports).mpr
    ⟨importingScript, List.mem_cons_self, rfl, 1, imported⟩
  have unresolved : (sampleRecords.flatMap (Record.answers sampleResolver)).countP
      (Resolution.Dangling sampleRecords) = 2 := by
    decide +kernel
  exact ⟨extracted, apart, g, assembled, named, listed.1, linked, listed.2, count.trans unresolved⟩

end SourceAtlas
