import SourceAtlas.Proofs.Build.Declared
import SourceAtlas.Proofs.Impact
import SourceAtlas.Query

/-! What depends on a node is a file. Links are declared by files alone, so a walk against the links
comes to a file with its first step, and goes on from file to file. -/
namespace SourceAtlas

def Graph.LinkedFromFiles (g : Graph) : Prop := ∀ l ∈ g.links, g.kind? l.source = some .file

namespace Assembly

variable {resolver : Resolver} {records : List Record} {g : Graph}

theorem linkedFromFiles (apart : IdsApart (Mentioned resolver records))
    (last : ∀ id, g.node? id = (resolver.assembly records).allNodes.reverse.find? (·.id = id))
    (links : g.links = distinctBy Link.key (resolver.assembly records).links) :
    g.LinkedFromFiles := by
  intro l hl
  rw [links] at hl
  obtain ⟨r, hr, source, _⟩ := mem_links_iff.mp (mem_of_mem_distinctBy hl)
  obtain ⟨n, node, place⟩ := node_of_mentioned apart last (.file hr)
  have found : g.node? l.source = some n := source ▸ node
  rw [Graph.kind?, found]
  exact congrArg (fun place => some place.1) place

end Assembly

theorem SourceTree.linkedFromFiles_of_build [Tools] {t : SourceTree} {config : BuildConfig} {root : BuildRoot}
    {previous : Option Snapshot} {s : Snapshot} {d : Discovery}
    (built : t.build config root previous = .ok s) (found : t.discover config root = .ok d)
    (apart : IdsApart (Mentioned ⟨d.listing, d.crates⟩ (d.records previous))) :
    s.graph.LinkedFromFiles := by
  obtain ⟨_, _, found', _, assembled⟩ := build_ok_iff.mp built
  cases found.symm.trans found'
  obtain ⟨_, links, last⟩ := Discovery.graph_of_build assembled
  exact Assembly.linkedFromFiles apart last links

namespace Graph

variable {g : Graph}

theorem LinkedFromFiles.outgoing_eq_nil (h : g.LinkedFromFiles) {id : NodeId}
    (other : g.kind? id ≠ some .file) (relations : Option (List Relation)) :
    g.adjacent .outgoing relations id = [] := by
  rw [List.eq_nil_iff_forall_not_mem]
  intro target next
  obtain ⟨l, hl, _, source, _⟩ := mem_adjacent.mp next
  exact other (source ▸ h l hl)

/-- The last step of a walk against the links is to the source of one of them. -/
theorem LinkedFromFiles.kind_of_walk (h : g.LinkedFromFiles) {relations : Option (List Relation)}
    {origin id : NodeId} {n : Nat} (walk : Walk (g.Adjacent .incoming relations) origin n id)
    (other : id ≠ origin) : g.kind? id = some .file := by
  cases walk with
  | here => exact absurd rfl other
  | onward _ last =>
    obtain ⟨l, hl, _, _, source⟩ := last
    exact source ▸ h l hl

theorem LinkedFromFiles.kind_of_impact (wf : g.WellFormed) (h : g.LinkedFromFiles) {origin : NodeId}
    {query : ImpactQuery} {cap : Nat} (against : query.direction = .incoming) {reached : List Reach}
    (answer : g.impact origin query cap = .ok reached) :
    ∀ r ∈ reached, g.kind? r.id = some .file := by
  intro r hr
  obtain ⟨present, positive⟩ := asked_of_impact answer
  rw [impact_eq_spread wf present positive] at answer
  cases answer
  rw [against] at hr
  obtain ⟨other, far, _⟩ := (mem_spread_origin _ r).mp hr
  exact h.kind_of_walk far.1 other

end Graph

theorem exists_of_mem_mapM {α β : Type} {f : α → Except Fault β} {xs : List α} {ys : List β}
    (all : xs.mapM f = .ok ys) {y : β} (hy : y ∈ ys) : ∃ x ∈ xs, f x = .ok y := by
  induction xs generalizing ys with
  | nil =>
    cases all
    cases hy
  | cons x rest ih =>
    rw [List.mapM_cons] at all
    cases head : f x with
    | error fault => simp [head, bind, Except.bind] at all
    | ok first =>
      cases tail : rest.mapM f with
      | error fault => simp [head, tail, bind, Except.bind] at all
      | ok more =>
        simp only [head, tail, bind, Except.bind, pure, Except.pure, Except.ok.injEq] at all
        rw [← all] at hy
        rcases List.mem_cons.mp hy with rfl | hy
        · exact ⟨x, List.mem_cons_self, head⟩
        · obtain ⟨a, ha, given⟩ := ih tail hy
          exact ⟨a, List.mem_cons_of_mem _ ha, given⟩

/-- What an impact query tells is the nodes that the graph reaches, by their ids. -/
theorem Snapshot.mem_impact {s : Snapshot} {target : NodeRef} {query : ImpactQuery} {cap : Nat}
    {answer : List ReachedNode} (told : s.impact target query cap = .ok answer) {hit : ReachedNode}
    (member : hit ∈ answer) : ∃ origin reached r n, s.graph.find target = .ok origin ∧
      s.graph.impact origin.id query cap = .ok reached ∧ r ∈ reached ∧
      s.graph.node? r.id = some n ∧ hit = ⟨n.summary, r.distance⟩ := by
  unfold impact at told
  cases asked : s.graph.find target with
  | error fault => simp [asked, bind, Except.bind] at told
  | ok origin =>
    cases spread : s.graph.impact origin.id query cap with
    | error fault => simp [asked, spread, bind, Except.bind] at told
    | ok reached =>
      simp only [asked, spread, bind, Except.bind] at told
      obtain ⟨r, hr, made⟩ := exists_of_mem_mapM told member
      cases node : s.graph.node? r.id with
      | none => simp [Graph.getNode, node] at made
      | some n =>
        simp only [Graph.getNode, node, pure, Except.pure, Except.ok.injEq] at made
        exact ⟨origin, reached, r, n, rfl, spread, hr, node, made.symm⟩

/-- All that depends on a node of a build are files, and nothing but files depends on anything. -/
theorem blast_radius_is_files [Tools] {t : SourceTree} {config : BuildConfig} {root : BuildRoot}
    {previous : Option Snapshot} {s : Snapshot} {d : Discovery}
    (built : t.build config root previous = .ok s) (found : t.discover config root = .ok d)
    (apart : IdsApart (Mentioned ⟨d.listing, d.crates⟩ (d.records previous))) :
    (∀ n ∈ s.graph.nodes, n.kind ≠ .file → (∀ l ∈ s.graph.links, l.source ≠ n.id) ∧
      ∀ relations, s.graph.neighborIds n.id .outgoing relations = .ok []) ∧
    (∀ n ∈ s.graph.nodes, ∀ maxDepth relations cap, maxDepth ≠ some 0 →
      ∃ reached, s.graph.impact n.id ⟨.incoming, maxDepth, relations⟩ cap = .ok reached) ∧
    (∀ origin maxDepth relations cap reached,
      s.graph.impact origin ⟨.incoming, maxDepth, relations⟩ cap = .ok reached →
        ∀ r ∈ reached, ∃ n ∈ s.graph.nodes, n.id = r.id ∧ n.kind = .file) ∧
    ∀ target maxDepth relations cap answer,
      s.impact target ⟨.incoming, maxDepth, relations⟩ cap = .ok answer →
        ∀ hit ∈ answer, hit.node.kind = .file := by
  have linked := SourceTree.linkedFromFiles_of_build built found apart
  have wf := SourceTree.wellFormed_of_build built
  have present : ∀ n ∈ s.graph.nodes, s.graph.contains n.id = true := fun n hn =>
    Graph.contains_iff.mpr ⟨n, hn, rfl⟩
  refine ⟨?_, ?_, ?_, ?_⟩
  · intro n hn other
    have kind : s.graph.kind? n.id ≠ some .file := by
      rw [wf.kind_of_mem hn]
      exact fun same => other (Option.some.inj same)
    constructor
    · intro l hl source
      exact kind (source ▸ linked l hl)
    · intro relations
      rw [Graph.neighborIds, if_pos (present n hn), linked.outgoing_eq_nil kind]
  · intro n hn maxDepth relations cap positive
    exact ⟨_, Graph.impact_eq_spread wf (present n hn) positive cap⟩
  · intro origin maxDepth relations cap reached answer r hr
    have file := linked.kind_of_impact wf rfl answer r hr
    obtain ⟨n, node, kind⟩ := Option.map_eq_some_iff.mp file
    obtain ⟨hn, id⟩ := Graph.mem_of_node node
    exact ⟨n, hn, id, kind⟩
  · intro target maxDepth relations cap answer told hit member
    obtain ⟨origin, reached, r, n, _, spread, hr, node, rfl⟩ := Snapshot.mem_impact told member
    have file := linked.kind_of_impact wf rfl spread r hr
    rw [Graph.kind?, node] at file
    exact Option.some.inj file

open Scanners

def sampleDiscovery : Discovery :=
  (sampleTree.discover sampleConfig sampleRoot).toOption.getD ⟨[], [], [], .empty⟩

theorem sample_blast_radius_is_files :
    sampleTree.discover sampleConfig sampleRoot = .ok sampleDiscovery ∧
    IdsApart (Mentioned ⟨sampleDiscovery.listing, sampleDiscovery.crates⟩
      (sampleDiscovery.records none)) ∧
    sampleSnapshot.graph.neighborIds (NodeId.of .external "stdio.h") .outgoing none = .ok [] ∧
    (∃ reached, sampleSnapshot.graph.impact (NodeId.of .external "stdio.h")
        ⟨.incoming, none, some [.includes]⟩ 9 = .ok reached ∧
      reached = [⟨NodeId.of .file "part.h", 1⟩] ∧
      ∀ r ∈ reached, ∃ n ∈ sampleSnapshot.graph.nodes, n.id = r.id ∧ n.kind = .file) ∧
    ∃ answer, sampleSnapshot.impact (.path "notes.md") ⟨.incoming, some 3, none⟩ 9 = .ok answer ∧
      answer.map (·.node.path) = ["guide.md"] ∧ ∀ hit ∈ answer, hit.node.kind = .file := by
  have found : sampleTree.discover sampleConfig sampleRoot = .ok sampleDiscovery := by
    decide +kernel
  have apart : IdsApart (Mentioned ⟨sampleDiscovery.listing, sampleDiscovery.crates⟩
      (sampleDiscovery.records none)) :=
    idsApart_of_places (by decide +kernel)
  obtain ⟨quiet, _, files, told⟩ := blast_radius_is_files sample_built found apart
  have wf := SourceTree.wellFormed_of_build sample_built
  have header : ∃ n ∈ sampleSnapshot.graph.nodes,
      n.id = NodeId.of .external "stdio.h" ∧ n.kind ≠ .file := by
    decide +kernel
  obtain ⟨n, hn, id, other⟩ := header
  have reached : sampleSnapshot.graph.impact (NodeId.of .external "stdio.h")
      ⟨.incoming, none, some [.includes]⟩ 9 = .ok [⟨NodeId.of .file "part.h", 1⟩] := by
    rw [Graph.impact_eq_spread wf (by decide +kernel) (by decide)]
    decide +kernel
  refine ⟨found, apart, id ▸ (quiet n hn other).2 none, ⟨_, reached, rfl, files _ _ _ _ _ reached⟩, ?_⟩
  have listed : (sampleSnapshot.impact (.path "notes.md") ⟨.incoming, some 3, none⟩ 9).toOption.map
      (·.map (·.node.path)) = some ["guide.md"] := by
    have named : (sampleSnapshot.graph.find (.path "notes.md")).toOption.map (·.id) =
        some (NodeId.of .file "notes.md") := by
      decide +kernel
    cases origin : sampleSnapshot.graph.find (.path "notes.md") with
    | error fault =>
      rw [origin] at named
      cases named
    | ok n =>
      rw [origin] at named
      rw [Snapshot.impact, origin]
      simp only [bind, Except.bind, Option.some.inj named]
      rw [Graph.impact_eq_spread wf (by decide +kernel) (by decide)]
      decide +kernel
  cases answer : sampleSnapshot.impact (.path "notes.md") ⟨.incoming, some 3, none⟩ 9 with
  | error fault =>
    rw [answer] at listed
    cases listed
  | ok hits =>
    rw [answer] at listed
    exact ⟨hits, rfl, Option.some.inj listed, told _ _ _ _ hits answer⟩

end SourceAtlas
