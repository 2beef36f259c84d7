import Mathlib.Algebra.Group.Nat.Defs
import SourceAtlas.Build
import SourceAtlas.Proofs.Graph.History
import SourceAtlas.Scan
import SourceAtlas.Snapshot.Store

/-! What a build and a stored snapshot are made of. Both end in the same few calls on an empty graph,
so whatever holds of every store holds of the graph of every snapshot. -/
namespace SourceAtlas

section Builds

variable [Tools]

namespace Discovery

def outcomes (d : Discovery) (previous : Option Snapshot) : List FileOutcome :=
  d.candidates.map (Candidate.process previous)

def records (d : Discovery) (previous : Option Snapshot) : List Record :=
  (d.outcomes previous).filterMap FileOutcome.record?

/-- Warnings about files that were found to hold nothing to go by, in the order of the candidates. -/
def refused (d : Discovery) (previous : Option Snapshot) : List Warning :=
  (d.outcomes previous).filterMap FileOutcome.warning?

def stats (d : Discovery) (previous : Option Snapshot) : Stats where
  filesSeen := .ofNat (d.candidates.length + d.skipped)
  parsed := .ofNat ((d.outcomes previous).countP FileOutcome.isParsed)
  reused := .ofNat ((d.outcomes previous).countP FileOutcome.isReused)
  skipped := .ofNat (d.skipped + (d.refused previous).length)
  unresolved := .ofNat (Assembly.ofRecords d.listing d.crates (d.records previous)).unresolved
  elapsedMs := 0

def snapshot (d : Discovery) (previous : Option Snapshot) (version : UInt64) (g : Graph) : Snapshot :=
  Snapshot.new version g (d.records previous)
    ((d.warnings ++ d.refused previous).mergeSort Warning.le) (d.stats previous)

theorem build_eq (d : Discovery) (previous : Option Snapshot) : d.build previous =
    (Assembly.ofRecords d.listing d.crates (d.records previous)).graph.bind fun g =>
      (nextVersion previous).map (d.snapshot previous · g) :=
  rfl

theorem build_ok_iff {d : Discovery} {previous : Option Snapshot} {s : Snapshot} :
    d.build previous = .ok s ↔ ∃ g version,
      (Assembly.ofRecords d.listing d.crates (d.records previous)).graph = .ok g ∧
        nextVersion previous = .ok version ∧ s = d.snapshot previous version g := by
  rw [build_eq]
  cases (Assembly.ofRecords d.listing d.crates (d.records previous)).graph with
  | error fault => simp [Except.bind]
  | ok g => cases nextVersion previous <;> simp [Except.bind, Except.map, eq_comm]

end Discovery

theorem SourceTree.build_ok_iff {t : SourceTree} {config : BuildConfig} {root : BuildRoot}
    {previous : Option Snapshot} {s : Snapshot} : t.build config root previous = .ok s ↔
      ∃ d, t.isDirectory root.path = true ∧ t.discover config root = .ok d ∧
        d.candidates ≠ [] ∧ d.build previous = .ok s := by
  unfold build
  cases directory : t.isDirectory root.path with
  | false => simp
  | true =>
    cases found : t.discover config root with
    | error cause => simp
    | ok d => cases candidates : d.candidates <;> simp [candidates]

theorem SourceTree.version_of_build {t : SourceTree} {config : BuildConfig} {root : BuildRoot}
    {previous : Option Snapshot} {s : Snapshot} (built : t.build config root previous = .ok s) :
    nextVersion previous = .ok s.version := by
  obtain ⟨d, _, _, _, made⟩ := build_ok_iff.mp built
  obtain ⟨g, version, _, next, rfl⟩ := Discovery.build_ok_iff.mp made
  exact next

end Builds

theorem nextVersion_eq_ok_iff {previous : Snapshot} {version : UInt64} :
    nextVersion (some previous) = .ok version ↔ version.toNat = previous.version.toNat + 1 := by
  rw [nextVersion]
  split
  · next room =>
    have sum : (previous.version + 1).toNat = previous.version.toNat + 1 := by
      rw [UInt64.toNat_add]
      exact Nat.mod_eq_of_lt room
    rw [← sum, UInt64.toNat_inj, Except.ok.injEq, eq_comm]
  · next full =>
    have word := version.toNat_lt_size
    simp only [reduceCtorEq, false_iff]
    omega

theorem eq_of_nextVersion {previous : Snapshot} {version : UInt64}
    (next : nextVersion (some previous) = .ok version) : version = previous.version + 1 := by
  have sum := nextVersion_eq_ok_iff.mp next
  have word := version.toNat_lt
  rw [← UInt64.toNat_inj, sum, UInt64.toNat_add]
  exact (Nat.mod_eq_of_lt (by omega)).symm

/-- Above the version of the previous snapshot there is another one. -/
def HasRoom (previous : Option Snapshot) : Prop :=
  ∀ old, previous = some old → old.version.toNat < 2 ^ 64 - 1

theorem hasRoom_none : HasRoom none := by
  intro old none
  cases none

theorem hasRoom_some {old : Snapshot} (below : old.version.toNat < 2 ^ 64 - 1) : HasRoom (some old) := by
  intro _ same
  cases same
  exact below

theorem HasRoom.exists_version {previous : Option Snapshot} (room : HasRoom previous) :
    ∃ version, nextVersion previous = .ok version := by
  cases previous with
  | none => exact ⟨1, rfl⟩
  | some old =>
    have below := room old rfl
    refine ⟨old.version + 1, if_pos ?_⟩
    rw [UInt64.size]
    omega

theorem nextVersion_eq_error_iff {previous : Snapshot} {fault : Fault} :
    nextVersion (some previous) = .error fault ↔
      fault = .overflow ∧ previous.version.toNat = 2 ^ 64 - 1 := by
  have word := previous.version.toNat_lt
  rw [nextVersion, UInt64.size]
  split
  · next room =>
    simp only [reduceCtorEq, false_iff]
    omega
  · next full =>
    rw [Except.error.injEq, eq_comm]
    exact ⟨fun same => ⟨same, by omega⟩, And.left⟩

theorem Snapshot.entries_new {records : List Record}
    (ordered : records.Pairwise fun a b => a.path < b.path) (version : UInt64) (graph : Graph)
    (warnings : List Warning) (stats : Stats) :
    (Snapshot.new version graph records warnings stats).records.entries =
      records.map fun r => (r.path, r) :=
  TextMap.entries_ofList (List.pairwise_map.mpr ordered)

theorem Snapshot.values_new {records : List Record}
    (ordered : records.Pairwise fun a b => a.path < b.path) (version : UInt64) (graph : Graph)
    (warnings : List Warning) (stats : Stats) :
    (Snapshot.new version graph records warnings stats).records.values = records := by
  rw [TextMap.values, entries_new ordered, List.map_map]
  exact List.map_id _

theorem Snapshot.record_new_iff {records : List Record}
    (ordered : records.Pairwise fun a b => a.path < b.path) {version : UInt64} {graph : Graph}
    {warnings : List Warning} {stats : Stats} {path : String} {r : Record} :
    (Snapshot.new version graph records warnings stats).record? path = some r ↔
      r ∈ records ∧ r.path = path := by
  rw [record?, ← TextMap.mem_entries_iff, entries_new ordered, List.mem_map]
  constructor
  · rintro ⟨x, hx, same⟩
    cases same
    exact ⟨hx, rfl⟩
  · rintro ⟨hr, rfl⟩
    exact ⟨r, hr, rfl⟩

/-- Batches that go in without a fault are what a store after these calls holds. -/
theorem Graph.extend_of_putNodes {g g' : Graph} {batch : List Node} {calls : List Call}
    (h : g.putNodes batch = (g', none)) : g.extend (.nodes batch :: calls) = g'.extend calls := by
  simp [extend, serve, h]

theorem Graph.extend_of_putLinks {g g' : Graph} {batch : List Link} {calls : List Call}
    (h : g.putLinks batch = (g', none)) : g.extend (.links batch :: calls) = g'.extend calls := by
  simp [extend, serve, h]

theorem Assembly.graph_eq_after {a : Assembly} {g : Graph} (h : a.graph = .ok g) :
    g = Graph.after [.nodes a.nodes, .nodes a.outside.values, .links a.links] := by
  unfold graph at h
  split at h
  · cases h
  · next g₁ first =>
    split at h
    · cases h
    · next g₂ second =>
      split at h
      · cases h
      · next g₃ third =>
        cases h
        rw [Graph.after, Graph.extend_of_putNodes first, Graph.extend_of_putNodes second,
          Graph.extend_of_putLinks third]
        rfl

theorem Snapshot.graph_of_ofStored {stored : Stored} {s : Snapshot} (h : ofStored stored = .ok s) :
    s.graph = Graph.after [.nodes stored.nodes, .links stored.links] := by
  unfold ofStored at h
  split at h
  · cases h
  · next g₁ first =>
    split at h
    · cases h
    · next g₂ second =>
      cases h
      rw [Graph.after, Graph.extend_of_putNodes first, Graph.extend_of_putLinks second]
      rfl

/-- A snapshot that is read back comes from bytes of the right shape and format number. -/
theorem SourceTree.load_cases {t : SourceTree} {s : Snapshot} (h : t.load = .ok (some s)) :
    ∃ bytes stored rest, t.content? snapshotPath = some bytes ∧
      Format.stored.decode bytes = some (stored, rest) ∧ stored.format = storedFormat ∧
      Snapshot.ofStored stored = .ok s := by
  unfold load at h
  split at h
  · next bytes content =>
    unfold Snapshot.ofBytes? at h
    split at h
    · next stored rest decoded =>
      split at h
      · next format =>
        cases result : Snapshot.ofStored stored with
        | error fault => simp [result, Except.map] at h
        | ok loaded =>
          simp only [result, Except.map, Except.ok.injEq, Option.some.injEq] at h
          exact ⟨bytes, stored, rest, content, decoded, format, h ▸ result⟩
      · cases h
    · cases h
  · split at h <;> cases h

theorem SourceTree.graph_of_load {t : SourceTree} {s : Snapshot} (h : t.load = .ok (some s)) :
    ∃ calls, s.graph = Graph.after calls := by
  obtain ⟨_, stored, _, _, _, _, result⟩ := load_cases h
  exact ⟨_, Snapshot.graph_of_ofStored result⟩

theorem SourceTree.graph_of_build [Tools] {t : SourceTree} {config : BuildConfig} {root : BuildRoot}
    {previous : Option Snapshot} {s : Snapshot} (h : t.build config root previous = .ok s) :
    ∃ calls, s.graph = Graph.after calls := by
  obtain ⟨d, _, _, _, built⟩ := build_ok_iff.mp h
  obtain ⟨g, _, assembled, _, rfl⟩ := Discovery.build_ok_iff.mp built
  exact ⟨_, Assembly.graph_eq_after assembled⟩

theorem SourceTree.wellFormed_of_build [Tools] {t : SourceTree} {config : BuildConfig} {root : BuildRoot}
    {previous : Option Snapshot} {s : Snapshot} (h : t.build config root previous = .ok s) :
    s.graph.WellFormed := by
  obtain ⟨calls, reached⟩ := graph_of_build h
  exact reached ▸ Graph.after_wellFormed calls

theorem SourceTree.wellFormed_of_load {t : SourceTree} {s : Snapshot} (h : t.load = .ok (some s)) :
    s.graph.WellFormed := by
  obtain ⟨calls, reached⟩ := graph_of_load h
  exact reached ▸ Graph.after_wellFormed calls

/-- Whatever calls were made, whatever bytes were read and whatever tree was built, the graph is well
formed. An id that a graph contains is looked up in it, whatever the graph. -/
theorem graphs_wellFormed [Tools] :
    (∀ calls, (Graph.after calls).WellFormed) ∧
    (∀ (t : SourceTree) (s : Snapshot), t.load = .ok (some s) → s.graph.WellFormed) ∧
    (∀ (t : SourceTree) (config : BuildConfig) (root : BuildRoot) (previous : Option Snapshot)
      (s : Snapshot), t.build config root previous = .ok s → s.graph.WellFormed) ∧
    ∀ (g : Graph) (id : NodeId), g.contains id = true → ∃ n ∈ g.nodes, n.id = id ∧ g.getNode id = .ok n :=
  ⟨Graph.after_wellFormed, fun _ _ => SourceTree.wellFormed_of_load,
    fun _ _ _ _ _ => SourceTree.wellFormed_of_build, fun _ _ => Graph.getNode_of_contains⟩

open Scanners

def sampleConfig : BuildConfig := ⟨["drafts/**"], 4096, true, 1⟩

def sampleRoot : BuildRoot := ⟨"", "sample", "sample"⟩

/-- Two documents that refer to each other, a header that includes one from outside, and a file that
holds no text. -/
def sampleTree : SourceTree := ⟨TextMap.ofList
  [("guide.md", .text "# Guide\nSee [notes](notes.md).\n"),
    ("notes.md", .text "# Notes\nBack to the [guide](guide.md#top).\n"),
    ("part.h", .text "#include <stdio.h>\n"),
    ("broken.py", .file (.readable [0xff]))]⟩

def sampleSnapshot : Snapshot :=
  (sampleTree.build sampleConfig sampleRoot none).toOption.getD .empty

theorem sample_built : sampleTree.build sampleConfig sampleRoot none = .ok sampleSnapshot := by
  decide +kernel

theorem sample_loaded : (sampleTree.save sampleSnapshot).1.load = .ok (some sampleSnapshot) := by
  decide +kernel

/-- A second file of one path is refused, and what stood behind it in its batch is left out. Then the
first file becomes a symbol of another path. -/
def sampleCalls : List Call :=
  [.nodes [.new .file "a.rs", .new .symbol "a.rs#f"],
    .nodes [{ Node.new .file "a.rs" with id := ⟨7⟩ }, .new .file "b.rs"],
    .nodes [{ Node.new .symbol "c.rs" with id := NodeId.of .file "a.rs" }],
    .links [⟨NodeId.of .file "a.rs", NodeId.of .symbol "a.rs#f", .defines, some 3⟩,
      ⟨⟨1⟩, ⟨2⟩, .imports, none⟩]]

theorem sample_graphs_wellFormed :
    (Graph.after sampleCalls).WellFormed ∧
    (sampleTree.build sampleConfig sampleRoot none = .ok sampleSnapshot ∧
      sampleSnapshot.graph.WellFormed) ∧
    ((sampleTree.save sampleSnapshot).1.load = .ok (some sampleSnapshot) ∧
      sampleSnapshot.graph.WellFormed) := by
  refine ⟨graphs_wellFormed.1 sampleCalls, ⟨sample_built, ?_⟩, sample_loaded, ?_⟩
  · exact graphs_wellFormed.2.2.1 sampleTree sampleConfig sampleRoot none sampleSnapshot sample_built
  · exact graphs_wellFormed.2.1 _ sampleSnapshot sample_loaded

end SourceAtlas
