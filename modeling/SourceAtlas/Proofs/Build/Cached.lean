import SourceAtlas.Proofs.Build.Conservation
import SourceAtlas.Proofs.Snapshot.Store

/-! Building an unchanged tree again on top of its stored snapshot. The directory of the stored snapshot is
hidden from the walk, so the second build discovers what the first one did, finds each record it would
make, and makes none. -/
namespace SourceAtlas

/-- What an outcome is the next time: what was parsed is taken up. -/
def FileOutcome.again : FileOutcome → FileOutcome
  | .parsed r => .reused r
  | o => o

namespace FileOutcome

theorem record_again (o : FileOutcome) : o.again.record? = o.record? := by cases o <;> rfl

theorem warning_again (o : FileOutcome) : o.again.warning? = o.warning? := by cases o <;> rfl

theorem isParsed_again (o : FileOutcome) : o.again.isParsed = false := by cases o <;> rfl

end FileOutcome

section Again

variable [Tools]

namespace Candidate

variable {c : Candidate} {r : Record}

theorem isSourceOf_of_parse (h : c.parse = .parsed r) : c.isSourceOf r = true := by
  obtain ⟨content, e, ⟨data, _⟩, rfl⟩ := parse_eq_parsed_iff.mp h
  simp [isSourceOf, data, FileData.content?, record]

theorem again_of_unparsed (h : c.parse.record? = none) : c.parse.again = c.parse := by
  cases outcome : c.parse with
  | skipped w => rfl
  | reused r => rfl
  | parsed r =>
    rw [outcome] at h
    cases h

end Candidate

namespace Discovery

variable {d : Discovery} {previous : Snapshot}

/-- A snapshot with just the records of a discovery spares it all parsing. -/
theorem outcomes_again (ordered : d.candidates.Pairwise fun a b => a.path < b.path)
    (recorded : ∀ path r, previous.record? path = some r ↔ r ∈ d.records none ∧ r.path = path) :
    d.outcomes (some previous) = (d.outcomes none).map FileOutcome.again := by
  rw [outcomes, outcomes, List.map_map]
  apply List.map_congr_left
  intro c hc
  have alone : c.process none = c.parse := rfl
  rw [Function.comp_apply, alone, Candidate.process]
  cases made : c.parse.record? with
  | some r =>
    have parsed := Candidate.parse_of_record made
    have path : r.path = c.path := (Candidate.parsed_of_parse parsed).1
    have known : previous.record? c.path = some r :=
      (recorded _ _).mpr ⟨mem_records_iff.mpr ⟨c, hc, parsed⟩, path⟩
    have reuse : c.reusable? (some previous) = some r :=
      Option.filter_eq_some_iff.mpr ⟨known, Candidate.isSourceOf_of_parse parsed⟩
    rw [reuse, parsed]
    rfl
  | none =>
    -- A record of this path would have been parsed from this very candidate.
    have unknown : previous.record? c.path = none := by
      rw [Option.eq_none_iff_forall_ne_some]
      intro r known
      obtain ⟨hr, path⟩ := (recorded _ _).mp known
      obtain ⟨other, ho, parsed⟩ := mem_records_iff.mp hr
      have same : other = c :=
        eq_of_ascending ordered ho hc ((Candidate.parsed_of_parse parsed).1.symm.trans path)
      rw [← same, parsed] at made
      cases made
    have fresh : c.reusable? (some previous) = none := by
      simp [Candidate.reusable?, unknown]
    rw [fresh, Candidate.again_of_unparsed made]

theorem filterMap_again {β : Type} {part : FileOutcome → Option β}
    (kept : ∀ o : FileOutcome, part o.again = part o)
    (again : d.outcomes (some previous) = (d.outcomes none).map FileOutcome.again) :
    (d.outcomes (some previous)).filterMap part = (d.outcomes none).filterMap part := by
  rw [again, List.filterMap_map]
  exact List.filterMap_congr fun o _ => kept o

theorem records_again (again : d.outcomes (some previous) = (d.outcomes none).map FileOutcome.again) :
    d.records (some previous) = d.records none :=
  filterMap_again FileOutcome.record_again again

theorem refused_again (again : d.outcomes (some previous) = (d.outcomes none).map FileOutcome.again) :
    d.refused (some previous) = d.refused none :=
  filterMap_again FileOutcome.warning_again again

theorem parsed_again (again : d.outcomes (some previous) = (d.outcomes none).map FileOutcome.again) :
    ∀ o ∈ d.outcomes (some previous), o.isParsed = false := by
  rw [again]
  intro o ho
  obtain ⟨before, _, rfl⟩ := List.mem_map.mp ho
  exact before.isParsed_again

end Discovery

theorem Discovery.build_again {d : Discovery} {first previous : Snapshot} (built : d.build none = .ok first)
    (room : previous.version.toNat < 2 ^ 64 - 1)
    (ordered : d.candidates.Pairwise fun a b => a.path < b.path)
    (again : d.outcomes (some previous) = (d.outcomes none).map FileOutcome.again) :
    ∃ second, d.build (some previous) = .ok second ∧ SameBuild second first ∧ second.Keyed ∧
      second.version = previous.version + 1 ∧ second.stats.parsed = 0 ∧
      second.stats.reused = .ofNat second.records.size := by
  have records := records_again again
  have agree := build_agrees (hasRoom_some room) records (refused_again again)
  rw [built] at agree
  cases rebuilt : d.build (some previous) with
  | error fault =>
    rw [rebuilt] at agree
    cases agree
  | ok second =>
    rw [rebuilt] at agree
    cases agree with
    | built alike =>
      obtain ⟨g, version, _, next, rfl⟩ := build_ok_iff.mp rebuilt
      have none : (d.outcomes (some previous)).countP FileOutcome.isParsed = 0 := by
        rw [List.countP_eq_zero]
        intro o ho
        simp [parsed_again again o ho]
      have parsed : (d.stats (some previous)).parsed = 0 := congrArg UInt64.ofNat none
      have taken := d.parsed_add_reused (some previous)
      rw [parsed, UInt64.zero_add] at taken
      have values : (d.snapshot (some previous) version g).records.values = d.records (some previous) :=
        Snapshot.values_new (records ▸ records_ascending ordered) _ _ _ _
      refine ⟨_, rfl, alike, Snapshot.new_keyed _ _ _ _ _, eq_of_nextVersion next, parsed, ?_⟩
      rw [TextMap.size, ← List.length_map (f := fun e => e.2), ← TextMap.values, values]
      exact taken

omit [Tools] in
theorem Snapshot.shared_of_records {s previous : Snapshot} (keyed : s.Keyed)
    (same : previous.records = s.records) : s.shared previous = s.records.keys := by
  have each : ∀ e ∈ s.records.entries, previous.record? e.2.path = some e.2 := by
    intro e he
    rw [record?, same, ← keyed e he]
    exact TextMap.mem_entries_iff.mp he
  have all : s.records.values.filter (fun r => (previous.record? r.path).any fun old =>
      old.fingerprint = r.fingerprint && old.language = r.language) = s.records.values := by
    rw [List.filter_eq_self]
    intro r hr
    obtain ⟨e, he, rfl⟩ := List.mem_map.mp hr
    simp [each e he]
  rw [shared, all, TextMap.values, TextMap.keys, List.map_map]
  apply List.map_congr_left
  intro e he
  exact (keyed e he).symm

section Rebuild

variable {t stored : SourceTree} {s : Snapshot} {config : BuildConfig} {root : BuildRoot}
  {d : Discovery} {path : String}

/-- What is stored of a first build are the records of its discovery. -/
theorem SourceTree.load_of_save (assembled : d.build none = .ok s)
    (ordered : d.candidates.Pairwise fun a b => a.path < b.path) (wf : s.graph.WellFormed)
    (short : s.toBytes.length < 2 ^ 64) (saved : t.save s = (stored, none)) :
    ∃ loaded, stored.load = .ok (some loaded) ∧ loaded.version = s.version ∧
      loaded.records = s.records ∧
      ∀ path r, loaded.record? path = some r ↔ r ∈ d.records none ∧ r.path = path := by
  obtain ⟨g, _, _, _, rfl⟩ := Discovery.build_ok_iff.mp assembled
  obtain ⟨loaded, read, same, _, _⟩ :=
    Snapshot.ofBytes_toBytes wf (Snapshot.new_keyed _ _ _ _ _) short
  have whole := read []
  rw [List.append_nil] at whole
  refine ⟨loaded, (load_of_content (content_of_save saved)).trans whole, same.version, same.records, ?_⟩
  intro path r
  rw [Snapshot.record?, same.records]
  exact Snapshot.record_new_iff (Discovery.records_ascending ordered)

theorem Discovery.candidate_of_file (assembled : d.build none = .ok s) (wf : s.graph.WellFormed) {n : Node}
    (hn : n ∈ s.graph.nodes) (file : n.kind = .file) : ∃ c ∈ d.candidates, c.path = n.path := by
  obtain ⟨_, _, last⟩ := graph_of_build assembled
  obtain ⟨r, hr, path⟩ := List.mem_map.mp (Assembly.record_of_file wf last hn file)
  obtain ⟨c, hc, parsed⟩ := Discovery.mem_records_iff.mp hr
  exact ⟨c, hc, (Candidate.parsed_of_parse parsed).1.symm.trans path⟩

/-- No path that a build looks at leads into the directory of the stored snapshot. -/
theorem Discovery.cache_hidden (found : t.discover config root = .ok d)
    (inside : cacheDirectory.toList ∈ Path.components path) :
    path ∉ d.listing ∧ ∀ c ∈ d.candidates, c.path ≠ path := by
  constructor
  · obtain ⟨excluded, globs, _⟩ := SourceTree.discover_ok_iff.mp found
    rw [SourceTree.eq_of_discover found globs]
    exact SourceTree.not_mem_keptFiles (.inr (.inr inside))
  · rintro c hc rfl
    have seen := (Candidate.seen_of_discover (i := ⟨t, config, root⟩) found hc).1
    exact absurd (SourceTree.component_of_walk seen inside) (by decide)

/-- A snapshot that is built can be stored unless something is in the way. Reading it back and building
the tree again on top of it parses nothing and changes nothing, and the stored file is not seen. -/
theorem cached_rebuild_changes_nothing {first : Snapshot}
    (outside : Path.isWithin cacheDirectory root.path = false)
    (built : t.build config root none = .ok first) (short : first.toBytes.length < 2 ^ 64) :
    ((t.save first).2 = none ↔ t.data? cacheDirectory = none ∧
      t.isDirectory SourceTree.stagingPath = false ∧
      t.isDirectory SourceTree.snapshotPath = false) ∧
    ∀ stored, t.save first = (stored, none) →
      ∃ d loaded second, t.discover config root = .ok d ∧ stored.discover config root = .ok d ∧
        stored.load = .ok (some loaded) ∧ stored.build config root (some loaded) = .ok second ∧
        ((∀ o ∈ d.outcomes (some loaded), o.isParsed = false) ∧ second.stats.parsed = 0 ∧
          second.stats.reused = .ofNat second.records.size ∧ second.records = first.records ∧
          second.shared loaded = second.records.keys) ∧
        second.version = first.version + 1 ∧ second.warnings = first.warnings ∧
        second.stats.filesSeen = first.stats.filesSeen ∧
        second.stats.skipped = first.stats.skipped ∧
        second.stats.unresolved = first.stats.unresolved ∧
        second.graph.nodes = first.graph.nodes ∧ second.graph.links = first.graph.links ∧
        (Diff.between first second).isEmpty = true ∧
        ∀ path, cacheDirectory.toList ∈ Path.components path → path ∉ d.listing ∧
          (∀ c ∈ d.candidates, c.path ≠ path) ∧
          ∀ n ∈ second.graph.nodes, n.kind = .file → n.path ≠ path := by
  refine ⟨SourceTree.save_ok_iff, ?_⟩
  intro stored saved
  have wf := SourceTree.wellFormed_of_build built
  obtain ⟨d, directory, found, full, assembled⟩ := SourceTree.build_ok_iff.mp built
  have ordered := BuildInput.candidates_ascending (i := ⟨t, config, root⟩) found
  have left : (t.save first).1 = stored := congrArg Prod.fst saved
  have unseen : stored.discover config root = .ok d := by
    rw [SourceTree.discover, SourceTree.walk_save left outside]
    exact found
  rw [← SourceTree.isDirectory_save left outside] at directory
  obtain ⟨loaded, load, version, records, recorded⟩ :=
    SourceTree.load_of_save assembled ordered wf short saved
  have again := Discovery.outcomes_again ordered recorded
  have one : loaded.version = 1 := version.trans (Except.ok.inj (SourceTree.version_of_build built)).symm
  have room : loaded.version.toNat < 2 ^ 64 - 1 := by
    rw [one]
    decide
  obtain ⟨second, rebuilt, alike, keyed, next, parsed, reused⟩ :=
    Discovery.build_again assembled room ordered again
  refine ⟨d, loaded, second, found, unseen, load,
    SourceTree.build_ok_iff.mpr ⟨d, directory, unseen, full, rebuilt⟩,
    ⟨Discovery.parsed_again again, parsed, reused, alike.records,
      Snapshot.shared_of_records keyed (records.trans alike.records.symm)⟩,
    version ▸ next, alike.warnings, alike.filesSeen, alike.skipped, alike.unresolved,
    congrArg Graph.nodes alike.graph, congrArg Graph.links alike.graph,
    Diff.isEmpty_of_graph wf alike.graph, ?_⟩
  intro path inside
  obtain ⟨unlisted, unread⟩ := Discovery.cache_hidden found inside
  refine ⟨unlisted, unread, ?_⟩
  intro n hn file same
  rw [alike.graph] at hn
  obtain ⟨c, hc, named⟩ := Discovery.candidate_of_file assembled wf hn file
  exact unread c hc (named.trans same)

end Rebuild

end Again

open Scanners

theorem sample_rebuild_changes_nothing :
    (Path.isWithin cacheDirectory sampleRoot.path = false ∧
      sampleTree.build sampleConfig sampleRoot none = .ok sampleSnapshot ∧
      sampleSnapshot.toBytes.length < 2 ^ 64) ∧
    ∃ stored loaded second, sampleTree.save sampleSnapshot = (stored, none) ∧
      stored.load = .ok (some loaded) ∧
      stored.build sampleConfig sampleRoot (some loaded) = .ok second ∧ second.stats.parsed = 0 ∧
      second.stats.reused = 3 ∧ second.stats.skipped = 1 ∧ second.version = 2 ∧
      (Diff.between sampleSnapshot second).isEmpty = true := by
  have short : sampleSnapshot.toBytes.length < 2 ^ 64 := by decide +kernel
  have outside : Path.isWithin cacheDirectory sampleRoot.path = false := by decide
  obtain ⟨accepted, rebuild⟩ := cached_rebuild_changes_nothing outside sample_built short
  have free : (sampleTree.save sampleSnapshot).2 = none := accepted.mpr (by decide +kernel)
  obtain ⟨d, loaded, second, _, _, load, again, ⟨_, parsed, reused, records, _⟩, version, _, _, skipped,
    _, _, _, same, _⟩ := rebuild _ (Prod.ext rfl free)
  refine ⟨⟨outside, sample_built, short⟩, _, loaded, second, Prod.ext rfl free, load, again, parsed, ?_, ?_,
    ?_, same⟩
  · rw [reused, records]
    decide +kernel
  · rw [skipped]
    decide +kernel
  · rw [version]
    decide +kernel

end SourceAtlas
