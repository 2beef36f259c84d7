import SourceAtlas.Proofs.Build.Locality
import SourceAtlas.Proofs.SourceTree.Hidden

/-! No file is lost and none is counted twice. Every file of the listing that is in a language of the graph
ends either in a record and a node or in a warning; these are the files that a build says it has
seen. -/
namespace SourceAtlas

namespace FileOutcome

/-- The file that the outcome is about. -/
def path : FileOutcome → String
  | .reused r | .parsed r => r.path
  | .skipped w => w.path

theorem recordPaths_eq (outcomes : List FileOutcome) :
    (outcomes.filterMap record?).map (·.path) =
      (outcomes.filter fun o => o.record?.isSome).map path := by
  induction outcomes with
  | nil => rfl
  | cons o rest ih => cases o <;> simp [List.filterMap_cons, record?, path, ih]

theorem warningPaths_eq (outcomes : List FileOutcome) :
    (outcomes.filterMap warning?).map (·.path) =
      (outcomes.filter fun o => !o.record?.isSome).map path := by
  induction outcomes with
  | nil => rfl
  | cons o rest ih => cases o <;> simp [List.filterMap_cons, record?, warning?, path, ih]

theorem paths_perm (outcomes : List FileOutcome) :
    ((outcomes.filterMap record?).map (·.path) ++ (outcomes.filterMap warning?).map (·.path)).Perm
      (outcomes.map path) := by
  rw [recordPaths_eq, warningPaths_eq, ← List.map_append]
  exact (List.filter_append_perm _ outcomes).map path

end FileOutcome

section Outcomes

variable [Tools]

/-- What becomes of a file in a language of the graph, whether or not it is a candidate. -/
def Candidate.outcome (limit : UInt64) (previous : Option Snapshot) (c : Candidate) : FileOutcome :=
  match Discovery.refusal? limit c with
  | some warning => .skipped warning
  | none => c.process previous

namespace Candidate

variable {c : Candidate} {limit : UInt64} {previous : Option Snapshot}

theorem parse_path (c : Candidate) : c.parse.path = c.path := by
  rcases c.parse_cases with ⟨_, _, _, outcome⟩ | ⟨_, _, outcome⟩ <;> rw [outcome] <;> rfl

omit [Tools] in
theorem refusal_path {warning : Warning} (refused : Discovery.refusal? limit c = some warning) :
    warning.path = c.path := by
  unfold Discovery.refusal? at refused
  split at refused
  · cases refused
    rfl
  · split at refused <;> cases refused
    rfl

theorem outcome_of_refused {warning : Warning} (refused : Discovery.refusal? limit c = some warning) :
    c.outcome limit previous = .skipped warning := by
  rw [outcome, refused]

theorem outcome_of_taken (taken : Discovery.refusal? limit c = none) :
    c.outcome limit previous = c.process previous := by
  rw [outcome, taken]

theorem outcome_path (keyed : ∀ p, previous = some p → p.Keyed) (limit : UInt64) (c : Candidate) :
    (c.outcome limit previous).path = c.path := by
  cases refused : Discovery.refusal? limit c with
  | some warning => exact outcome_of_refused refused ▸ refusal_path refused
  | none =>
    rw [outcome_of_taken refused]
    unfold process
    split
    · next r reuse =>
      obtain ⟨recorded, _⟩ := Option.filter_eq_some_iff.mp reuse
      obtain ⟨p, before, found⟩ := Option.bind_eq_some_iff.mp recorded
      have entry : (c.path, r) ∈ p.records.entries := TextMap.mem_entries_iff.mpr found
      exact (keyed p before _ entry).symm
    · exact c.parse_path

theorem outcome_of_large {size : UInt64} (known : c.data.size = .ok size) (large : limit < size) :
    (c.outcome limit previous).record? = none := by
  rw [outcome, Discovery.refusal?, known]
  simp only [large, if_true]
  rfl

/-- A file that nothing is extracted from is only recorded if a record of other bytes passes for one of
its own. -/
theorem outcome_of_unread (unread : ∀ content e, ¬ c.Extracts content e)
    (apart : ∀ p r content, previous = some p → p.record? c.path = some r →
      c.data = .readable content → r.fingerprint ≠ Fingerprint.of content) :
    (c.outcome limit previous).record? = none := by
  have fresh : c.reusable? previous = none := by
    rw [reusable?, Option.filter_eq_none_iff]
    intro r recorded same
    obtain ⟨p, before, found⟩ := Option.bind_eq_some_iff.mp recorded
    simp only [isSourceOf, Option.any_eq_true, FileData.content?_eq_some_iff, Bool.and_eq_true,
      decide_eq_true_eq] at same
    obtain ⟨content, data, fingerprint, _⟩ := same
    exact apart p r content before found data fingerprint
  cases refused : Discovery.refusal? limit c with
  | some warning =>
    rw [outcome_of_refused refused]
    rfl
  | none =>
    rcases c.parse_cases with ⟨content, e, extracts, _⟩ | ⟨_, message, outcome⟩
    · exact absurd extracts (unread content e)
    · rw [outcome_of_taken refused, process, fresh]
      dsimp only
      rw [outcome]
      rfl

theorem outcome_of_extracts {content : Bytes} {e : Extraction} (extracts : c.Extracts content e)
    (small : ¬ limit < .ofNat content.length) :
    (c.outcome limit previous).record?.isSome = true := by
  have taken : Discovery.refusal? limit c = none := by
    refine Discovery.refusal_eq_none_iff.mpr ⟨.ofNat content.length, ?_, UInt64.not_lt.mp small⟩
    rw [extracts.1]
    rfl
  rw [outcome_of_taken taken, process]
  cases c.reusable? previous with
  | some old => rfl
  | none =>
    dsimp only
    rw [parse_eq_parsed_iff.mpr ⟨content, e, extracts, rfl⟩]
    rfl

end Candidate

namespace Discovery

variable {limit : UInt64} {rootName : String} {previous : Option Snapshot} {files : TextMap FileData}

/-- What becomes of all files in a language of the graph, in order of their paths. -/
def settled (limit : UInt64) (previous : Option Snapshot) (files : TextMap FileData) :
    List FileOutcome :=
  (indexedFiles files).map (Candidate.outcome limit previous)

theorem settled_paths (keyed : ∀ p, previous = some p → p.Keyed) (limit : UInt64)
    (files : TextMap FileData) : (settled limit previous files).map FileOutcome.path =
      files.keys.filter fun path => (Language.ofPath path).indexed := by
  have each : FileOutcome.path ∘ Candidate.outcome limit previous = fun c => c.path :=
    funext (Candidate.outcome_path keyed limit)
  rw [settled, List.map_map, each, indexedFiles_eq, TextMap.keys, List.filter_map, List.filter_map,
    List.map_map]
  rfl

theorem settled_ascending (keyed : ∀ p, previous = some p → p.Keyed) (limit : UInt64)
    (files : TextMap FileData) :
    ((settled limit previous files).map FileOutcome.path).Pairwise (· < ·) := by
  rw [settled_paths keyed]
  exact files.keys_ascending.filter _

theorem records_eq_settled (limit : UInt64) (rootName : String) (previous : Option Snapshot)
    (files : TextMap FileData) : (ofFiles limit rootName files).records previous =
      (settled limit previous files).filterMap FileOutcome.record? := by
  simp only [records, outcomes, ofFiles, settled, List.filterMap_map, List.filterMap_filter]
  apply List.filterMap_congr
  intro c _
  cases refused : refusal? limit c <;> simp [Candidate.outcome, refused, FileOutcome.record?]

/-- The warnings of both passes together are those of all files. -/
theorem warnings_perm (limit : UInt64) (rootName : String) (previous : Option Snapshot)
    (files : TextMap FileData) :
    ((ofFiles limit rootName files).warnings ++ (ofFiles limit rootName files).refused previous).Perm
      ((settled limit previous files).filterMap FileOutcome.warning?) := by
  have first : (ofFiles limit rootName files).warnings =
      ((indexedFiles files).filter fun c => !(refusal? limit c).isNone).filterMap
        fun c => (c.outcome limit previous).warning? := by
    rw [ofFiles, List.filterMap_filter]
    apply List.filterMap_congr
    intro c _
    cases refused : refusal? limit c <;> simp [Candidate.outcome, refused, FileOutcome.warning?]
  have second : (ofFiles limit rootName files).refused previous =
      ((indexedFiles files).filter fun c => (refusal? limit c).isNone).filterMap
        fun c => (c.outcome limit previous).warning? := by
    rw [refused, outcomes, ofFiles, List.filterMap_map]
    apply List.filterMap_congr
    intro c hc
    have taken : refusal? limit c = none := by simpa using (List.mem_filter.mp hc).2
    rw [Function.comp_apply, Candidate.outcome_of_taken taken]
  rw [first, second, ← List.filterMap_append, settled, List.filterMap_map]
  exact (List.perm_append_comm.trans (List.filter_append_perm _ _)).filterMap _

theorem filesSeen_eq (limit : UInt64) (rootName : String) (previous : Option Snapshot)
    (files : TextMap FileData) :
    (ofFiles limit rootName files).candidates.length + (ofFiles limit rootName files).skipped =
      (settled limit previous files).length := by
  have both : (indexedFiles files).length = _ :=
    List.length_eq_countP_add_countP fun c => (refusal? limit c).isNone
  have warned : ∀ c ∈ indexedFiles files,
      (refusal? limit c).isSome = true ↔ decide ¬ (refusal? limit c).isNone = true := by
    intro c _
    simp [Option.isSome_iff_ne_none]
  simp only [ofFiles, skipped, settled, List.length_map, ← List.countP_eq_length_filter,
    List.length_filterMap_eq_countP]
  rw [both, List.countP_congr warned]

theorem warningPaths_ascending (keyed : ∀ p, previous = some p → p.Keyed) (limit : UInt64)
    (files : TextMap FileData) :
    ((settled limit previous files).filterMap FileOutcome.warning?).Pairwise
      fun a b => a.path < b.path := by
  rw [← List.pairwise_map, FileOutcome.warningPaths_eq]
  exact (settled_ascending keyed limit files).sublist (List.filter_sublist.map _)

theorem recordPaths_ascending (keyed : ∀ p, previous = some p → p.Keyed) (limit : UInt64)
    (files : TextMap FileData) :
    ((settled limit previous files).filterMap FileOutcome.record?).Pairwise
      fun a b => a.path < b.path := by
  rw [← List.pairwise_map, FileOutcome.recordPaths_eq]
  exact (settled_ascending keyed limit files).sublist (List.filter_sublist.map _)

theorem warnings_eq_settled (keyed : ∀ p, previous = some p → p.Keyed) :
    ((ofFiles limit rootName files).warnings ++
        (ofFiles limit rootName files).refused previous).mergeSort Warning.le =
      (settled limit previous files).filterMap FileOutcome.warning? := by
  exact mergeSort_eq_of_ascending (warningPaths_ascending keyed limit files)
    (warnings_perm limit rootName previous files)

end Discovery

end Outcomes

section Files

variable {g : Graph} {resolver : Resolver} {records : List Record} {path : String}

theorem Graph.WellFormed.filePaths_nodup (wf : g.WellFormed) :
    ((g.nodes.filter (·.kind = .file)).map (·.path)).Nodup := by
  have once : (g.nodes.filter (·.kind = .file)).Nodup := wf.ids_distinct.of_map.filter _
  apply List.Nodup.map_on _ once
  intro a ha b hb same
  obtain ⟨ha, aFile⟩ := List.mem_filter.mp ha
  obtain ⟨hb, bFile⟩ := List.mem_filter.mp hb
  exact wf.file_paths_distinct a ha b hb (of_decide_eq_true aFile) (of_decide_eq_true bFile) same

theorem Assembly.mem_allNodes (wf : g.WellFormed)
    (last : ∀ id, g.node? id = (resolver.assembly records).allNodes.reverse.find? (·.id = id))
    {n : Node} (hn : n ∈ g.nodes) : n ∈ (resolver.assembly records).allNodes := by
  have found := Graph.node_of_mem wf.ids_distinct hn
  rw [last] at found
  exact List.mem_reverse.mp (List.mem_of_find?_eq_some found)

theorem Assembly.record_of_file (wf : g.WellFormed)
    (last : ∀ id, g.node? id = (resolver.assembly records).allNodes.reverse.find? (·.id = id))
    {n : Node} (hn : n ∈ g.nodes) (file : n.kind = .file) : n.path ∈ records.map (·.path) := by
  have mentioned := mentioned_of_mem (mem_allNodes wf last hn)
  rw [file] at mentioned
  generalize n.path = name at mentioned ⊢
  cases mentioned with
  | file hr => exact List.mem_map_of_mem hr

theorem Assembly.mem_filePaths_iff (apart : IdsApart (Mentioned resolver records)) (wf : g.WellFormed)
    (last : ∀ id, g.node? id = (resolver.assembly records).allNodes.reverse.find? (·.id = id)) :
    path ∈ (g.nodes.filter (·.kind = .file)).map (·.path) ↔ path ∈ records.map (·.path) := by
  constructor
  · intro h
    obtain ⟨n, hn, rfl⟩ := List.mem_map.mp h
    obtain ⟨hn, file⟩ := List.mem_filter.mp hn
    exact record_of_file wf last hn (of_decide_eq_true file)
  · intro h
    obtain ⟨r, hr, rfl⟩ := List.mem_map.mp h
    obtain ⟨n, node, place⟩ := node_of_mentioned apart last (.file hr)
    obtain ⟨hn, _⟩ := Graph.mem_of_node node
    refine List.mem_map.mpr ⟨n, List.mem_filter.mpr ⟨hn, ?_⟩, congrArg Prod.snd place⟩
    exact decide_eq_true (congrArg Prod.fst place)

end Files

/-- How often a path is that of a record, of a file in the graph and of a warning. -/
def Snapshot.tally (s : Snapshot) (path : String) : Nat × Nat × Nat :=
  ((s.records.values.map (·.path)).count path,
    ((s.graph.nodes.filter (·.kind = .file)).map (·.path)).count path,
    (s.warnings.map (·.path)).count path)

/-- A snapshot tells of these outcomes and of nothing else: one for every file of the listing that is in
a language of the graph. -/
structure Snapshot.Tells (s : Snapshot) (listing : List String) (outcomes : List FileOutcome) : Prop where
  wellFormed : s.graph.WellFormed
  paths : outcomes.map FileOutcome.path = listing.filter fun path => (Language.ofPath path).indexed
  once : (outcomes.map FileOutcome.path).Nodup
  records : s.records.values = outcomes.filterMap FileOutcome.record?
  files : ∀ path, path ∈ (s.graph.nodes.filter (·.kind = .file)).map (·.path) ↔
    path ∈ s.records.values.map (·.path)
  warnings : s.warnings = outcomes.filterMap FileOutcome.warning?
  seen : s.stats.filesSeen = .ofNat outcomes.length
  taken : s.stats.parsed + s.stats.reused = .ofNat s.records.size
  skipped : s.stats.skipped = .ofNat s.warnings.length

namespace Snapshot.Tells

variable {s : Snapshot} {listing : List String} {outcomes : List FileOutcome} {path : String}
  {o : FileOutcome}

theorem tally_eq (h : s.Tells listing outcomes) (path : String) :
    s.tally path = ((s.records.values.map (·.path)).count path,
      (s.records.values.map (·.path)).count path, (s.warnings.map (·.path)).count path) := by
  have once : (s.records.values.map (·.path)).Nodup := by
    rw [h.records, FileOutcome.recordPaths_eq]
    exact h.once.sublist (List.filter_sublist.map _)
  have nodes := h.wellFormed.filePaths_nodup
  rw [tally, nodes.count, once.count]
  simp only [h.files path]

theorem count_eq (h : s.Tells listing outcomes) (path : String) :
    (s.records.values.map (·.path)).count path + (s.warnings.map (·.path)).count path =
      if path ∈ outcomes.map FileOutcome.path then 1 else 0 := by
  rw [← List.count_append, h.records, h.warnings, (FileOutcome.paths_perm outcomes).count_eq,
    h.once.count]

theorem tally_of_listed (h : s.Tells listing outcomes) (listed : path ∈ listing)
    (indexed : (Language.ofPath path).indexed = true) :
    s.tally path = (1, 1, 0) ∨ s.tally path = (0, 0, 1) := by
  have known : path ∈ outcomes.map FileOutcome.path := by
    rw [h.paths]
    exact List.mem_filter.mpr ⟨listed, indexed⟩
  have one := h.count_eq path
  rw [if_pos known] at one
  rw [h.tally_eq]
  rcases Nat.add_eq_one_iff.mp one with ⟨none, once⟩ | ⟨once, none⟩
  · exact .inr (by rw [none, once])
  · exact .inl (by rw [none, once])

theorem tally_of_other (h : s.Tells listing outcomes)
    (other : ¬ (path ∈ listing ∧ (Language.ofPath path).indexed = true)) :
    s.tally path = (0, 0, 0) := by
  have unknown : path ∉ outcomes.map FileOutcome.path := by
    rw [h.paths, List.mem_filter]
    exact other
  have none := h.count_eq path
  rw [if_neg unknown, Nat.add_eq_zero_iff] at none
  rw [h.tally_eq, none.1, none.2]

theorem tally_of_outcome (h : s.Tells listing outcomes) (ho : o ∈ outcomes) :
    s.tally o.path = (1, 1, 0) ∨ s.tally o.path = (0, 0, 1) := by
  have named := List.mem_map_of_mem (f := FileOutcome.path) ho
  rw [h.paths, List.mem_filter] at named
  exact h.tally_of_listed named.1 named.2

theorem tally_of_recorded (h : s.Tells listing outcomes) (ho : o ∈ outcomes)
    (recorded : o.record?.isSome = true) : s.tally o.path = (1, 1, 0) := by
  have named : o.path ∈ s.records.values.map (·.path) := by
    rw [h.records, FileOutcome.recordPaths_eq]
    exact List.mem_map_of_mem (List.mem_filter.mpr ⟨ho, recorded⟩)
  rcases h.tally_of_outcome ho with it | it
  · exact it
  · have absent : (s.records.values.map (·.path)).count o.path = 0 := congrArg Prod.fst it
    exact absurd named (List.count_eq_zero.mp absent)

theorem tally_of_warned (h : s.Tells listing outcomes) (ho : o ∈ outcomes) (warned : o.record? = none) :
    s.tally o.path = (0, 0, 1) := by
  have named : o.path ∈ s.warnings.map (·.path) := by
    rw [h.warnings, FileOutcome.warningPaths_eq]
    exact List.mem_map_of_mem (List.mem_filter.mpr ⟨ho, by simp [warned]⟩)
  rcases h.tally_of_outcome ho with it | it
  · have absent : (s.warnings.map (·.path)).count o.path = 0 := congrArg (·.2.2) it
    exact absurd named (List.count_eq_zero.mp absent)
  · exact it

/-- No link leads to a file that is not listed. -/
theorem target_of_link (h : s.Tells listing outcomes) (unlisted : path ∉ listing) {l : Link}
    (hl : l ∈ s.graph.links) :
    ∃ n ∈ s.graph.nodes, n.id = l.target ∧ ¬ (n.kind = .file ∧ n.path = path) := by
  obtain ⟨n, hn, target, _⟩ := Graph.getNode_of_contains (h.wellFormed.ends_present l hl).2
  refine ⟨n, hn, target, ?_⟩
  rintro ⟨file, rfl⟩
  have listed : n.path ∈ (s.graph.nodes.filter (·.kind = .file)).map (·.path) :=
    List.mem_map_of_mem (List.mem_filter.mpr ⟨hn, decide_eq_true file⟩)
  have absent : ((s.graph.nodes.filter (·.kind = .file)).map (·.path)).count n.path = 0 :=
    congrArg (·.2.1) (h.tally_of_other fun known => unlisted known.1)
  exact List.count_eq_zero.mp absent listed

theorem outcomes_length (h : s.Tells listing outcomes) :
    outcomes.length = listing.countP fun path => (Language.ofPath path).indexed := by
  rw [List.countP_eq_length_filter, ← h.paths, List.length_map]

theorem size_add_length (h : s.Tells listing outcomes) :
    s.records.size + s.warnings.length = outcomes.length := by
  have lengths := (FileOutcome.paths_perm outcomes).length_eq
  rw [← h.records, ← h.warnings, List.length_append, List.length_map, List.length_map,
    List.length_map, TextMap.values, List.length_map] at lengths
  exact lengths

end Snapshot.Tells

namespace SourceTree

variable {t : SourceTree} {config : BuildConfig} {root : BuildRoot} {previous : Option Snapshot}
  {s : Snapshot} {d : Discovery} {excluded : List Glob} {path : String} {data : FileData}

/-- The files of a directory that are neither ignored nor excluded. -/
def keptFiles (t : SourceTree) (config : BuildConfig) (root : BuildRoot) (excluded : List Glob) :
    TextMap FileData :=
  Discovery.kept excluded (t.walk config.respectIgnoreFiles root.path)

theorem mem_keptFiles (h : (path, data) ∈ (t.keptFiles config root excluded).entries) :
    (path, data) ∈ t.walk config.respectIgnoreFiles root.path ∧
      Glob.anyMatch excluded path = false := by
  obtain ⟨visited, kept⟩ := List.mem_filter.mp (TextMap.mem_of_mem_ofList h)
  exact ⟨visited, by simpa using kept⟩

theorem data_of_kept (h : path ∈ (t.keptFiles config root excluded).keys)
    (held : t.data? (Path.child root.path path) = some data) :
    (path, data) ∈ (t.keptFiles config root excluded).entries := by
  obtain ⟨⟨name, known⟩, entry, rfl⟩ := List.mem_map.mp h
  have same := data_of_walk (mem_keptFiles entry).1
  rw [held] at same
  cases same
  exact entry

/-- Paths that are excluded or hidden are not kept. -/
theorem not_mem_keptFiles (h : Glob.anyMatch excluded path = true ∨
      ".git".toList ∈ Path.components path ∨ ".taproot".toList ∈ Path.components path) :
    path ∉ (t.keptFiles config root excluded).keys := by
  intro listed
  obtain ⟨⟨name, known⟩, entry, rfl⟩ := List.mem_map.mp listed
  obtain ⟨visited, kept⟩ := mem_keptFiles entry
  rcases h with matched | git | cache
  · rw [kept] at matched
    cases matched
  · exact absurd (component_of_walk visited git) (by decide)
  · exact absurd (component_of_walk visited cache) (by decide)

variable [Tools]

theorem eq_of_discover (found : t.discover config root = .ok d)
    (globs : config.excludeGlobs = .ok excluded) :
    d = .ofFiles config.maxFileSize root.name (t.keptFiles config root excluded) := by
  obtain ⟨excluded', globs', shape⟩ := discover_ok_iff.mp found
  cases globs.symm.trans globs'
  exact shape

/-- A snapshot holds the records of its build in order of their paths. -/
theorem records_of_build (keyed : ∀ p, previous = some p → p.Keyed)
    (built : t.build config root previous = .ok s) (found : t.discover config root = .ok d) :
    s.records.values = d.records previous ∧
      s.records.values.Pairwise fun a b => a.path < b.path := by
  obtain ⟨_, _, shape⟩ := discover_ok_iff.mp found
  obtain ⟨_, _, found', _, assembled⟩ := build_ok_iff.mp built
  cases found.symm.trans found'
  obtain ⟨g, version, _, _, rfl⟩ := Discovery.build_ok_iff.mp assembled
  have made : d.records previous = _ := shape ▸ Discovery.records_eq_settled _ _ previous _
  have ordered : (d.records previous).Pairwise fun a b => a.path < b.path :=
    made ▸ Discovery.recordPaths_ascending keyed _ _
  have values : (d.snapshot previous version g).records.values = d.records previous :=
    Snapshot.values_new ordered _ _ _ _
  exact ⟨values, values ▸ ordered⟩

theorem tells_of_build (keyed : ∀ p, previous = some p → p.Keyed)
    (built : t.build config root previous = .ok s) (found : t.discover config root = .ok d)
    (apart : IdsApart (Mentioned ⟨d.listing, d.crates⟩ (d.records previous)))
    (globs : config.excludeGlobs = .ok excluded) : s.Tells d.listing
      (Discovery.settled config.maxFileSize previous (t.keptFiles config root excluded)) := by
  obtain ⟨_, _, found', _, assembled⟩ := build_ok_iff.mp built
  cases found.symm.trans found'
  obtain ⟨wf, _, last⟩ := Discovery.graph_of_build assembled
  obtain ⟨values, _⟩ := records_of_build keyed built found
  obtain ⟨g, version, _, _, rfl⟩ := Discovery.build_ok_iff.mp assembled
  have shape := eq_of_discover found globs
  have made : d.records previous = _ := shape ▸ Discovery.records_eq_settled _ _ previous _
  constructor
  case wellFormed => exact wf
  case paths => exact shape ▸ Discovery.settled_paths keyed _ _
  case once =>
    refine (Discovery.settled_ascending keyed _ _).imp ?_
    intro a b below same
    exact String.lt_irrefl b (same ▸ below)
  case records => exact values.trans made
  case files =>
    intro path
    rw [values]
    exact Assembly.mem_filePaths_iff apart wf last
  case warnings => exact shape ▸ Discovery.warnings_eq_settled keyed
  case seen => exact congrArg UInt64.ofNat (shape ▸ Discovery.filesSeen_eq _ _ previous _)
  case taken =>
    have size : (d.snapshot previous version g).records.size = (d.records previous).length := by
      rw [← values, TextMap.values, List.length_map, TextMap.size]
    rw [size]
    exact d.parsed_add_reused previous
  case skipped =>
    have both : (d.snapshot previous version g).warnings.length = d.skipped + (d.refused previous).length := by
      simp [Discovery.snapshot, Snapshot.new, Discovery.skipped]
    rw [both]
    rfl

/-- What the walk brings of a listed file is settled as that file. -/
theorem outcome_of_listed (previous : Option Snapshot) (found : t.discover config root = .ok d)
    (globs : config.excludeGlobs = .ok excluded) (listed : path ∈ d.listing)
    (indexed : (Language.ofPath path).indexed = true)
    (held : t.data? (Path.child root.path path) = some data) :
    (Candidate.ofFile path data).outcome config.maxFileSize previous ∈
      Discovery.settled config.maxFileSize previous (t.keptFiles config root excluded) := by
  rw [eq_of_discover found globs] at listed
  refine List.mem_map_of_mem ?_
  rw [Discovery.indexedFiles_eq]
  exact List.mem_filter.mpr ⟨List.mem_map_of_mem (data_of_kept listed held), indexed⟩

end SourceTree

/-- Every file of the listing that is in a language of the graph has one record and one node, or one
warning, and no other path has any of them; no link leads to a file that is left out. A file that cannot
be read, is too large, holds no text or cannot be parsed is warned of, all others are recorded, and the
counters say how many there are. -/
theorem files_are_counted_once [Tools] {t : SourceTree} {config : BuildConfig} {root : BuildRoot}
    {previous : Option Snapshot} {s : Snapshot} {d : Discovery}
    (keyed : ∀ p, previous = some p → p.Keyed) (built : t.build config root previous = .ok s)
    (found : t.discover config root = .ok d)
    (apart : IdsApart (Mentioned ⟨d.listing, d.crates⟩ (d.records previous))) :
    (∀ path ∈ d.listing, (Language.ofPath path).indexed = true →
      s.tally path = (1, 1, 0) ∨ s.tally path = (0, 0, 1)) ∧
    (∀ path, ¬ (path ∈ d.listing ∧ (Language.ofPath path).indexed = true) →
      s.tally path = (0, 0, 0)) ∧
    (∀ excluded path, config.excludeGlobs = .ok excluded →
      Glob.anyMatch excluded path = true ∨ ".git".toList ∈ Path.components path ∨
        ".taproot".toList ∈ Path.components path →
      s.tally path = (0, 0, 0) ∧ ∀ l ∈ s.graph.links,
        ∃ n ∈ s.graph.nodes, n.id = l.target ∧ ¬ (n.kind = .file ∧ n.path = path)) ∧
    (∀ path ∈ d.listing, (Language.ofPath path).indexed = true →
      ∀ data, t.data? (Path.child root.path path) = some data →
      (data.content? = none → s.tally path = (0, 0, 1)) ∧
      ∀ content, data.content? = some content →
        (config.maxFileSize < .ofNat content.length → s.tally path = (0, 0, 1)) ∧
        (Text.ofUtf8? content = none ∨ (∃ source cause, Text.ofUtf8? content = some source ∧
            Extraction.ofSource? (.ofPath path) path source = some (.error cause)) →
          (∀ p r, previous = some p → p.record? path = some r → r.fingerprint ≠ .of content) →
          s.tally path = (0, 0, 1)) ∧
        (¬ config.maxFileSize < .ofNat content.length →
          (∃ source e, Text.ofUtf8? content = some source ∧
            Extraction.ofSource? (.ofPath path) path source = some (.ok e)) →
          s.tally path = (1, 1, 0))) ∧
    (s.stats.filesSeen = s.stats.parsed + s.stats.reused + s.stats.skipped ∧
      s.stats.filesSeen = .ofNat (d.listing.countP fun path => (Language.ofPath path).indexed) ∧
      s.stats.skipped = .ofNat s.warnings.length ∧
      s.stats.parsed + s.stats.reused = .ofNat s.records.size ∧
      s.records.size + s.warnings.length =
        d.listing.countP fun path => (Language.ofPath path).indexed) ∧
    s.warnings.Pairwise fun a b => a.path < b.path := by
  obtain ⟨excluded, globs, _⟩ := SourceTree.discover_ok_iff.mp found
  have shape := SourceTree.eq_of_discover found globs
  have tells := SourceTree.tells_of_build keyed built found apart globs
  refine ⟨?_, ?_, ?_, ?_, ⟨?_, ?_, tells.skipped, tells.taken, ?_⟩, ?_⟩
  · intro path listed indexed
    exact tells.tally_of_listed listed indexed
  · intro path other
    exact tells.tally_of_other other
  · intro excluded' path globs' out
    cases globs.symm.trans globs'
    have unlisted : path ∉ d.listing := shape ▸ SourceTree.not_mem_keptFiles out
    exact ⟨tells.tally_of_other fun known => unlisted known.1,
      fun l hl => tells.target_of_link unlisted hl⟩
  · intro path listed indexed data held
    have settled := SourceTree.outcome_of_listed previous found globs listed indexed held
    have named : ((Candidate.ofFile path data).outcome config.maxFileSize previous).path = path :=
      Candidate.outcome_path keyed _ _
    refine ⟨?_, fun content readable => ?_⟩
    · intro unreadable
      have never : ∀ content, data ≠ .readable content := by
        rintro content rfl
        cases unreadable
      exact named ▸ tells.tally_of_warned settled (Candidate.outcome_of_unread
        (fun content _ extracts => never content extracts.1)
        fun _ _ content _ _ readable => absurd readable (never content))
    · obtain rfl := FileData.content?_eq_some_iff.mp readable
      refine ⟨?_, ?_, ?_⟩
      · intro large
        exact named ▸ tells.tally_of_warned settled (Candidate.outcome_of_large rfl large)
      · intro bad others
        refine named ▸ tells.tally_of_warned settled (Candidate.outcome_of_unread ?_ ?_)
        · rintro _ e ⟨⟨⟩, source, text, parsed⟩
          rcases bad with undecodable | ⟨_, cause, text', failed⟩
          · cases undecodable.symm.trans text
          · cases text.symm.trans text'
            cases failed.symm.trans parsed
        · rintro p r _ before recorded ⟨⟩
          exact others p r before recorded
      · rintro small ⟨source, e, text, parsed⟩
        exact named ▸ tells.tally_of_recorded settled
          (Candidate.outcome_of_extracts ⟨rfl, source, text, parsed⟩ small)
  · rw [tells.seen, tells.taken, tells.skipped, ← UInt64.ofNat_add, tells.size_add_length]
  · rw [tells.seen, tells.outcomes_length]
  · rw [tells.size_add_length, tells.outcomes_length]
  · rw [tells.warnings]
    exact Discovery.warningPaths_ascending keyed _ _

open Scanners

/-- The sample with a draft that a document refers to, a hidden document, one that is too large and one that
cannot be read. -/
def crowdedTree : SourceTree := ⟨TextMap.ofList
  [("guide.md", .text "# Guide\nSee [notes](notes.md).\n"),
    ("notes.md", .text "# Notes\nThere is a [plan](drafts/plan.md).\n"),
    ("part.h", .text "#include <stdio.h>\n"),
    ("broken.py", .file (.readable [0xff])),
    ("large.md", .file (.readable (List.replicate 4097 0x23))),
    ("locked.md", .file (.unreadable 12 "permission denied")),
    ("drafts", .directory), ("drafts/plan.md", .text "# Plan\n"),
    (".git", .directory), (".git/hidden.md", .text "# Hidden\n")]⟩

def crowdedDiscovery : Discovery :=
  (crowdedTree.discover sampleConfig sampleRoot).toOption.getD ⟨[], [], [], .empty⟩

theorem crowded_files_are_counted_once :
    sampleSnapshot.Keyed ∧ crowdedTree.discover sampleConfig sampleRoot = .ok crowdedDiscovery ∧
    IdsApart (Mentioned ⟨crowdedDiscovery.listing, crowdedDiscovery.crates⟩
      (crowdedDiscovery.records (some sampleSnapshot))) ∧
    ∃ s, crowdedTree.build sampleConfig sampleRoot (some sampleSnapshot) = .ok s ∧
      s.tally "guide.md" = (1, 1, 0) ∧ s.tally "broken.py" = (0, 0, 1) ∧
      s.tally "large.md" = (0, 0, 1) ∧ s.tally "locked.md" = (0, 0, 1) ∧
      s.tally "drafts/plan.md" = (0, 0, 0) ∧ s.tally ".git/hidden.md" = (0, 0, 0) ∧
      s.stats.filesSeen = 6 := by
  have found : crowdedTree.discover sampleConfig sampleRoot = .ok crowdedDiscovery := by
    decide +kernel
  have keyed : sampleSnapshot.Keyed := by
    unfold Snapshot.Keyed
    decide +kernel
  have apart : IdsApart (Mentioned ⟨crowdedDiscovery.listing, crowdedDiscovery.crates⟩
      (crowdedDiscovery.records (some sampleSnapshot))) :=
    idsApart_of_places (by decide +kernel)
  have listing : crowdedDiscovery.listing =
      ["broken.py", "guide.md", "large.md", "locked.md", "notes.md", "part.h"] := by
    decide +kernel
  have excluded : sampleConfig.excludeGlobs.toOption.map
      (fun globs => Glob.anyMatch globs "drafts/plan.md") = some true := by
    decide +kernel
  have room : HasRoom (some sampleSnapshot) := hasRoom_some (by decide +kernel)
  obtain ⟨s, built⟩ := BuildInput.exists_build (i := ⟨crowdedTree, sampleConfig, sampleRoot⟩) rfl found
    (by decide +kernel) room
  obtain ⟨_, _, out, listed, ⟨_, seen, _⟩, _⟩ :=
    files_are_counted_once (by rintro _ ⟨⟩; exact keyed) built found apart
  rw [listing] at listed seen
  cases globs : sampleConfig.excludeGlobs with
  | error fault => simp [globs, Except.toOption] at excluded
  | ok patterns =>
    have matched : Glob.anyMatch patterns "drafts/plan.md" = true := by
      simpa [globs, Except.toOption] using excluded
    refine ⟨keyed, found, apart, s, built, ?_, ?_, ?_, ?_, ?_, ?_, ?_⟩
    · exact ((listed _ (by decide) (by decide) _ rfl).2 _ rfl).2.2 (by decide +kernel)
        ⟨"# Guide\nSee [notes](notes.md).\n", _, by decide +kernel, rfl⟩
    · apply ((listed _ (by decide) (by decide) _ rfl).2 [0xff] rfl).2.1 (.inl (by decide +kernel))
      rintro _ r ⟨⟩ recorded
      rw [show sampleSnapshot.record? "broken.py" = none by decide +kernel] at recorded
      cases recorded
    · exact ((listed _ (by decide) (by decide) _ rfl).2 (List.replicate 4097 0x23) rfl).1 (by decide +kernel)
    · exact (listed _ (by decide) (by decide) _ rfl).1 rfl
    · exact (out patterns _ globs (.inl matched)).1
    · exact (out patterns _ globs (.inr (.inl (by decide)))).1
    · exact seen

end SourceAtlas
