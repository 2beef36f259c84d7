import SourceAtlas.Proofs.Build.WalkOrder

/-! Why builds fail. A build needs a directory, patterns that can be read and one file to index; nothing
that the files hold can stop it, as no graph of records is ever refused. That does not rest on ids that
tell nodes apart: a node may take the place of any other, and every end of a link stays where it is. -/
namespace SourceAtlas

/-- The first text to exclude that is no pattern. -/
def BuildConfig.unreadable? (c : BuildConfig) : Option String :=
  c.exclude.find? fun text => (Glob.ofText? text).isNone

/-- The file is excluded, or in no language of the graph, or too large or of unknown size. -/
def Discovery.PassesOver (limit : UInt64) (excluded : List Glob) (file : String × FileData) : Prop :=
  Glob.anyMatch excluded file.1 = true ∨ (Language.ofPath file.1).indexed = false ∨
    (refusal? limit (.ofFile file.1 file.2)).isSome = true

/-- What keeps a directory from being built, in the order in which it is looked for. -/
inductive SourceTree.Unbuildable [Tools] (t : SourceTree) (config : BuildConfig) (root : BuildRoot) :
    BuildFault → Prop where
  | notDirectory : t.isDirectory root.path = false →
      Unbuildable t config root (.notDirectory root.title)
  | badPattern {text : String} : t.isDirectory root.path = true → config.unreadable? = some text →
      Unbuildable t config root (.badPattern text)
  | patternsTooLarge : t.isDirectory root.path = true → config.unreadable? = none →
      Tools.compiles (config.exclude.filterMap Glob.ofText?) = false →
      Unbuildable t config root .patternsTooLarge
  | nothingIndexable {excluded : List Glob} : t.isDirectory root.path = true →
      config.excludeGlobs = .ok excluded →
      (∀ file ∈ t.walk config.respectIgnoreFiles root.path,
        Discovery.PassesOver config.maxFileSize excluded file) →
      Unbuildable t config root (.nothingIndexable root.title)

theorem BuildConfig.mapM_excludePattern (c : BuildConfig) : c.exclude.mapM excludePattern =
    match c.unreadable? with
    | some text => .error (.badPattern text)
    | none => .ok (c.exclude.filterMap Glob.ofText?) := by
  unfold unreadable?
  induction c.exclude with
  | nil => rfl
  | cons text rest ih =>
    rw [List.mapM_cons, ih, List.find?_cons, List.filterMap_cons]
    cases read : Glob.ofText? text with
    | none => simp [excludePattern, read, bind, Except.bind]
    | some glob =>
      cases rest.find? fun text => (Glob.ofText? text).isNone with
      | some bad => simp [excludePattern, read, bind, Except.bind]
      | none => simp [excludePattern, read, bind, Except.bind, pure, Except.pure]

theorem BuildConfig.excludeGlobs_eq [Tools] (c : BuildConfig) : c.excludeGlobs =
    match c.unreadable? with
    | some text => .error (.badPattern text)
    | none =>
      if Tools.compiles (c.exclude.filterMap Glob.ofText?) then .ok (c.exclude.filterMap Glob.ofText?)
      else .error .patternsTooLarge := by
  rw [excludeGlobs, mapM_excludePattern]
  cases c.unreadable? with
  | some text => rfl
  | none => cases compiled : Tools.compiles (c.exclude.filterMap Glob.ofText?) <;>
      simp [bind, Except.bind, pure, Except.pure, throw, throwThe, MonadExceptOf.throw, compiled]

theorem BuildConfig.exists_unreadable_iff {c : BuildConfig} :
    (∃ text, c.unreadable? = some text) ↔ ∃ text ∈ c.exclude, Glob.ofText? text = none := by
  rw [← Option.isSome_iff_exists, unreadable?, List.find?_isSome]
  simp

theorem Discovery.mem_visitedCandidates {excluded : List Glob} {visited : List (String × FileData)}
    {c : Candidate} : c ∈ visitedCandidates excluded visited ↔
      ∃ file ∈ visited, Glob.anyMatch excluded file.1 = false ∧ c = .ofFile file.1 file.2 ∧
        c.language.indexed = true := by
  simp only [visitedCandidates, List.mem_filter, List.mem_map, Bool.not_eq_true']
  constructor
  · rintro ⟨⟨file, ⟨hf, kept⟩, rfl⟩, language⟩
    exact ⟨file, hf, kept, rfl, language⟩
  · rintro ⟨file, hf, kept, rfl, language⟩
    exact ⟨⟨file, ⟨hf, kept⟩, rfl⟩, language⟩

theorem Discovery.candidates_eq_nil_iff {excluded : List Glob} {visited : List (String × FileData)}
    (once : (visited.map (·.1)).Nodup) (limit : UInt64) (rootName : String) :
    (ofFiles limit rootName (kept excluded visited)).candidates = [] ↔
      ∀ file ∈ visited, PassesOver limit excluded file := by
  have found : ∀ c, c ∈ indexedFiles (kept excluded visited) ↔ c ∈ visitedCandidates excluded visited :=
    fun c => (indexedFiles_perm once excluded).mem_iff
  rw [ofFiles, List.filter_eq_nil_iff]
  simp only [found, mem_visitedCandidates, Option.isNone_iff_eq_none, ← Option.isSome_iff_ne_none]
  constructor
  · intro refused file hf
    cases out : Glob.anyMatch excluded file.1 with
    | true => exact .inl out
    | false =>
      cases language : (Language.ofPath file.1).indexed with
      | false => exact .inr (.inl language)
      | true => exact .inr (.inr (refused _ ⟨file, hf, out, rfl, language⟩))
  · rintro none _ ⟨file, hf, kept, rfl, language⟩
    rcases none file hf with out | other | refused
    · rw [kept] at out
      cases out
    · have same : (Candidate.ofFile file.1 file.2).language = Language.ofPath file.1 := rfl
      rw [same, other] at language
      cases language
    · exact refused

section Builds

variable [Tools]

variable {t : SourceTree} {config : BuildConfig} {root : BuildRoot} {cause : BuildFault}

theorem SourceTree.discover_error_iff :
    t.discover config root = .error cause ↔ config.excludeGlobs = .error cause := by
  unfold discover Discovery.ofVisited
  cases config.excludeGlobs with
  | error other => simp [bind, Except.bind]
  | ok excluded => simp [bind, Except.bind, pure, Except.pure]

theorem SourceTree.exists_discovery (t : SourceTree) (root : BuildRoot) {excluded : List Glob}
    (globs : config.excludeGlobs = .ok excluded) : ∃ d, t.discover config root = .ok d :=
  ⟨_, discover_ok_iff.mpr ⟨excluded, globs, rfl⟩⟩

theorem SourceTree.no_candidates_iff {d : Discovery} {excluded : List Glob}
    (globs : config.excludeGlobs = .ok excluded) (found : t.discover config root = .ok d) :
    d.candidates = [] ↔ ∀ file ∈ t.walk config.respectIgnoreFiles root.path,
      Discovery.PassesOver config.maxFileSize excluded file := by
  obtain ⟨excluded', globs', rfl⟩ := discover_ok_iff.mp found
  cases globs.symm.trans globs'
  exact Discovery.candidates_eq_nil_iff (t.walkPaths_nodup _ _) _ _

theorem SourceTree.Unbuildable.build_eq (stopped : t.Unbuildable config root cause)
    (previous : Option Snapshot) : t.build config root previous = .error (.buildFailure cause) := by
  unfold build
  cases stopped with
  | notDirectory absent => simp [absent]
  | @badPattern text present bad =>
    have globs : config.excludeGlobs = .error (.badPattern text) := by
      rw [BuildConfig.excludeGlobs_eq, bad]
    simp [present, discover_error_iff.mpr globs]
  | patternsTooLarge present good large =>
    have globs : config.excludeGlobs = .error .patternsTooLarge := by
      rw [BuildConfig.excludeGlobs_eq, good]
      exact if_neg (Bool.eq_false_iff.mp large)
    simp [present, discover_error_iff.mpr globs]
  | nothingIndexable present globs none =>
    obtain ⟨d, found⟩ := t.exists_discovery root globs
    have empty := (no_candidates_iff globs found).mpr none
    simp [present, found, empty]

/-- With a directory, patterns that can be read and a file to index, versions can run out, and there is
nothing else left to fail for. -/
theorem SourceTree.cause_of_error {previous : Option Snapshot} {fault : Fault}
    (failed : t.build config root previous = .error fault) :
    (∃ cause, fault = .buildFailure cause ∧ t.Unbuildable config root cause) ∨
      fault = .overflow ∧ ∃ old, previous = some old ∧ old.version.toNat = 2 ^ 64 - 1 := by
  unfold build at failed
  cases directory : t.isDirectory root.path with
  | false =>
    simp only [directory, Bool.not_false, if_true, Except.error.injEq] at failed
    exact .inl ⟨_, failed.symm, .notDirectory directory⟩
  | true =>
    simp only [directory, Bool.not_true, Bool.false_eq_true, if_false] at failed
    cases found : t.discover config root with
    | error cause =>
      simp only [found, Except.error.injEq] at failed
      have globs := discover_error_iff.mp found
      rw [BuildConfig.excludeGlobs_eq] at globs
      split at globs
      · next text bad =>
        cases globs
        exact .inl ⟨_, failed.symm, .badPattern directory bad⟩
      · next good =>
        split at globs
        · cases globs
        · next large =>
          cases globs
          exact .inl ⟨_, failed.symm, .patternsTooLarge directory good (Bool.eq_false_iff.mpr large)⟩
    | ok d =>
      simp only [found] at failed
      split at failed
      · next empty =>
        simp only [Except.error.injEq] at failed
        obtain ⟨excluded, globs, _⟩ := discover_ok_iff.mp found
        have none := (no_candidates_iff globs found).mp (List.isEmpty_iff.mp empty)
        exact .inl ⟨_, failed.symm, .nothingIndexable directory globs none⟩
      · exact .inr (Discovery.overflow_of_error failed)

theorem SourceTree.build_error_iff {previous : Option Snapshot} {fault : Fault} (room : HasRoom previous) :
    t.build config root previous = .error fault ↔
      ∃ cause, fault = .buildFailure cause ∧ t.Unbuildable config root cause := by
  constructor
  · intro failed
    refine (cause_of_error failed).resolve_right ?_
    rintro ⟨_, old, same, last⟩
    exact absurd last (Nat.ne_of_lt (room old same))
  · rintro ⟨cause, rfl, stopped⟩
    exact stopped.build_eq previous

/-- What can be built is built, unless the versions have run out. -/
theorem SourceTree.build_overflow_iff {previous : Option Snapshot}
    (free : ∀ cause, ¬ t.Unbuildable config root cause) :
    t.build config root previous = .error .overflow ↔
      ∃ old, previous = some old ∧ old.version.toNat = 2 ^ 64 - 1 := by
  constructor
  · intro failed
    rcases cause_of_error failed with ⟨_, other, _⟩ | ⟨_, last⟩
    · cases other
    · exact last
  · rintro ⟨old, rfl, last⟩
    cases result : t.build config root (some old) with
    | ok s =>
      have next := nextVersion_eq_ok_iff.mp (version_of_build result)
      have word := s.version.toNat_lt
      omega
    | error fault =>
      rcases cause_of_error result with ⟨cause, _, stopped⟩ | ⟨rfl, _⟩
      · exact absurd stopped (free cause)
      · rfl

theorem SourceTree.exists_unbuildable_iff : (∃ cause, t.Unbuildable config root cause) ↔
    t.isDirectory root.path = false ∨ ((∃ text ∈ config.exclude, Glob.ofText? text = none) ∨
      Tools.compiles (config.exclude.filterMap Glob.ofText?) = false) ∨
      ∃ d, t.discover config root = .ok d ∧ d.candidates = [] := by
  rw [← BuildConfig.exists_unreadable_iff]
  constructor
  · rintro ⟨cause, stopped⟩
    cases stopped with
    | notDirectory absent => exact .inl absent
    | badPattern _ bad => exact .inr (.inl (.inl ⟨_, bad⟩))
    | patternsTooLarge _ _ large => exact .inr (.inl (.inr large))
    | nothingIndexable _ globs none =>
      obtain ⟨d, found⟩ := t.exists_discovery root globs
      exact .inr (.inr ⟨d, found, (no_candidates_iff globs found).mpr none⟩)
  · intro reason
    cases directory : t.isDirectory root.path with
    | false => exact ⟨_, .notDirectory directory⟩
    | true =>
      rcases reason with absent | (⟨text, bad⟩ | large) | ⟨d, found, empty⟩
      · cases absent.symm.trans directory
      · exact ⟨_, .badPattern directory bad⟩
      · cases read : config.unreadable? with
        | some text => exact ⟨_, .badPattern directory read⟩
        | none => exact ⟨_, .patternsTooLarge directory read large⟩
      · obtain ⟨excluded, globs, _⟩ := discover_ok_iff.mp found
        exact ⟨_, .nothingIndexable directory globs ((no_candidates_iff globs found).mp empty)⟩

end Builds

def Node.relabel (ids : NodeId → NodeId) (n : Node) : Node := { n with id := ids n.id }

def Link.relabel (ids : NodeId → NodeId) (l : Link) : Link :=
  { l with source := ids l.source, target := ids l.target }

namespace Assembly

/-- The same parts under other ids, which need not tell nodes apart. -/
def relabel (ids : NodeId → NodeId) (a : Assembly) : Assembly where
  nodes := a.nodes.map (Node.relabel ids)
  outside := a.outside.alter fun _ => Node.relabel ids
  links := a.links.map (Link.relabel ids)
  unresolved := a.unresolved

theorem allNodes_relabel (ids : NodeId → NodeId) (a : Assembly) :
    (a.relabel ids).allNodes = a.allNodes.map (Node.relabel ids) := by
  rw [allNodes, allNodes, List.map_append]
  congr 1
  simp [relabel, TextMap.values, TextMap.entries_alter]

theorem graph_of_relabelled (ids : NodeId → NodeId) (resolver : Resolver) (records : List Record) :
    ∃ g, ((resolver.assembly records).relabel ids).graph = .ok g := by
  have alike : FilesAlike ((resolver.assembly records).relabel ids).allNodes := by
    rw [allNodes_relabel]
    intro a ha b hb aFile bFile path
    obtain ⟨m, hm, rfl⟩ := List.mem_map.mp ha
    obtain ⟨n, hn, rfl⟩ := List.mem_map.mp hb
    -- Other nodes may have come to share an id, but files of one path shared theirs before.
    have same : m.id = n.id := filesAlike_of_named (fun _ => named_of_mem) m hm n hn aFile bFile path
    exact congrArg ids same
  have ends : ∀ l ∈ ((resolver.assembly records).relabel ids).links,
      l.source ∈ ((resolver.assembly records).relabel ids).allNodes.map (·.id) ∧
        l.target ∈ ((resolver.assembly records).relabel ids).allNodes.map (·.id) := by
    have relabelled : ((resolver.assembly records).relabel ids).allNodes.map (·.id) =
        ((resolver.assembly records).allNodes.map (·.id)).map ids := by
      rw [allNodes_relabel, List.map_map, List.map_map]
      rfl
    intro l hl
    obtain ⟨link, known, rfl⟩ := List.mem_map.mp hl
    rw [relabelled]
    exact ⟨List.mem_map_of_mem (ends_known known).1, List.mem_map_of_mem (ends_known known).2⟩
  obtain ⟨_, _, assembled⟩ := graph_of_alike alike ends
  exact ⟨_, assembled⟩

end Assembly

/-- A build fails only for the shape of what it is given, and the records of whatever files always make
a graph, also under ids that do not tell nodes apart. -/
theorem build_fails_only_for_structure [Tools] (t : SourceTree) (config : BuildConfig) (root : BuildRoot)
    (previous : Option Snapshot)
    (room : ∀ old, previous = some old → old.version.toNat < 2 ^ 64 - 1) :
    ((∃ fault, t.build config root previous = .error fault) ↔
      t.isDirectory root.path = false ∨ ((∃ text ∈ config.exclude, Glob.ofText? text = none) ∨
        Tools.compiles (config.exclude.filterMap Glob.ofText?) = false) ∨
        ∃ d, t.discover config root = .ok d ∧ d.candidates = []) ∧
    (∀ fault, t.build config root previous = .error fault ↔
      fault.kind = .buildFailure ∧
        ∃ cause, fault = .buildFailure cause ∧ t.Unbuildable config root cause) ∧
    ((∀ cause, ¬ t.Unbuildable config root cause) → ∃ s, t.build config root previous = .ok s ∧
      (previous = none → s.version = 1) ∧
      ∀ old, previous = some old → s.version.toNat = old.version.toNat + 1) ∧
    ∀ listing crates records,
      (∃ g, (Assembly.ofRecords listing crates records).graph = .ok g) ∧
      ∀ ids, ∃ g, ((Assembly.ofRecords listing crates records).relabel ids).graph = .ok g := by
  refine ⟨?_, ?_, ?_, ?_⟩
  · rw [← SourceTree.exists_unbuildable_iff]
    constructor
    · rintro ⟨fault, failed⟩
      obtain ⟨cause, _, stopped⟩ := (SourceTree.build_error_iff room).mp failed
      exact ⟨cause, stopped⟩
    · rintro ⟨cause, stopped⟩
      exact ⟨_, stopped.build_eq previous⟩
  · intro fault
    rw [SourceTree.build_error_iff room]
    constructor
    · rintro ⟨cause, rfl, stopped⟩
      exact ⟨rfl, cause, rfl, stopped⟩
    · exact And.right
  · intro free
    cases result : t.build config root previous with
    | error fault =>
      obtain ⟨cause, _, stopped⟩ := (SourceTree.build_error_iff room).mp result
      exact absurd stopped (free cause)
    | ok s =>
      have version := SourceTree.version_of_build result
      refine ⟨s, rfl, ?_, ?_⟩
      · rintro rfl
        exact (Except.ok.inj version).symm
      · rintro old rfl
        exact nextVersion_eq_ok_iff.mp version
  · intro listing crates records
    constructor
    · obtain ⟨g, assembled, _⟩ := Assembly.graph_of_records ⟨listing, crates⟩ records
      exact ⟨g, assembled⟩
    · intro ids
      exact Assembly.graph_of_relabelled ids ⟨listing, crates⟩ records

open Scanners

theorem sample_builds_fail_only_for_structure :
    sampleTree.build sampleConfig ⟨"guide.md", "guide.md", "guide.md"⟩ none =
      .error (.buildFailure (.notDirectory "guide.md")) ∧
    sampleTree.build { sampleConfig with exclude := ["drafts/**", "[a", "[b"] } sampleRoot none =
      .error (.buildFailure (.badPattern "[a")) ∧
    sampleTree.build { sampleConfig with exclude := ["*"] } sampleRoot none =
      .error (.buildFailure (.nothingIndexable "sample")) ∧
    (∃ s, sampleTree.build sampleConfig sampleRoot (some sampleSnapshot) = .ok s ∧
      s.version.toNat = 2) ∧
    ∃ g, ((sampleResolver.assembly sampleRecords).relabel fun _ => ⟨7⟩).graph = .ok g ∧
      g.nodes.map Node.place = [(.external, "react")] ∧
      g.links.map Link.key = [(⟨7⟩, ⟨7⟩, .defines), (⟨7⟩, ⟨7⟩, .imports)] := by
  refine ⟨?_, ?_, ?_, ?_, ?_⟩
  · exact ((build_fails_only_for_structure _ _ _ none hasRoom_none).2.1 _).mpr
      ⟨rfl, _, rfl, .notDirectory (by decide +kernel)⟩
  · exact ((build_fails_only_for_structure _ _ _ none hasRoom_none).2.1 _).mpr
      ⟨rfl, _, rfl, .badPattern (by decide +kernel) (by decide +kernel)⟩
  · obtain ⟨fault, failed⟩ := (build_fails_only_for_structure sampleTree
      { sampleConfig with exclude := ["*"] } sampleRoot none hasRoom_none).1.mpr
        (.inr (.inr ⟨⟨[], [], [], .empty⟩, by decide +kernel, rfl⟩))
    obtain ⟨_, cause, rfl, stopped⟩ := ((build_fails_only_for_structure _ _ _ none hasRoom_none).2.1 _).mp failed
    cases stopped with
    | notDirectory absent => cases absent
    | badPattern _ bad =>
      have none : BuildConfig.unreadable? { sampleConfig with exclude := ["*"] } = none := by
        decide +kernel
      cases none.symm.trans bad
    | patternsTooLarge _ _ large => cases large
    | nothingIndexable => exact failed
  · have free : ∀ cause, ¬ sampleTree.Unbuildable sampleConfig sampleRoot cause := by
      intro cause stopped
      cases (stopped.build_eq none).symm.trans sample_built
    have first : sampleSnapshot.version.toNat = 1 := by decide +kernel
    have room : HasRoom (some sampleSnapshot) := hasRoom_some (by rw [first]; decide)
    obtain ⟨s, built, _, version⟩ := (build_fails_only_for_structure sampleTree sampleConfig sampleRoot
      (some sampleSnapshot) room).2.2.1 free
    exact ⟨s, built, (version _ rfl).trans (congrArg (· + 1) first)⟩
  · obtain ⟨g, assembled⟩ := ((build_fails_only_for_structure sampleTree sampleConfig sampleRoot
      none hasRoom_none).2.2.2 sampleResolver.listing sampleResolver.crates sampleRecords).2 fun _ => ⟨7⟩
    have listed : ((sampleResolver.assembly sampleRecords).relabel fun _ => ⟨7⟩).graph.toOption.map
        (fun g => (g.nodes.map Node.place, g.links.map Link.key)) =
          some ([(.external, "react")], [(⟨7⟩, ⟨7⟩, .defines), (⟨7⟩, ⟨7⟩, .imports)]) := by
      decide +kernel
    rw [assembled] at listed
    simp only [Except.toOption, Option.map_some, Option.some.injEq, Prod.mk.injEq] at listed
    exact ⟨g, assembled, listed.1, listed.2⟩

end SourceAtlas
