import SourceAtlas.Proofs.Build.Conservation

/-! The order in which a walk comes to its files. Files are judged one after the other as they come, so
candidates and warnings are first gathered in the order of the walk. All that a build makes of them is
sorted by path before it is used, and the paths of a walk are all different. -/
namespace SourceAtlas

/-- What a walk has come to so far. -/
structure Gathering where
  /-- The listing, with what is known of each file. -/
  files : TextMap FileData
  candidates : List Candidate
  warnings : List Warning

def Candidate.le (a b : Candidate) : Bool := a.path ≤ b.path

namespace Gathering

def start : Gathering := ⟨.empty, [], []⟩

def visit (limit : UInt64) (excluded : List Glob) (g : Gathering) (file : String × FileData) :
    Gathering :=
  let c := Candidate.ofFile file.1 file.2
  if Glob.anyMatch excluded file.1 then g
  else
    let files := g.files.insert file.1 file.2
    if !c.language.indexed then { g with files }
    else
      match Discovery.refusal? limit c with
      | some warning => { g with files, warnings := g.warnings ++ [warning] }
      | none => { g with files, candidates := g.candidates ++ [c] }

def discovery (rootName : String) (g : Gathering) : Discovery where
  listing := g.files.keys
  candidates := g.candidates.mergeSort Candidate.le
  warnings := g.warnings
  crates := Discovery.cratesOf rootName g.files

end Gathering

namespace Discovery

/-- The discovery of files that are visited in this order. -/
def inOrder [Tools] (config : BuildConfig) (rootName : String) (visited : List (String × FileData)) :
    Except BuildFault Discovery := do
  let excluded ← config.excludeGlobs
  return (visited.foldl (Gathering.visit config.maxFileSize excluded) .start).discovery rootName

/-- The visited files in a language of the graph, in the order of the visits. -/
def visitedCandidates (excluded : List Glob) (visited : List (String × FileData)) : List Candidate :=
  ((visited.filter fun file => !Glob.anyMatch excluded file.1).map fun file =>
    Candidate.ofFile file.1 file.2).filter (·.language.indexed)

end Discovery

namespace Gathering

theorem foldl_visit (limit : UInt64) (excluded : List Glob) (g : Gathering)
    (visited : List (String × FileData)) : visited.foldl (visit limit excluded) g =
      { files := (visited.filter fun file => !Glob.anyMatch excluded file.1).foldl
          (fun m e => m.insert e.1 e.2) g.files
        candidates := g.candidates ++ (Discovery.visitedCandidates excluded visited).filter
          fun c => (Discovery.refusal? limit c).isNone
        warnings := g.warnings ++ (Discovery.visitedCandidates excluded visited).filterMap
          (Discovery.refusal? limit) } := by
  induction visited generalizing g with
  | nil => simp [Discovery.visitedCandidates]
  | cons file rest ih =>
    rw [List.foldl_cons, ih]
    by_cases out : Glob.anyMatch excluded file.1 = true
    · simp [visit, Discovery.visitedCandidates, out]
    · by_cases other : (Candidate.ofFile file.1 file.2).language.indexed = true
      · cases refused : Discovery.refusal? limit (Candidate.ofFile file.1 file.2) with
        | some warning => simp [visit, Discovery.visitedCandidates, out, other, refused]
        | none => simp [visit, Discovery.visitedCandidates, out, other, refused]
      · simp [visit, Discovery.visitedCandidates, out, other]

end Gathering

/-- One discovery is the other one but for the order of its warnings. -/
structure Discovery.Alike (d e : Discovery) : Prop where
  listing : d.listing = e.listing
  candidates : d.candidates = e.candidates
  crates : d.crates = e.crates
  warnings : d.warnings.Perm e.warnings

section Visits

variable {limit : UInt64} {excluded : List Glob} {visited : List (String × FileData)}

theorem Discovery.indexedFiles_perm (once : (visited.map (·.1)).Nodup) (excluded : List Glob) :
    (indexedFiles (kept excluded visited)).Perm (visitedCandidates excluded visited) := by
  have paths : ((visited.filter fun file => !Glob.anyMatch excluded file.1).map (·.1)).Nodup :=
    (List.filter_sublist.map _).nodup once
  exact ((TextMap.perm_ofList paths).map _).filter _

theorem Gathering.discovery_alike (once : (visited.map (·.1)).Nodup) (limit : UInt64)
    (excluded : List Glob) (rootName : String) :
    ((visited.foldl (visit limit excluded) start).discovery rootName).Alike
      (.ofFiles limit rootName (Discovery.kept excluded visited)) := by
  have found := Discovery.indexedFiles_perm once excluded
  rw [foldl_visit]
  constructor
  case listing => rfl
  case candidates =>
    exact mergeSort_eq_of_ascending (Discovery.candidates_ascending limit rootName _)
      (found.symm.filter _)
  case crates => rfl
  case warnings => exact found.symm.filterMap _

theorem Discovery.refusedPaths_sublist [Tools] (d : Discovery) (previous : Option Snapshot) :
    ((d.refused previous).map (·.path)).Sublist (d.candidates.map (·.path)) := by
  have own : ∀ c : Candidate, ∀ w, (c.process previous).warning? = some w → w.path = c.path := by
    intro c w warned
    unfold Candidate.process at warned
    split at warned
    · cases warned
    · rcases c.parse_cases with ⟨_, _, _, outcome⟩ | ⟨_, message, outcome⟩
      · rw [outcome] at warned
        cases warned
      · rw [outcome] at warned
        cases warned
        rfl
  rw [refused, outcomes, List.filterMap_map]
  induction d.candidates with
  | nil => exact .slnil
  | cons c rest ih =>
    rw [List.filterMap_cons]
    split
    · exact ih.cons _
    · next w warned =>
      rw [List.map_cons, List.map_cons, own c w warned]
      exact ih.cons_cons _

theorem Discovery.warningPaths_nodup [Tools] (limit : UInt64) (rootName : String) (files : TextMap FileData)
    (previous : Option Snapshot) : (((ofFiles limit rootName files).warnings ++
      (ofFiles limit rootName files).refused previous).map (·.path)).Nodup := by
  have once : ((indexedFiles files).map (·.path)).Nodup := by
    refine List.pairwise_map.mpr ((indexedFiles_ascending files).imp ?_)
    intro a b below same
    exact String.lt_irrefl _ (same ▸ below)
  have both : (((indexedFiles files).filter fun c => !(refusal? limit c).isNone).map (·.path) ++
      (ofFiles limit rootName files).candidates.map (·.path)).Nodup := by
    rw [← List.map_append]
    exact ((List.perm_append_comm.trans (List.filter_append_perm _ _)).map _).nodup_iff.mpr once
  have refused : (ofFiles limit rootName files).warnings.map (·.path) =
      ((indexedFiles files).filter fun c => !(refusal? limit c).isNone).map (·.path) := by
    rw [ofFiles, ← List.filterMap_eq_map, ← List.filterMap_eq_map, List.filterMap_filterMap,
      List.filterMap_filter]
    apply List.filterMap_congr
    intro c _
    cases why : refusal? limit c with
    | none => simp
    | some warning => simp [Candidate.refusal_path why]
  rw [List.map_append, refused]
  exact ((ofFiles limit rootName files).refusedPaths_sublist previous).append_left _ |>.nodup both

/-- A build sorts its warnings, so their order before does not show. -/
theorem Discovery.Alike.build_eq [Tools] {d e : Discovery} (alike : d.Alike e) {previous : Option Snapshot}
    (once : ((e.warnings ++ e.refused previous).map (·.path)).Nodup) :
    d.build previous = e.build previous := by
  have outcomes : d.outcomes previous = e.outcomes previous := by
    rw [Discovery.outcomes, Discovery.outcomes, alike.candidates]
  have records : d.records previous = e.records previous := by
    rw [Discovery.records, Discovery.records, outcomes]
  have refused : d.refused previous = e.refused previous := by
    rw [Discovery.refused, Discovery.refused, outcomes]
  have sorted : (d.warnings ++ d.refused previous).mergeSort Warning.le =
      (e.warnings ++ e.refused previous).mergeSort Warning.le := by
    rw [refused]
    exact mergeSort_eq_of_perm_keys once (alike.warnings.append_right _)
  have stats : d.stats previous = e.stats previous := by
    simp only [Discovery.stats, Discovery.skipped, alike.candidates, alike.listing, alike.crates,
      alike.warnings.length_eq, outcomes, records, refused]
  have snapshot : d.snapshot previous = e.snapshot previous := by
    funext version g
    rw [Discovery.snapshot, Discovery.snapshot, records, sorted, stats]
  rw [Discovery.build_eq, Discovery.build_eq, records, alike.listing, alike.crates, snapshot]

end Visits

namespace SourceTree

theorem walkPaths_nodup (t : SourceTree) (respect : Bool) (root : String) :
    ((t.walk respect root).map (·.1)).Nodup := by
  have files : t.files.Pairwise fun a b => a.1 ≠ b.1 := by
    refine List.pairwise_filterMap.mpr (t.entries.ascending.imp ?_)
    rintro ⟨p, x⟩ ⟨q, y⟩ below a ha b hb
    cases x with
    | directory => cases ha
    | file held =>
      cases y with
      | directory => cases hb
      | file other =>
        cases ha
        cases hb
        rintro rfl
        exact String.lt_irrefl _ below
  refine List.pairwise_map.mpr (List.pairwise_filterMap.mpr (files.imp ?_))
  rintro ⟨p, x⟩ ⟨q, y⟩ differ a ha b hb same
  obtain ⟨name, below, visited⟩ := Option.bind_eq_some_iff.mp ha
  obtain ⟨name', below', visited'⟩ := Option.bind_eq_some_iff.mp hb
  split at visited
  · split at visited'
    · cases visited
      cases visited'
      cases (same : name = name')
      exact differ ((Path.below_eq_some_iff.mp below).trans (Path.below_eq_some_iff.mp below').symm)
    · cases visited'
  · cases visited

/-- The build of a directory whose files are visited in this order. -/
def buildInOrder [Tools] (t : SourceTree) (config : BuildConfig) (root : BuildRoot)
    (visited : List (String × FileData)) (previous : Option Snapshot) : Except Fault Snapshot :=
  if !t.isDirectory root.path then .error (.buildFailure (.notDirectory root.title))
  else
    match Discovery.inOrder config root.name visited with
    | .error cause => .error (.buildFailure cause)
    | .ok d =>
      if d.candidates.isEmpty then .error (.buildFailure (.nothingIndexable root.title))
      else d.build previous

end SourceTree

/-- What a discovery tells of its files, but for the warnings, which a build puts in order. -/
def Discovery.facts (d : Discovery) : List String × List Candidate × TextMap String × Nat :=
  (d.listing, d.candidates, d.crates, d.skipped)

section Orders

variable {t : SourceTree} {config : BuildConfig} {root : BuildRoot} {visited : List (String × FileData)}

theorem Discovery.inOrder_cases [Tools] (comes : visited.Perm (t.walk config.respectIgnoreFiles root.path)) :
    (∃ cause, inOrder config root.name visited = .error cause ∧ t.discover config root = .error cause) ∨
      ∃ d e, inOrder config root.name visited = .ok d ∧ t.discover config root = .ok e ∧ d.Alike e ∧
        ∀ previous, ((e.warnings ++ e.refused previous).map (·.path)).Nodup := by
  have once : (visited.map (·.1)).Nodup :=
    (comes.map _).nodup_iff.mpr (t.walkPaths_nodup _ _)
  unfold inOrder
  cases globs : config.excludeGlobs with
  | error cause =>
    refine .inl ⟨cause, rfl, ?_⟩
    simp [SourceTree.discover, ofVisited, globs, bind, Except.bind]
  | ok excluded =>
    have same : kept excluded visited = t.keptFiles config root excluded :=
      TextMap.ofList_eq_of_perm ((List.filter_sublist.map _).nodup (t.walkPaths_nodup _ _))
        (comes.filter _)
    have alike := Gathering.discovery_alike once config.maxFileSize excluded root.name
    rw [same] at alike
    exact .inr ⟨_, _, rfl, SourceTree.discover_ok_iff.mpr ⟨excluded, globs, rfl⟩, alike,
      warningPaths_nodup _ _ _⟩

theorem SourceTree.inOrder_eq [Tools] (comes : visited.Perm (t.walk config.respectIgnoreFiles root.path))
    (previous : Option Snapshot) :
    (Discovery.inOrder config root.name visited).map Discovery.facts =
        (t.discover config root).map Discovery.facts ∧
      t.buildInOrder config root visited previous = t.build config root previous := by
  unfold buildInOrder build
  rcases Discovery.inOrder_cases comes with ⟨cause, one, other⟩ | ⟨d, e, one, other, alike, once⟩
  · rw [one, other]
    exact ⟨rfl, rfl⟩
  · rw [one, other]
    constructor
    · simp only [Except.map, Discovery.facts, Discovery.skipped, alike.listing, alike.candidates,
        alike.crates, alike.warnings.length_eq]
    · simp only [alike.candidates, alike.build_eq (once previous)]

end Orders

/-- Whatever the order in which a walk comes to its files, they are discovered and built alike. -/
theorem walk_order_is_immaterial [Tools] (t : SourceTree) (config : BuildConfig) (root : BuildRoot)
    (previous : Option Snapshot) {one other : List (String × FileData)}
    (comes : one.Perm (t.walk config.respectIgnoreFiles root.path))
    (comes' : other.Perm (t.walk config.respectIgnoreFiles root.path)) :
    (Discovery.inOrder config root.name one).map Discovery.facts =
        (Discovery.inOrder config root.name other).map Discovery.facts ∧
      t.buildInOrder config root one previous = t.buildInOrder config root other previous ∧
      (Discovery.inOrder config root.name one).map Discovery.facts =
        (t.discover config root).map Discovery.facts ∧
      t.buildInOrder config root one previous = t.build config root previous := by
  obtain ⟨facts, built⟩ := SourceTree.inOrder_eq comes previous
  obtain ⟨facts', built'⟩ := SourceTree.inOrder_eq comes' previous
  exact ⟨facts.trans facts'.symm, built.trans built'.symm, facts, built⟩

open Scanners

theorem crowded_walk_order_is_immaterial :
    ((crowdedTree.walk true "").reverse.map (·.1) =
        ["part.h", "notes.md", "locked.md", "large.md", "guide.md", "drafts/plan.md", "broken.py"] ∧
      (crowdedTree.walk true "").reverse.Perm (crowdedTree.walk true "")) ∧
    crowdedTree.buildInOrder sampleConfig sampleRoot (crowdedTree.walk true "").reverse none =
      crowdedTree.buildInOrder sampleConfig sampleRoot (crowdedTree.walk true "") none ∧
    ∃ s, crowdedTree.buildInOrder sampleConfig sampleRoot (crowdedTree.walk true "").reverse none =
        .ok s ∧
      s.records.keys = ["guide.md", "notes.md", "part.h"] := by
  have comes : (crowdedTree.walk true "").reverse.Perm (crowdedTree.walk true "") :=
    List.reverse_perm _
  obtain ⟨_, same, _, built⟩ := walk_order_is_immaterial crowdedTree sampleConfig sampleRoot none comes
    (.refl _)
  have told : (crowdedTree.build sampleConfig sampleRoot none).toOption.map (·.records.keys) =
      some ["guide.md", "notes.md", "part.h"] := by
    decide +kernel
  refine ⟨⟨by decide +kernel, comes⟩, same, ?_⟩
  rw [built]
  cases result : crowdedTree.build sampleConfig sampleRoot none with
  | error fault =>
    rw [result] at told
    cases told
  | ok s =>
    rw [result] at told
    exact ⟨s, rfl, Option.some.inj told⟩

end SourceAtlas
