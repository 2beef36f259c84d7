import SourceAtlas.Proofs.Build.Incremental
import SourceAtlas.Proofs.Distinct
import SourceAtlas.Proofs.SourceTree.Edit

/-! What an edit of one file changes for a build. The walk, the listing and the crates do not depend on
what a file of the graph holds, so the builds before and after it have the same records but one. -/
namespace SourceAtlas

/-- The input after a file got another content. -/
def BuildInput.edit (i : BuildInput) (place : String) (content : Bytes) : BuildInput :=
  { i with tree := i.tree.overwrite place (.readable content) }

/-- Something else is known of the candidate of this path. -/
def Candidate.rewrite (path : String) (data : FileData) (c : Candidate) : Candidate :=
  { c with data := if c.path = path then data else c.data }

/-- The record of this path is given up for another one. -/
def Record.replace (after r : Record) : Record := if r.path = after.path then after else r

namespace Record

variable {after r : Record}

theorem replace_path (after r : Record) : (after.replace r).path = r.path := by
  unfold replace
  split
  · next same => exact same.symm
  · rfl

theorem replace_of_ne (other : r.path ≠ after.path) : after.replace r = r := if_neg other

theorem replace_of_eq (same : r.path = after.path) : after.replace r = after := if_pos same

end Record

namespace Discovery

variable {d : Discovery} {files : TextMap FileData} {path rootName : String} {data : FileData}

theorem kept_rewrite (excluded : List Glob) (visited : List (String × FileData)) :
    kept excluded (visited.map (rewrite path data)) =
      (kept excluded visited).alter fun k v => if k = path then data else v := by
  rw [kept, kept, TextMap.alter_ofList, List.filter_map]
  rfl

theorem crate_of_indexed {manifest : String} (indexed : (Language.ofPath manifest).indexed = true)
    (data : FileData) : crate? rootName files manifest data = none := by
  have other : Path.fileName manifest ≠ manifestFile := by
    intro named
    have text : baseName manifest.toList = manifestFile.toList := by
      rw [← named, Path.fileName, String.toList_ofList]
    rw [Language.ofPath, text] at indexed
    revert indexed
    decide
  simp [crate?, other]

theorem cratesOf_alter (indexed : (Language.ofPath path).indexed = true) :
    cratesOf rootName (files.alter fun k v => if k = path then data else v) =
      cratesOf rootName files := by
  -- A file of the graph is no manifest, and of other files a crate only asks whether they are there.
  have each : ∀ e ∈ files.entries,
      crate? rootName (files.alter fun k v => if k = path then data else v) e.1
        (if e.1 = path then data else e.2) = crate? rootName files e.1 e.2 := by
    rintro ⟨name, held⟩ _
    by_cases here : name = path
    · subst here
      rw [crate_of_indexed indexed, crate_of_indexed indexed]
    · simp only [crate?, TextMap.contains_alter, here, if_false]
  rw [cratesOf, cratesOf, TextMap.entries_alter, List.filterMap_map]
  refine congrArg TextMap.ofList (List.filterMap_congr ?_)
  intro e he
  simp only [Function.comp_apply]
  exact each e he

theorem indexedFiles_eq (files : TextMap FileData) : indexedFiles files =
    (files.entries.map fun e => Candidate.ofFile e.1 e.2).filter (·.language.indexed) := rfl

theorem indexed_of_mem {c : Candidate} (h : c ∈ indexedFiles files) :
    (Language.ofPath c.path).indexed = true := by
  rw [indexedFiles_eq, List.mem_filter, List.mem_map] at h
  obtain ⟨⟨e, _, rfl⟩, indexed⟩ := h
  exact indexed

theorem indexedFiles_alter :
    indexedFiles (files.alter fun k v => if k = path then data else v) =
      (indexedFiles files).map (Candidate.rewrite path data) := by
  have each : ((files.alter fun k v => if k = path then data else v).entries.map
      fun e => Candidate.ofFile e.1 e.2) =
        (files.entries.map fun e => Candidate.ofFile e.1 e.2).map
          (Candidate.rewrite path data) := by
    rw [TextMap.entries_alter, List.map_map, List.map_map]
    rfl
  rw [indexedFiles_eq, indexedFiles_eq, each, List.filter_map]
  rfl

theorem indexedFiles_ascending (files : TextMap FileData) :
    (indexedFiles files).Pairwise fun a b => a.path < b.path :=
  (List.pairwise_map.mpr files.ascending : (files.entries.map fun e =>
    Candidate.ofFile e.1 e.2).Pairwise fun a b => a.path < b.path).filter _

theorem candidates_ascending (limit : UInt64) (rootName : String) (files : TextMap FileData) :
    (ofFiles limit rootName files).candidates.Pairwise fun a b => a.path < b.path :=
  (indexedFiles_ascending files).filter _

theorem refusal_eq_none_iff {limit : UInt64} {c : Candidate} :
    refusal? limit c = none ↔ ∃ size, c.data.size = .ok size ∧ size ≤ limit := by
  unfold refusal?
  cases c.data.size <;> simp

/-- An edit that leaves a file among the candidates changes nothing but its candidate. -/
theorem ofFiles_alter {limit size : UInt64} {c : Candidate}
    (hc : c ∈ (ofFiles limit rootName files).candidates) (known : data.size = .ok size)
    (fits : size ≤ limit) :
    let after := ofFiles limit rootName
      (files.alter fun k v => if k = c.path then data else v)
    after.listing = (ofFiles limit rootName files).listing ∧
      after.crates = (ofFiles limit rootName files).crates ∧
      after.candidates =
        (ofFiles limit rootName files).candidates.map (Candidate.rewrite c.path data) := by
  obtain ⟨listed, small⟩ := List.mem_filter.mp hc
  refine ⟨?_, cratesOf_alter (indexed_of_mem listed), ?_⟩
  · simp only [ofFiles, TextMap.keys, TextMap.entries_alter, List.map_map]
    rfl
  · simp only [ofFiles, indexedFiles_alter, List.filter_map]
    congr 1
    apply List.filter_congr
    intro x hx
    by_cases here : x.path = c.path
    · have same : x = c := eq_of_ascending (indexedFiles_ascending files) hx listed here
      subst same
      have left : refusal? limit (Candidate.rewrite x.path data x) = none :=
        refusal_eq_none_iff.mpr ⟨size, by simpa [Candidate.rewrite] using known, fits⟩
      simpa [left] using small
    · simp [Candidate.rewrite, here]

end Discovery

section Builds

variable [Tools]

theorem SourceTree.discover_ok_iff {t : SourceTree} {config : BuildConfig} {root : BuildRoot}
    {d : Discovery} : t.discover config root = .ok d ↔
      ∃ excluded, config.excludeGlobs = .ok excluded ∧ d = .ofFiles config.maxFileSize root.name
        (Discovery.kept excluded (t.walk config.respectIgnoreFiles root.path)) := by
  simp only [discover, Discovery.ofVisited]
  cases config.excludeGlobs with
  | error fault => simp [bind, Except.bind]
  | ok excluded => simp [bind, Except.bind, pure, Except.pure, eq_comm]

namespace BuildInput

variable {i : BuildInput} {d : Discovery} {c : Candidate} {place : String} {content : Bytes}

theorem data_of_candidate (found : i.tree.discover i.config i.root = .ok d)
    (hc : c ∈ d.candidates) (below : Path.below? i.root.path place = some c.path) :
    i.tree.data? place = some c.data := by
  have seen := SourceTree.data_of_walk (Candidate.seen_of_discover found hc).1
  rwa [← Path.below_eq_some_iff.mp below] at seen

theorem indexed_of_candidate (found : i.tree.discover i.config i.root = .ok d)
    (hc : c ∈ d.candidates) : (Language.ofPath c.path).indexed = true := by
  obtain ⟨excluded, _, rfl⟩ := SourceTree.discover_ok_iff.mp found
  exact Discovery.indexed_of_mem (List.mem_filter.mp hc).1

theorem candidates_ascending (found : i.tree.discover i.config i.root = .ok d) :
    d.candidates.Pairwise fun a b => a.path < b.path := by
  obtain ⟨excluded, _, rfl⟩ := SourceTree.discover_ok_iff.mp found
  exact Discovery.candidates_ascending _ _ _

theorem discover_edit (found : i.tree.discover i.config i.root = .ok d) (hc : c ∈ d.candidates)
    (below : Path.below? i.root.path place = some c.path)
    (fits : UInt64.ofNat content.length ≤ i.config.maxFileSize) :
    ∃ d', (i.edit place content).tree.discover i.config i.root = .ok d' ∧
      d'.listing = d.listing ∧ d'.crates = d.crates ∧
      d'.candidates = d.candidates.map (Candidate.rewrite c.path (.readable content)) := by
  have known := data_of_candidate found hc below
  have indexed := indexed_of_candidate found hc
  obtain ⟨excluded, globs, rfl⟩ := SourceTree.discover_ok_iff.mp found
  refine ⟨_, SourceTree.discover_ok_iff.mpr ⟨excluded, globs, rfl⟩, ?_⟩
  rw [edit, SourceTree.walk_overwrite known below indexed, Discovery.kept_rewrite]
  exact Discovery.ofFiles_alter hc rfl fits

end BuildInput

namespace Discovery

variable {d d' : Discovery} {c : Candidate} {before after r : Record} {data : FileData}

theorem records_none (d : Discovery) :
    d.records none = d.candidates.filterMap fun c => c.parse.record? := by
  rw [records, outcomes, List.filterMap_map]
  rfl

theorem mem_records_iff : r ∈ d.records none ↔ ∃ c ∈ d.candidates, c.parse = .parsed r := by
  rw [records_none, List.mem_filterMap]
  constructor
  · rintro ⟨c, hc, made⟩
    exact ⟨c, hc, Candidate.parse_of_record made⟩
  · rintro ⟨c, hc, made⟩
    exact ⟨c, hc, by rw [made]; rfl⟩

theorem records_ascending (ordered : d.candidates.Pairwise fun a b => a.path < b.path) :
    (d.records none).Pairwise fun a b => a.path < b.path := by
  rw [records_none, List.pairwise_filterMap]
  refine ordered.imp ?_
  intro a b below x hx y hy
  rw [(Candidate.parsed_of_parse (Candidate.parse_of_record hx)).1,
    (Candidate.parsed_of_parse (Candidate.parse_of_record hy)).1]
  exact below

/-- Another candidate of one path is another record in the same place. -/
theorem records_rewrite (ordered : d.candidates.Pairwise fun a b => a.path < b.path)
    (hc : c ∈ d.candidates) (was : c.parse = .parsed before)
    (now : (Candidate.rewrite c.path data c).parse = .parsed after)
    (same : d'.candidates = d.candidates.map (Candidate.rewrite c.path data)) :
    d'.records none = (d.records none).map after.replace := by
  have named : after.path = c.path := (Candidate.parsed_of_parse now).1
  rw [records_none, records_none, same, List.filterMap_map, List.map_filterMap]
  apply List.filterMap_congr
  intro x hx
  by_cases here : x.path = c.path
  · cases eq_of_ascending ordered hx hc here
    have old : before.path = after.path := (Candidate.parsed_of_parse was).1.trans named.symm
    simp [was, now, FileOutcome.record?, Record.replace_of_eq old]
  · have kept : Candidate.rewrite c.path data x = x := by simp [Candidate.rewrite, here]
    rw [Function.comp_apply, kept]
    cases made : x.parse.record? with
    | none => rfl
    | some r =>
      have other : r.path ≠ after.path := by
        rw [named, (Candidate.parsed_of_parse (Candidate.parse_of_record made)).1]
        exact here
      rw [Option.map_some, Record.replace_of_ne other]

end Discovery

/-- What two discoveries around an edit of one file have in common. -/
structure Discovery.Edited (before after : Record) (d d' : Discovery) : Prop where
  listing : d'.listing = d.listing
  crates : d'.crates = d.crates
  path : after.path = before.path
  only : ∀ r ∈ d.records none, r.path = after.path → r = before
  records : d'.records none = (d.records none).map after.replace

namespace BuildInput

variable {i : BuildInput} {d : Discovery} {before : Record} {place : String} {content : Bytes}

theorem isDirectory_edit (found : i.tree.discover i.config i.root = .ok d)
    (hbefore : before ∈ d.records none)
    (below : Path.below? i.root.path place = some before.path) (path : String) :
    (i.edit place content).tree.isDirectory path = i.tree.isDirectory path := by
  obtain ⟨c, hc, was⟩ := Discovery.mem_records_iff.mp hbefore
  rw [(Candidate.parsed_of_parse was).1] at below
  exact SourceTree.isDirectory_overwrite (data_of_candidate found hc below) path

/-- A content that is not too large and can be parsed has a record again. -/
theorem exists_edited (found : i.tree.discover i.config i.root = .ok d)
    (hbefore : before ∈ d.records none)
    (below : Path.below? i.root.path place = some before.path)
    (fits : UInt64.ofNat content.length ≤ i.config.maxFileSize) {e : Extraction}
    (extracts : (Candidate.ofFile before.path (.readable content)).Extracts content e) :
    ∃ d' after, (i.edit place content).tree.discover i.config i.root = .ok d' ∧
      d'.candidates ≠ [] ∧ after ∈ d'.records none ∧ Discovery.Edited before after d d' := by
  obtain ⟨c, hc, was⟩ := Discovery.mem_records_iff.mp hbefore
  have named : before.path = c.path := (Candidate.parsed_of_parse was).1
  rw [named] at below extracts
  obtain ⟨d', found', listing, crates, candidates⟩ := discover_edit found hc below fits
  obtain ⟨after, now⟩ : ∃ after, (Candidate.ofFile c.path (.readable content)).parse = .parsed after :=
    ⟨_, Candidate.parse_eq_parsed_iff.mpr ⟨content, e, extracts, rfl⟩⟩
  have ordered := candidates_ascending found
  have rewritten :
      Candidate.rewrite c.path (.readable content) c = .ofFile c.path (.readable content) := by
    rw [(Candidate.seen_of_discover found hc).2]
    simp [Candidate.rewrite, Candidate.ofFile]
  have records : d'.records none = (d.records none).map after.replace :=
    Discovery.records_rewrite ordered hc was (rewritten ▸ now) candidates
  have path : after.path = before.path := (Candidate.parsed_of_parse now).1.trans named.symm
  refine ⟨d', after, found', ?_, ?_, listing, crates, path, ?_, records⟩
  · rw [candidates, Ne, List.map_eq_nil_iff]
    exact List.ne_nil_of_mem hc
  · rw [records]
    exact List.mem_map.mpr ⟨before, hbefore, Record.replace_of_eq path.symm⟩
  · intro r hr same
    exact eq_of_ascending (Discovery.records_ascending ordered) hr hbefore (same.trans path)

end BuildInput

end Builds

end SourceAtlas
