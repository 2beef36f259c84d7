import SourceAtlas.Proofs.Build.Parts
import SourceAtlas.Proofs.Snapshot.RoundTrip

/-! Builds on top of earlier snapshots. Every record that came down from earlier builds, stored and
read back or not, is what parsing says of a content that one of these builds saw. If a fingerprint
tells the contents of a path apart, taking up such a record is parsing the file again. -/
namespace SourceAtlas

structure BuildInput where
  tree : SourceTree
  config : BuildConfig
  root : BuildRoot

section Builds

variable [Tools]

namespace BuildInput

def build (i : BuildInput) (previous : Option Snapshot) : Except Fault Snapshot :=
  i.tree.build i.config i.root previous

/-- The files that are visited. -/
def files (i : BuildInput) : List (String × FileData) :=
  i.tree.walk i.config.respectIgnoreFiles i.root.path

/-- What the visited files hold, as far as they can be read. -/
def contents (i : BuildInput) : List (String × Bytes) :=
  i.files.filterMap fun (name, data) => data.content?.map (name, ·)

omit [Tools] in
theorem mem_contents_iff {i : BuildInput} {name : String} {content : Bytes} :
    (name, content) ∈ i.contents ↔ (name, .readable content) ∈ i.files := by
  simp only [contents, List.mem_filterMap, Prod.exists, Option.map_eq_some_iff,
    FileData.content?_eq_some_iff, Prod.mk.injEq]
  constructor
  · rintro ⟨_, _, listed, _, rfl, rfl, rfl⟩
    exact listed
  · intro listed
    exact ⟨_, _, listed, _, rfl, rfl, rfl⟩

end BuildInput

/-- Two contents of one path never have the same fingerprint. -/
def Discerned (inputs : List BuildInput) : Prop :=
  ∀ i ∈ inputs, ∀ j ∈ inputs, ∀ a ∈ i.contents, ∀ b ∈ j.contents,
    a.1 = b.1 → Fingerprint.of a.2 = Fingerprint.of b.2 → a.2 = b.2

/-- Snapshots that come from builds of these inputs, in any order and any number, each on top of any
of the others or of none. In between they may be stored in some tree and read back from a tree that
still has the stored file. No machine holds bytes that a 64-bit word cannot count, and none builds that
often: the last version stays out of reach. -/
inductive Lineage (inputs : List BuildInput) : Snapshot → Prop where
  | build {i : BuildInput} {previous : Option Snapshot} {s : Snapshot} : i ∈ inputs →
      (∀ p, previous = some p → Lineage inputs p) → i.build previous = .ok s →
      s.version.toNat < 2 ^ 64 - 1 → Lineage inputs s
  | reload {s r : Snapshot} {t stored later : SourceTree} : Lineage inputs s →
      s.toBytes.length < 2 ^ 64 → t.save s = (stored, none) →
      later.content? SourceTree.snapshotPath = stored.content? SourceTree.snapshotPath →
      later.load = .ok (some r) → Lineage inputs r

def Candidate.ofFile (path : String) (data : FileData) : Candidate :=
  ⟨path, Language.ofPath path, data⟩

/-- The record is what parsing says of a file that was seen. -/
def Record.ComesFrom (inputs : List BuildInput) (r : Record) : Prop :=
  ∃ i ∈ inputs, ∃ content, (r.path, content) ∈ i.contents ∧
    (Candidate.ofFile r.path (.readable content)).parse = .parsed r

/-- What carries through a lineage. -/
structure Snapshot.Traced (inputs : List BuildInput) (s : Snapshot) : Prop where
  wellFormed : s.graph.WellFormed
  keyed : s.Keyed
  below : s.version.toNat < 2 ^ 64 - 1
  records : ∀ e ∈ s.records.entries, e.2.ComesFrom inputs

namespace Candidate

variable {c : Candidate} {r : Record} {inputs : List BuildInput} {previous : Snapshot}

/-- What a candidate holds is a text that is parsed with this result. -/
def Extracts (c : Candidate) (content : Bytes) (e : Extraction) : Prop :=
  c.data = .readable content ∧ ∃ source, Text.ofUtf8? content = some source ∧
    Extraction.ofSource? c.language c.path source = some (.ok e)

/-- Parsing makes a record of what is extracted, and skips the candidate if there is no such thing. -/
theorem parse_cases (c : Candidate) :
    (∃ content e, c.Extracts content e ∧ c.parse = .parsed (c.record content e)) ∨
      (∀ content e, ¬ c.Extracts content e) ∧ ∃ message, c.parse = c.skip message := by
  cases data : c.data with
  | unreadable size cause | unknown cause =>
    refine .inr ⟨?_, _, by rw [parse, data]⟩
    rintro content e ⟨held, _⟩
    cases data.symm.trans held
  | readable content =>
    cases text : Text.ofUtf8? content with
    | none =>
      refine .inr ⟨?_, "file is not valid UTF-8", by simp only [parse, data, parseContent, text]⟩
      rintro _ e ⟨held, source, decoded, _⟩
      cases data.symm.trans held
      cases text.symm.trans decoded
    | some source =>
      have only : ∀ content' e, c.Extracts content' e →
          Extraction.ofSource? c.language c.path source = some (.ok e) := by
        rintro _ e ⟨held, _, decoded, extracted⟩
        cases data.symm.trans held
        cases text.symm.trans decoded
        exact extracted
      cases result : Extraction.ofSource? c.language c.path source with
      | none =>
        refine .inr ⟨?_, "no extractor for " ++ c.language.title,
          by simp only [parse, data, parseContent, text, result]⟩
        intro _ e extracts
        cases result.symm.trans (only _ e extracts)
      | some made =>
        cases made with
        | error cause =>
          refine .inr ⟨?_, "cannot parse: " ++ cause,
            by simp only [parse, data, parseContent, text, result]⟩
          intro _ e extracts
          cases result.symm.trans (only _ e extracts)
        | ok e =>
          refine .inl ⟨content, e, ⟨data, source, text, result⟩, ?_⟩
          simp only [parse, data, parseContent, text, result]

theorem Extracts.unique {content content' : Bytes} {e e' : Extraction} (h : c.Extracts content e)
    (h' : c.Extracts content' e') : content = content' ∧ e = e' := by
  obtain ⟨data, source, text, result⟩ := h
  obtain ⟨data', source', text', result'⟩ := h'
  cases data.symm.trans data'
  cases text.symm.trans text'
  cases result.symm.trans result'
  exact ⟨rfl, rfl⟩

theorem parse_eq_parsed_iff :
    c.parse = .parsed r ↔ ∃ content e, c.Extracts content e ∧ r = c.record content e := by
  rcases c.parse_cases with ⟨content, e, extracts, outcome⟩ | ⟨never, message, outcome⟩
  · rw [outcome, FileOutcome.parsed.injEq]
    constructor
    · rintro rfl
      exact ⟨content, e, extracts, rfl⟩
    · rintro ⟨content', e', extracts', rfl⟩
      obtain ⟨rfl, rfl⟩ := extracts.unique extracts'
      rfl
  · rw [outcome]
    constructor
    · rintro ⟨⟩
    · rintro ⟨content, e, extracts, _⟩
      exact absurd extracts (never content e)

theorem parsed_of_parse (h : c.parse = .parsed r) :
    r.path = c.path ∧ ∃ content, c.data = .readable content ∧ r.fingerprint = Fingerprint.of content := by
  obtain ⟨content, _, ⟨data, _⟩, rfl⟩ := parse_eq_parsed_iff.mp h
  exact ⟨rfl, content, data, rfl⟩

/-- Parsing looks at no earlier record. -/
theorem parse_of_record (h : c.parse.record? = some r) : c.parse = .parsed r := by
  rcases c.parse_cases with ⟨_, _, _, outcome⟩ | ⟨_, _, outcome⟩
  · rw [outcome] at h ⊢
    cases h
    rfl
  · rw [outcome] at h
    cases h

theorem seen_of_discover {i : BuildInput} {d : Discovery}
    (h : i.tree.discover i.config i.root = .ok d) (hc : c ∈ d.candidates) :
    (c.path, c.data) ∈ i.files ∧ c = ofFile c.path c.data := by
  simp only [SourceTree.discover, Discovery.ofVisited] at h
  cases globs : i.config.excludeGlobs with
  | error fault => simp [globs, bind, Except.bind] at h
  | ok excluded =>
    simp only [globs, bind, Except.bind, pure, Except.pure, Except.ok.injEq] at h
    subst h
    simp only [Discovery.ofFiles, Discovery.indexedFiles, List.mem_filter, List.mem_map] at hc
    obtain ⟨⟨⟨⟨path, data⟩, listed, rfl⟩, _⟩, _⟩ := hc
    exact ⟨(List.mem_filter.mp (TextMap.mem_of_mem_ofList listed)).1, rfl⟩

/-- A record that is still good is what parsing the file would give. -/
theorem parse_of_reusable (discerned : Discerned inputs) (traced : previous.Traced inputs)
    {i : BuildInput} (hi : i ∈ inputs) (seen : (c.path, c.data) ∈ i.files)
    (shape : c = ofFile c.path c.data) (reuse : c.reusable? (some previous) = some r) :
    c.parse = .parsed r := by
  obtain ⟨found, same⟩ := Option.filter_eq_some_iff.mp reuse
  simp only [isSourceOf, Option.any_eq_true, FileData.content?_eq_some_iff, Bool.and_eq_true,
    decide_eq_true_eq] at same
  obtain ⟨content, data, fingerprint, _⟩ := same
  have entry : (c.path, r) ∈ previous.records.entries := TextMap.mem_entries_iff.mpr found
  have path : c.path = r.path := traced.keyed _ entry
  obtain ⟨j, hj, old, before, parsed⟩ := traced.records _ entry
  obtain ⟨_, _, data', made⟩ := parsed_of_parse parsed
  cases data'
  rw [data] at seen
  have equal : content = old := discerned i hi j hj _ (BuildInput.mem_contents_iff.mpr seen) _ before path
    (fingerprint.symm.trans made)
  rw [shape, data, equal, path]
  exact parsed

end Candidate

namespace FileOutcome

def Alike (a b : FileOutcome) : Prop := a.record? = b.record? ∧ a.warning? = b.warning?

omit [Tools] in
theorem countP_parsed_add_reused (outcomes : List FileOutcome) :
    outcomes.countP isParsed + outcomes.countP isReused = (outcomes.filterMap record?).length := by
  induction outcomes with
  | nil => rfl
  | cons o rest ih =>
    cases o with
    | reused r =>
      simp [List.countP_cons, isParsed, isReused, record?]
      omega
    | parsed r =>
      simp [List.countP_cons, isParsed, isReused, record?]
      omega
    | skipped w => simpa [List.filterMap_cons, isParsed, isReused, record?] using ih

end FileOutcome

/-- What two builds of one input have in common. They may differ in the version and in how many
records were taken up and how many were made. -/
structure SameBuild (a b : Snapshot) : Prop where
  graph : a.graph = b.graph
  records : a.records = b.records
  warnings : a.warnings = b.warnings
  filesSeen : a.stats.filesSeen = b.stats.filesSeen
  skipped : a.stats.skipped = b.stats.skipped
  unresolved : a.stats.unresolved = b.stats.unresolved
  taken : a.stats.parsed + a.stats.reused = b.stats.parsed + b.stats.reused

/-- Two builds that both succeed with the same parts, or fail with the same fault. -/
inductive Agree : Except Fault Snapshot → Except Fault Snapshot → Prop where
  | built {a b : Snapshot} : SameBuild a b → Agree (.ok a) (.ok b)
  | failed (fault : Fault) : Agree (.error fault) (.error fault)

namespace Discovery

variable {d : Discovery} {previous : Option Snapshot}

theorem parsed_add_reused (d : Discovery) (previous : Option Snapshot) :
    (d.stats previous).parsed + (d.stats previous).reused =
      .ofNat (d.records previous).length := by
  simp only [stats, records, ← FileOutcome.countP_parsed_add_reused, UInt64.ofNat_add]

/-- A build depends on the previous snapshot through the records and refusals only, as long as there is a
version for it. -/
theorem build_agrees (room : HasRoom previous) (records : d.records previous = d.records none)
    (refused : d.refused previous = d.refused none) : Agree (d.build previous) (d.build none) := by
  obtain ⟨version, next⟩ := room.exists_version
  rw [build_eq, build_eq, records, next]
  cases assembled : (Assembly.ofRecords d.listing d.crates (d.records none)).graph with
  | error fault => exact .failed fault
  | ok g =>
    apply Agree.built
    constructor
    case graph => rfl
    case records => simp only [snapshot, Snapshot.new, records]
    case warnings => simp only [snapshot, Snapshot.new, refused]
    case filesSeen => rfl
    case skipped => simp only [snapshot, Snapshot.new, stats, refused]
    case unresolved => simp only [snapshot, Snapshot.new, stats, records]
    case taken =>
      simp only [snapshot, Snapshot.new]
      rw [parsed_add_reused, parsed_add_reused, records]

theorem record_comesFrom {inputs : List BuildInput} {i : BuildInput} (hi : i ∈ inputs)
    (found : i.tree.discover i.config i.root = .ok d) {r : Record} (hr : r ∈ d.records none) :
    r.ComesFrom inputs := by
  simp only [records, outcomes, List.filterMap_map, List.mem_filterMap] at hr
  obtain ⟨c, hc, result⟩ := hr
  obtain ⟨seen, shape⟩ := Candidate.seen_of_discover found hc
  have parsed : c.parse = .parsed r := Candidate.parse_of_record result
  obtain ⟨path, content, data, _⟩ := Candidate.parsed_of_parse parsed
  rw [data] at seen shape
  refine ⟨i, hi, content, BuildInput.mem_contents_iff.mpr (path ▸ seen), ?_⟩
  rw [path, ← shape]
  exact parsed

end Discovery

namespace Snapshot.Traced

variable {inputs : List BuildInput} {previous s : Snapshot} {i : BuildInput}

/-- Candidate by candidate, a traced snapshot changes neither record nor refusal. -/
theorem alike (discerned : Discerned inputs) (traced : previous.Traced inputs) (hi : i ∈ inputs)
    {d : Discovery} (found : i.tree.discover i.config i.root = .ok d) {c : Candidate}
    (hc : c ∈ d.candidates) : (c.process (some previous)).Alike c.parse := by
  obtain ⟨seen, shape⟩ := Candidate.seen_of_discover found hc
  unfold Candidate.process
  cases reuse : c.reusable? (some previous) with
  | none => exact ⟨rfl, rfl⟩
  | some r =>
    rw [Candidate.parse_of_reusable discerned traced hi seen shape reuse]
    exact ⟨rfl, rfl⟩

theorem filterMap_outcomes {β : Type} {part : FileOutcome → Option β}
    (respects : ∀ a b : FileOutcome, a.Alike b → part a = part b) (discerned : Discerned inputs)
    (traced : previous.Traced inputs) (hi : i ∈ inputs) {d : Discovery}
    (found : i.tree.discover i.config i.root = .ok d) :
    (d.outcomes (some previous)).filterMap part = (d.outcomes none).filterMap part := by
  simp only [Discovery.outcomes, List.filterMap_map]
  apply List.filterMap_congr
  intro c hc
  exact respects _ _ (traced.alike discerned hi found hc)

theorem records_eq (discerned : Discerned inputs) (traced : previous.Traced inputs) (hi : i ∈ inputs)
    {d : Discovery} (found : i.tree.discover i.config i.root = .ok d) :
    d.records (some previous) = d.records none :=
  filterMap_outcomes (fun _ _ same => same.1) discerned traced hi found

theorem refused_eq (discerned : Discerned inputs) (traced : previous.Traced inputs) (hi : i ∈ inputs)
    {d : Discovery} (found : i.tree.discover i.config i.root = .ok d) :
    d.refused (some previous) = d.refused none :=
  filterMap_outcomes (fun _ _ same => same.2) discerned traced hi found

end Snapshot.Traced

theorem Discovery.records_of_traced {inputs : List BuildInput} {i : BuildInput}
    {before : Option Snapshot} {d : Discovery} (discerned : Discerned inputs) (hi : i ∈ inputs)
    (traced : ∀ p, before = some p → p.Traced inputs)
    (found : i.tree.discover i.config i.root = .ok d) : d.records before = d.records none := by
  cases before with
  | none => rfl
  | some p => exact (traced p rfl).records_eq discerned hi found

namespace Snapshot.Traced

variable {inputs : List BuildInput} {s : Snapshot} {i : BuildInput}

theorem build (discerned : Discerned inputs) (hi : i ∈ inputs) {before : Option Snapshot}
    (traced : ∀ p, before = some p → p.Traced inputs) (h : i.build before = .ok s)
    (below : s.version.toNat < 2 ^ 64 - 1) : s.Traced inputs := by
  obtain ⟨d, _, found, _, built⟩ := SourceTree.build_ok_iff.mp h
  obtain ⟨g, _, _, _, rfl⟩ := Discovery.build_ok_iff.mp built
  have records := Discovery.records_of_traced discerned hi traced found
  constructor
  case wellFormed => exact SourceTree.wellFormed_of_build h
  case keyed => exact new_keyed _ _ _ _ _
  case below => exact below
  case records =>
    intro e he
    obtain ⟨r, hr, rfl⟩ := List.mem_map.mp (TextMap.mem_of_mem_ofList he)
    exact Discovery.record_comesFrom hi found (records ▸ hr)

theorem reload (traced : s.Traced inputs) (short : s.toBytes.length < 2 ^ 64)
    {t stored later : SourceTree} (saved : t.save s = (stored, none))
    (kept : later.content? SourceTree.snapshotPath = stored.content? SourceTree.snapshotPath)
    {r : Snapshot} (loaded : later.load = .ok (some r)) : r.Traced inputs := by
  obtain ⟨back, read, same, keyed, again⟩ := ofBytes_toBytes traced.wellFormed traced.keyed short
  have content : later.content? SourceTree.snapshotPath = some (s.toBytes ++ []) := by
    rw [kept, SourceTree.content_of_save saved, List.append_nil]
  have result : back = r := by
    rw [SourceTree.load_of_content content, read] at loaded
    cases loaded
    rfl
  subst result
  exact ⟨again.wellFormed, keyed, same.version ▸ traced.below, same.records ▸ traced.records⟩

end Snapshot.Traced

theorem Lineage.traced {inputs : List BuildInput} (discerned : Discerned inputs) {s : Snapshot}
    (h : Lineage inputs s) : s.Traced inputs := by
  -- Along the chain of builds; storing and reading back leaves the records as they are.
  induction h with
  | build hi _ built below ih => exact .build discerned hi ih built below
  | reload _ short saved kept loaded ih => exact ih.reload short saved kept loaded

theorem HasRoom.of_lineage {inputs : List BuildInput} (discerned : Discerned inputs)
    {previous : Option Snapshot} (earlier : ∀ s, previous = some s → Lineage inputs s) :
    HasRoom previous :=
  fun s same => ((earlier s same).traced discerned).below

/-- Building on top of any earlier snapshot gives what a build from nothing gives. -/
theorem incremental_build_agrees {inputs : List BuildInput} (discerned : Discerned inputs)
    {previous : Snapshot} (earlier : Lineage inputs previous) {now : BuildInput}
    (hnow : now ∈ inputs) : Agree (now.build (some previous)) (now.build none) := by
  have traced := earlier.traced discerned
  have room : HasRoom (some previous) := hasRoom_some traced.below
  unfold BuildInput.build SourceTree.build
  split
  · exact .failed _
  · split
    · exact .failed _
    · next d found =>
      split
      · exact .failed _
      · exact Discovery.build_agrees room (traced.records_eq discerned hnow found)
          (traced.refused_eq discerned hnow found)

end Builds

open Scanners

/-- The sample with one document edited and the other one gone. -/
def editedTree : SourceTree := ⟨TextMap.ofList
  [("guide.md", .text "# Guide\nThe notes were lost.\n"),
    ("part.h", .text "#include <stdio.h>\n"),
    ("broken.py", .file (.readable [0xff]))]⟩

def sampleInput : BuildInput := ⟨sampleTree, sampleConfig, sampleRoot⟩

def editedInput : BuildInput := ⟨editedTree, sampleConfig, sampleRoot⟩

theorem edited_build_agrees :
    Discerned [sampleInput, editedInput] ∧ Lineage [sampleInput, editedInput] sampleSnapshot ∧
    Agree (editedInput.build (some sampleSnapshot)) (editedInput.build none) ∧
    ((editedInput.build (some sampleSnapshot)).toOption.map (·.stats.reused)) = some 1 ∧
    ((editedInput.build none).toOption.map (·.stats.reused)) = some 0 := by
  have discerned : Discerned [sampleInput, editedInput] := by
    unfold Discerned
    decide +kernel
  have short : sampleSnapshot.toBytes.length < 2 ^ 64 := by decide +kernel
  have written : (sampleTree.save sampleSnapshot).2 = none := by decide +kernel
  have first : Lineage [sampleInput, editedInput] sampleSnapshot := by
    refine Lineage.build (i := sampleInput) List.mem_cons_self ?_ sample_built (by decide +kernel)
    intro p none
    cases none
  have again : Lineage [sampleInput, editedInput] sampleSnapshot :=
    .reload first short (Prod.ext rfl written) rfl sample_loaded
  refine ⟨discerned, again, ?_, by decide +kernel, by decide +kernel⟩
  exact incremental_build_agrees discerned again (List.mem_cons_of_mem _ List.mem_cons_self)

end SourceAtlas
