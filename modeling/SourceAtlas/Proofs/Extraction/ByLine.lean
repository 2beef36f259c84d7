import SourceAtlas.Extract.C
import SourceAtlas.Extract.Markdown
import SourceAtlas.Proofs.Extraction
import SourceAtlas.Proofs.Text.Pattern

/-! Sources that are read line by line. What the lines of a text say one by one is what the text says, and
each dependency stands on the first line that has it; a text that is put together of two says what the
first says, and behind it what the second has besides. -/
namespace SourceAtlas

/-- The same further down in a text. -/
def Dependency.behind (d : Dependency) (breaks : Nat) : Dependency :=
  ⟨d.spec, d.line + UInt32.ofNat breaks⟩

/-- What is depended on, without the lines. -/
def Extraction.specs (e : Extraction) : List Spec := e.dependencies.map (·.spec)

/-- The mentions that are kept, one of each dependency. -/
def Dependency.earliest (mentions : List Dependency) : List Dependency :=
  distinctBy (·.spec) (mentions.mergeSort Dependency.le)

namespace Dependency

variable {mentions : List Dependency} {d : Dependency} {spec : Spec}

theorem mergeSort_ascending (mentions : List Dependency) :
    (mentions.mergeSort le).Pairwise fun a b => a.line.toNat ≤ b.line.toNat :=
  (List.pairwise_mergeSort le_trans le_total mentions).imp fun ordered =>
    UInt32.le_iff_toNat_le.mp (le_iff.mp ordered)

/-- What is mentioned on one line stays in its order, also if all lines are counted from elsewhere. -/
theorem filter_mergeSort_line {place : Dependency → UInt32}
    (apart : ∀ a b, place a = place b → a.line = b.line) (mentions : List Dependency) (k : Nat) :
    (mentions.mergeSort le).filter (fun d => (place d).toNat = k) =
      mentions.filter fun d => (place d).toNat = k := by
  apply filter_mergeSort le_trans le_total
  intro a _ b _ ha hb
  have same := UInt32.toNat_inj.mp ((of_decide_eq_true ha).trans (of_decide_eq_true hb).symm)
  exact le_iff.mpr (UInt32.le_of_eq (apart a b same))

theorem earliest_of_ordered (ordered : mentions.Pairwise fun a b => le a b = true) :
    earliest mentions = distinctBy (·.spec) mentions := by
  rw [earliest, List.mergeSort_of_pairwise ordered]

theorem mem_earliest_specs :
    spec ∈ (earliest mentions).map (·.spec) ↔ spec ∈ mentions.map (·.spec) := by
  rw [earliest, mem_distinctBy_keys]
  exact ((List.mergeSort_perm mentions Dependency.le).map _).mem_iff

theorem mem_earliest_iff : d ∈ earliest mentions ↔
    d ∈ mentions ∧ ∀ other ∈ mentions, other.spec = d.spec → d.line ≤ other.line := by
  have kept : KeepsEarliest (·.spec) (·.line) mentions (earliest mentions) :=
    Extraction.keepsEarliest_dependencies ⟨[], mentions, [], false⟩
  have mentioned : ∀ {x}, x ∈ earliest mentions → x ∈ mentions :=
    fun h => List.mem_mergeSort.mp (mem_of_mem_distinctBy h)
  constructor
  · intro h
    exact ⟨mentioned h, kept.smallest d h⟩
  · rintro ⟨h, least⟩
    obtain ⟨x, hx, same⟩ := List.mem_map.mp ((kept.keys d.spec).mpr (List.mem_map_of_mem h))
    have line : x.line = d.line :=
      UInt32.le_antisymm (kept.smallest x hx d h same.symm) (least x (mentioned hx) same)
    cases x
    cases d
    cases same
    cases line
    exact hx

end Dependency

/-- What can be read off a single line. -/
abbrev LineReader := List Char → List Spec

namespace LineReader

variable {read : LineReader} {readers : List LineReader} {cs before after line : List Char}
  {d : Dependency} {spec : Spec}

/-- What a reader finds in the lines of a text. -/
def mentions (read : LineReader) (cs : List Char) : List Dependency :=
  (Text.numberedLines cs).flatMap fun line => (read line.1).map (⟨·, line.2⟩)

/-- What several readers find, one reader after the other. -/
def allMentions (readers : List LineReader) (cs : List Char) : List Dependency :=
  readers.flatMap fun read => read.mentions cs

theorem mentions_append (read : LineReader) (before after : List Char) :
    read.mentions (before ++ '\n' :: after) = read.mentions before ++
      (read.mentions after).map (·.behind (before.count '\n' + 1)) := by
  simp only [mentions, Text.numberedLines_append, List.flatMap_append, List.flatMap_map,
    List.map_flatMap, List.map_map]
  rfl

theorem mem_allMentions_iff : d ∈ allMentions readers cs ↔
    ∃ i line, (Text.split '\n' cs)[i]? = some line ∧ d.line = Text.lineNumber i ∧
      d.spec ∈ readers.flatMap (· line) := by
  simp only [allMentions, mentions, List.mem_flatMap, List.mem_map, Prod.exists,
    Text.mem_numberedLines_iff]
  constructor
  · rintro ⟨read, known, line, _, ⟨i, listed, rfl⟩, spec, found, rfl⟩
    exact ⟨i, line, listed, rfl, read, known, found⟩
  · rintro ⟨i, line, listed, number, read, known, found⟩
    refine ⟨read, known, line, _, ⟨i, listed, rfl⟩, d.spec, found, ?_⟩
    rw [← number]

theorem mem_specs_iff : spec ∈ (allMentions readers cs).map (·.spec) ↔
    ∃ line ∈ Text.split '\n' cs, spec ∈ readers.flatMap (· line) := by
  rw [List.mem_map]
  constructor
  · rintro ⟨d, mentioned, rfl⟩
    obtain ⟨i, line, listed, _, found⟩ := mem_allMentions_iff.mp mentioned
    exact ⟨line, List.mem_of_getElem? listed, found⟩
  · rintro ⟨line, listed, found⟩
    obtain ⟨i, listed⟩ := List.mem_iff_getElem?.mp listed
    exact ⟨⟨spec, Text.lineNumber i⟩, mem_allMentions_iff.mpr ⟨i, line, listed, rfl, found⟩, rfl⟩

theorem index_le {i : Nat} (listed : (Text.split '\n' cs)[i]? = some line) : i ≤ cs.count '\n' := by
  obtain ⟨below, _⟩ := List.getElem?_eq_some_iff.mp listed
  rw [Text.length_split] at below
  omega

theorem mem_earliest_allMentions_iff (fits : cs.count '\n' + 1 < 2 ^ 32) :
    d ∈ Dependency.earliest (allMentions readers cs) ↔
      ∃ i line, (Text.split '\n' cs)[i]? = some line ∧ d.line.toNat = i + 1 ∧
        d.spec ∈ readers.flatMap (· line) ∧
        ∀ j < i, ∀ earlier, (Text.split '\n' cs)[j]? = some earlier →
          d.spec ∉ readers.flatMap (· earlier) := by
  have number : ∀ {i line}, (Text.split '\n' cs)[i]? = some line →
      (Text.lineNumber i).toNat = i + 1 := by
    intro i line listed
    have small := index_le listed
    exact Text.lineNumber_toNat (by omega)
  rw [Dependency.mem_earliest_iff]
  constructor
  · rintro ⟨mentioned, least⟩
    obtain ⟨i, line, listed, here, found⟩ := mem_allMentions_iff.mp mentioned
    refine ⟨i, line, listed, by rw [here, number listed], found, ?_⟩
    intro j before earlier above again
    have le := least ⟨d.spec, Text.lineNumber j⟩
      (mem_allMentions_iff.mpr ⟨j, earlier, above, rfl, again⟩) rfl
    rw [here, UInt32.le_iff_toNat_le, number listed, number above] at le
    omega
  · rintro ⟨i, line, listed, here, found, first⟩
    have place : d.line = Text.lineNumber i := by
      rw [← UInt32.toNat_inj, here, number listed]
    refine ⟨mem_allMentions_iff.mpr ⟨i, line, listed, place, found⟩, ?_⟩
    intro other mentioned same
    obtain ⟨j, earlier, above, there, again⟩ := mem_allMentions_iff.mp mentioned
    have behind : ¬ j < i := fun before => first j before earlier above (same ▸ again)
    rw [UInt32.le_iff_toNat_le, here, there, number above]
    omega

theorem filter_flatMap_append {ι α : Type} {f g : ι → List α} {is : List ι} {p : α → Bool}
    (apart : (∀ x ∈ is.flatMap f, p x = false) ∨ ∀ x ∈ is.flatMap g, p x = false) :
    (is.flatMap fun i => f i ++ g i).filter p =
      (is.flatMap f).filter p ++ (is.flatMap g).filter p := by
  have none : ∀ {h : ι → List α}, (∀ x ∈ is.flatMap h, p x = false) →
      ∀ i ∈ is, (h i).filter p = [] := by
    intro h out i hi
    rw [List.filter_eq_nil_iff]
    intro x hx
    simp [out x (List.mem_flatMap.mpr ⟨i, hi, hx⟩)]
  simp only [List.filter_flatMap, List.filter_append]
  rcases apart with out | out
  · rw [List.flatMap_congr fun i hi => by rw [none out i hi, List.nil_append],
      List.flatMap_eq_nil_iff.mpr (none out), List.nil_append]
  · rw [List.flatMap_congr fun i hi => by rw [none out i hi, List.append_nil],
      List.flatMap_eq_nil_iff.mpr (none out), List.append_nil]

section Joined

variable (fits : before.count '\n' + after.count '\n' + 2 < 2 ^ 32)
include fits

theorem line_before (h : d ∈ allMentions readers before) : d.line.toNat ≤ before.count '\n' + 1 := by
  obtain ⟨i, line, listed, number, _⟩ := mem_allMentions_iff.mp h
  have small := index_le listed
  rw [number, Text.lineNumber_toNat (by omega)]
  omega

theorem line_behind (h : d ∈ allMentions readers after) :
    (d.behind (before.count '\n' + 1)).line.toNat = before.count '\n' + 1 + d.line.toNat ∧
      0 < d.line.toNat := by
  obtain ⟨i, line, listed, number, _⟩ := mem_allMentions_iff.mp h
  have small := index_le listed
  have own : (Text.lineNumber i).toNat = i + 1 := Text.lineNumber_toNat (by omega)
  have shift : (UInt32.ofNat (before.count '\n' + 1)).toNat = before.count '\n' + 1 :=
    UInt32.toNat_ofNat_of_lt' (show _ < 2 ^ 32 by omega)
  rw [Dependency.behind, UInt32.toNat_add, number, own, shift, Nat.mod_eq_of_lt (by omega)]
  omega

/-- The mentions of one line all stand in front of the cut or all behind it. -/
theorem filter_allMentions_append (k : Nat) :
    (allMentions readers (before ++ '\n' :: after)).filter (·.line.toNat = k) =
      (allMentions readers before).filter (·.line.toNat = k) ++
        ((allMentions readers after).map (·.behind (before.count '\n' + 1))).filter
          (·.line.toNat = k) := by
  have joined : allMentions readers (before ++ '\n' :: after) = readers.flatMap fun read =>
      read.mentions before ++ (read.mentions after).map (·.behind (before.count '\n' + 1)) := by
    simp only [allMentions, mentions_append]
  have behind : (allMentions readers after).map (·.behind (before.count '\n' + 1)) =
      readers.flatMap fun read => (read.mentions after).map (·.behind (before.count '\n' + 1)) :=
    List.map_flatMap ..
  rw [joined, behind, allMentions]
  apply filter_flatMap_append
  by_cases early : k ≤ before.count '\n' + 1
  · right
    rw [← behind]
    intro d h
    obtain ⟨e, mentioned, rfl⟩ := List.mem_map.mp h
    obtain ⟨line, below⟩ := line_behind fits mentioned
    exact decide_eq_false (by omega)
  · left
    intro d h
    have line := line_before fits (d := d) h
    exact decide_eq_false (by omega)

theorem mergeSort_allMentions_append :
    (allMentions readers (before ++ '\n' :: after)).mergeSort Dependency.le =
      (allMentions readers before).mergeSort Dependency.le ++
        ((allMentions readers after).mergeSort Dependency.le).map
          (·.behind (before.count '\n' + 1)) := by
  refine eq_of_filter_eq (Dependency.mergeSort_ascending _)
    (List.pairwise_append.mpr ⟨Dependency.mergeSort_ascending _, ?_, ?_⟩) ?_
  · refine List.pairwise_map.mpr ((Dependency.mergeSort_ascending _).imp_of_mem ?_)
    intro a b ha hb le
    rw [(line_behind fits (List.mem_mergeSort.mp ha)).1, (line_behind fits (List.mem_mergeSort.mp hb)).1]
    omega
  · intro a ha b hb
    obtain ⟨e, he, rfl⟩ := List.mem_map.mp hb
    have first := line_before fits (List.mem_mergeSort.mp ha)
    obtain ⟨second, above⟩ := line_behind fits (List.mem_mergeSort.mp he)
    omega
  · intro k
    rw [Dependency.filter_mergeSort_line fun _ _ => id, filter_allMentions_append fits,
      List.filter_append, Dependency.filter_mergeSort_line fun _ _ => id, List.filter_map,
      List.filter_map]
    congr 2
    exact (Dependency.filter_mergeSort_line (fun _ _ => (UInt32.add_left_inj _).mp) _ k).symm

theorem earliest_allMentions_append :
    Dependency.earliest (allMentions readers (before ++ '\n' :: after)) =
      Dependency.earliest (allMentions readers before) ++
        ((Dependency.earliest (allMentions readers after)).filter fun d =>
          d.spec ∉ (Dependency.earliest (allMentions readers before)).map (·.spec)).map
            (·.behind (before.count '\n' + 1)) := by
  have renumbered : ∀ ds : List Dependency,
      distinctBy (·.spec) (ds.map (·.behind (before.count '\n' + 1))) =
        (distinctBy (·.spec) ds).map (·.behind (before.count '\n' + 1)) :=
    distinctBy_map fun _ => rfl
  rw [Dependency.earliest, mergeSort_allMentions_append fits, distinctBy_append, renumbered, List.filter_map]
  congr 2
  apply List.filter_congr
  intro d _
  apply decide_eq_decide.mpr
  rw [Dependency.mem_earliest_specs]
  exact not_congr ((List.mergeSort_perm _ Dependency.le).map _).mem_iff

end Joined

end LineReader

/-- The breaks between the lines of a text. -/
def lineBreaks (text : String) : Nat := text.toList.count '\n'

/-- Documentation and dependencies of a source are those of its lines, each on the first line that has it.
Line numbers are words of 32 bits: of texts with more lines it is known that the word is that of a line
which has the dependency, but not of which. -/
structure ExtractsByLine (extract : String → Extraction) : Prop where
  docTerms_joined : ∀ a b,
    (extract (a ++ "\n" ++ b)).docTerms = (extract a).docTerms ++ (extract b).docTerms
  specs_joined : ∀ a b spec, spec ∈ (extract (a ++ "\n" ++ b)).specs ↔
    spec ∈ (extract a).specs ∨ spec ∈ (extract b).specs
  dependencies_joined : ∀ a b, lineBreaks (a ++ "\n" ++ b) + 1 < 2 ^ 32 →
    (extract (a ++ "\n" ++ b)).dependencies = (extract a).dependencies ++
      ((extract b).dependencies.filter fun d => d.spec ∉ (extract a).specs).map
        (·.behind (lineBreaks a + 1))
  docTerms_lines : ∀ text, (extract text).docTerms =
    (Text.split '\n' text.toList).flatMap fun line => (extract (String.ofList line)).docTerms
  specs_lines : ∀ text spec, spec ∈ (extract text).specs ↔
    ∃ line ∈ Text.split '\n' text.toList, spec ∈ (extract (String.ofList line)).specs
  dependencies_numbered : ∀ text, ∀ d ∈ (extract text).dependencies,
    ∃ i line, (Text.split '\n' text.toList)[i]? = some line ∧ d.line = UInt32.ofNat (i + 1) ∧
      d.spec ∈ (extract (String.ofList line)).specs
  dependencies_lines : ∀ text, lineBreaks text + 1 < 2 ^ 32 → ∀ d, d ∈ (extract text).dependencies ↔
    ∃ i line, (Text.split '\n' text.toList)[i]? = some line ∧ d.line.toNat = i + 1 ∧
      d.spec ∈ (extract (String.ofList line)).specs ∧
      ∀ j < i, ∀ earlier, (Text.split '\n' text.toList)[j]? = some earlier →
        d.spec ∉ (extract (String.ofList earlier)).specs

theorem toList_joined (a b : String) : (a ++ "\n" ++ b).toList = a.toList ++ '\n' :: b.toList := by
  simp

theorem ExtractsByLine.of_readers {extract : String → Extraction} (readers : List LineReader)
    (terms : List Char → List String)
    (dependencies : ∀ source, (extract source).dependencies =
      Dependency.earliest (LineReader.allMentions readers source.toList))
    (docTerms : ∀ source, (extract source).docTerms =
      (Text.split '\n' source.toList).flatMap terms) : ExtractsByLine extract := by
  have specs : ∀ source spec, spec ∈ (extract source).specs ↔
      ∃ line ∈ Text.split '\n' source.toList, spec ∈ readers.flatMap (· line) := by
    intro source spec
    rw [Extraction.specs, dependencies, Dependency.mem_earliest_specs, LineReader.mem_specs_iff]
  have alone : ∀ {source : String} {line : List Char}, line ∈ Text.split '\n' source.toList →
      Text.split '\n' (String.ofList line).toList = [line] := by
    intro source line listed
    rw [String.toList_ofList]
    exact Text.split_of_not_mem (Text.not_mem_of_mem_split listed)
  have ofLine : ∀ {source : String} {line : List Char} {spec : Spec},
      line ∈ Text.split '\n' source.toList →
        (spec ∈ (extract (String.ofList line)).specs ↔ spec ∈ readers.flatMap (· line)) := by
    intro source line spec listed
    rw [specs, alone listed]
    simp only [List.mem_singleton, exists_eq_left]
  refine ⟨?_, ?_, ?_, ?_, ?_, ?_, ?_⟩
  · intro a b
    rw [docTerms, docTerms, docTerms, toList_joined, Text.split_append, List.flatMap_append]
  · intro a b spec
    simp only [specs, toList_joined, Text.split_append, List.mem_append, or_and_right, exists_or]
  · intro a b fits
    rw [lineBreaks, toList_joined, List.count_append, List.count_cons_self] at fits
    rw [Extraction.specs, dependencies, dependencies, dependencies, toList_joined]
    exact LineReader.earliest_allMentions_append (by omega)
  · intro text
    rw [docTerms]
    apply List.flatMap_congr
    intro line listed
    rw [docTerms, alone listed, List.flatMap_singleton]
  · intro text spec
    rw [specs]
    exact exists_congr fun line => and_congr_right fun listed => (ofLine listed).symm
  · intro text d kept
    rw [dependencies] at kept
    obtain ⟨mentioned, _⟩ := Dependency.mem_earliest_iff.mp kept
    obtain ⟨i, line, listed, number, found⟩ := LineReader.mem_allMentions_iff.mp mentioned
    exact ⟨i, line, listed, number, (ofLine (List.mem_of_getElem? listed)).mpr found⟩
  · intro text fits d
    rw [dependencies, LineReader.mem_earliest_allMentions_iff fits]
    refine exists_congr fun i => exists_congr fun line => and_congr_right fun listed => ?_
    rw [ofLine (List.mem_of_getElem? listed)]
    refine and_congr_right fun _ => and_congr_right fun _ => ?_
    refine forall_congr' fun j => forall_congr' fun _ => forall_congr' fun earlier => ?_
    refine forall_congr' fun above => ?_
    rw [ofLine (List.mem_of_getElem? above)]

namespace LineReader

/-- What divides at line breaks, with numbers that go on behind them, is what a reader of the lines finds. -/
theorem eq_mentions {f : List Char → List Dependency} {read : LineReader}
    (divides : ∀ above below, f (above ++ '\n' :: below) =
      f above ++ (f below).map (·.behind (above.count '\n' + 1)))
    (single : ∀ line, '\n' ∉ line → f line = (read line).map (⟨·, Text.lineNumber 0⟩))
    (cs : List Char) : f cs = read.mentions cs := by
  by_cases several : '\n' ∈ cs
  · obtain ⟨above, below, cut⟩ := List.mem_iff_append.mp several
    rw [cut, divides, mentions_append, eq_mentions divides single above,
      eq_mentions divides single below]
  · rw [single cs several, mentions, Text.numberedLines, Text.split_of_not_mem several]
    simp
termination_by cs.length
decreasing_by
  all_goals rw [cut, List.length_append, List.length_cons]; omega

open Text (Pattern Match)

variable {p : Pattern} {spec? : Match → Option Spec} {place : Match → Nat}

/-- What the matches of a pattern say, each on the line of one of its places. -/
def matched (p : Pattern) (spec? : Match → Option Spec) (place : Match → Nat) (cs : List Char) :
    List Dependency :=
  (p.findAll cs).filterMap fun m => (spec? m).map (⟨·, Text.lineOf cs (place m)⟩)

/-- What is read off a match does not depend on where the match is, and it stands inside the text. -/
structure ReadsMatch (spec? : Match → Option Spec) (place : Match → Nat) : Prop where
  spec_behind : ∀ m offset, spec? (m.behind offset) = spec? m
  place_behind : ∀ m offset, place (m.behind offset) = offset + place m
  place_le : ∀ {m length}, m.Inside length → place m ≤ length

/-- A pattern of lines is read line by line, although the whole text is searched for it. -/
theorem matched_eq_mentions (lines : p.inLine = true) (reads : ReadsMatch spec? place) (cs : List Char) :
    matched p spec? place cs = mentions (fun line => (p.findAll line).filterMap spec?) cs := by
  refine eq_mentions ?_ ?_ cs
  · intro above below
    rw [matched, matched, matched, Text.Pattern.findAll_append lines, List.filterMap_append,
      List.filterMap_map, List.map_filterMap]
    congr 1
    · apply List.filterMap_congr
      intro m found
      rw [Text.lineOf_append (reads.place_le (Text.Pattern.inside_of_mem_findAll found))]
    · apply List.filterMap_congr
      intro m _
      rw [Function.comp, reads.spec_behind, reads.place_behind, Text.lineOf_behind, Option.map_map]
      rfl
  · intro line single
    rw [matched, List.map_filterMap]
    simp only [Text.lineOf_of_not_mem single]

theorem readsMatch_start (behind : ∀ m offset, spec? (m.behind offset) = spec? m) :
    ReadsMatch spec? Match.start :=
  ⟨behind, fun _ _ => rfl, Match.Inside.start_le⟩

end LineReader

/-- Where a group of a match starts. -/
def Text.Match.groupStart (m : Match) (index : Nat) : Nat := ((m.group? index).map (·.start)).getD m.start

theorem LineReader.readsMatch_group (index : Nat) {spec? : Text.Match → Option Spec}
    (behind : ∀ m offset, spec? (m.behind offset) = spec? m) :
    ReadsMatch spec? (·.groupStart index) := by
  refine ⟨behind, ?_, ?_⟩
  · intro m offset
    rw [Text.Match.groupStart, Text.Match.groupStart, Text.Match.group?_behind]
    cases m.group? index <;> rfl
  · intro m length inside
    rw [Text.Match.groupStart]
    cases found : m.group? index with
    | none => exact inside.start_le
    | some g => exact inside.group_start_le g (List.mem_of_find?_eq_some found)

namespace Markdown

/-- What the written destination of a link depends on. -/
def linkSpec? (written : List Char) : Option Spec :=
  (linkTarget? written).map fun target => .docLink (String.ofList target)

/-- The written destination that a match has found. -/
def written? (m : Text.Match) : Option (List Char) := (m.group? 1).map (·.text)

theorem linkDependency_eq (source : List Char) (m : Text.Match) : linkDependency? source m =
    ((written? m).bind linkSpec?).map (⟨·, Text.lineOf source (m.groupStart 1)⟩) := by
  rw [linkDependency?, written?, Text.Match.groupStart]
  cases m.group? 1 with
  | none => rfl
  | some g =>
    simp only [Option.map_some, Option.bind_some, Option.bind_eq_bind, Option.getD_some, linkSpec?]
    cases linkTarget? g.text <;> rfl

theorem written_behind (m : Text.Match) (offset : Nat) : written? (m.behind offset) = written? m := by
  rw [written?, written?, Text.Match.group?_behind, Option.map_map]
  rfl

/-- What the links in a line lead to, and then what its definition leads to. -/
def readers : List LineReader :=
  [inlineLink, referenceDefinition].map fun p line =>
    (p.findAll line).filterMap fun m => (written? m).bind linkSpec?

theorem dependencies_extract (source : String) :
    (extract source).dependencies = Dependency.earliest (LineReader.allMentions readers source.toList) := by
  have reads : LineReader.ReadsMatch (fun m => (written? m).bind linkSpec?) (·.groupStart 1) :=
    LineReader.readsMatch_group 1 fun m offset => by rw [written_behind]
  change Dependency.earliest _ = _
  congr 1
  rw [List.filterMap_append]
  simp only [linkDependency_eq, LineReader.allMentions, readers, List.map_cons, List.map_nil,
    List.flatMap_cons, List.flatMap_nil, List.append_nil]
  congr 1
  · exact LineReader.matched_eq_mentions (by decide) reads source.toList
  · exact LineReader.matched_eq_mentions (by decide) reads source.toList

/-- Headings are those of the lines. -/
theorem headings_append (above below : List Char) :
    headings (above ++ '\n' :: below) = headings above ++ headings below := by
  rw [headings, headings, headings, Text.Pattern.findAll_append (by decide), List.filterMap_append,
    List.filterMap_map]
  congr 1
  exact List.filterMap_congr fun m _ => written_behind m _

theorem docTerms_lines (source : String) : (extract source).docTerms =
    (Text.split '\n' source.toList).flatMap fun line => (headings line).flatMap Term.ofChars := by
  refine Text.eq_flatMap_split (f := fun cs => (headings cs).flatMap Term.ofChars) ?_ source.toList
  intro above below
  rw [headings_append, List.flatMap_append]

end Markdown

namespace C

/-- The header of an include directive. -/
def readers : List LineReader := [fun line => (includeDirective.findAll line).filterMap included?]

theorem included_behind (m : Text.Match) (offset : Nat) : included? (m.behind offset) = included? m := by
  rw [included?, included?, Text.Match.group?_behind, Text.Match.group?_behind]
  cases m.group? 1 with
  | some quoted => rfl
  | none => cases m.group? 2 <;> rfl

theorem dependencies_extract (source : String) :
    (extract source).dependencies = Dependency.earliest (LineReader.allMentions readers source.toList) := by
  change Dependency.earliest _ = _
  congr 1
  simp only [LineReader.allMentions, readers, List.flatMap_cons, List.flatMap_nil, List.append_nil]
  exact LineReader.matched_eq_mentions (by decide) (LineReader.readsMatch_start included_behind) source.toList

end C

/-- Markdown is read line by line, and so are the include directives of C and C++. -/
theorem sources_are_read_line_by_line :
    ExtractsByLine Markdown.extract ∧ ExtractsByLine C.extract := by
  constructor
  · exact .of_readers Markdown.readers _ Markdown.dependencies_extract Markdown.docTerms_lines
  · exact .of_readers C.readers (fun _ => []) C.dependencies_extract
      fun source => by simp [C.extract, Extraction.normalize]

/-- A link that is not closed, and one of the same target, stand in front of the cut. -/
def guideOpening : String := "# Guide\nSee [map](map.md) and [key](key.md"

def guideEnding : String := ") [map](map.md#use)\r\n[key]: key.md\n## Use"

theorem guide_is_read_line_by_line :
    lineBreaks (guideOpening ++ "\n" ++ guideEnding) + 1 < 2 ^ 32 ∧
    (Markdown.extract (guideOpening ++ "\n" ++ guideEnding)).dependencies =
      [⟨.docLink "map.md", 2⟩, ⟨.docLink "key.md", 4⟩] ∧
    (Markdown.extract (guideOpening ++ "\n" ++ guideEnding)).docTerms = ["guide", "use"] := by
  have fits : lineBreaks (guideOpening ++ "\n" ++ guideEnding) + 1 < 2 ^ 32 := by decide
  have opening : (Markdown.extract guideOpening).dependencies = [⟨.docLink "map.md", 2⟩] := by
    rw [Markdown.dependencies_extract, Dependency.earliest_of_ordered (by decide +kernel)]
    decide +kernel
  have ending : (Markdown.extract guideEnding).dependencies =
      [⟨.docLink "map.md", 1⟩, ⟨.docLink "key.md", 2⟩] := by
    rw [Markdown.dependencies_extract, Dependency.earliest_of_ordered (by decide +kernel)]
    decide +kernel
  refine ⟨fits, ?_, ?_⟩
  · rw [sources_are_read_line_by_line.1.dependencies_joined guideOpening guideEnding fits,
      Extraction.specs, opening, ending]
    decide +kernel
  · rw [sources_are_read_line_by_line.1.docTerms_joined guideOpening guideEnding]
    decide +kernel

end SourceAtlas
