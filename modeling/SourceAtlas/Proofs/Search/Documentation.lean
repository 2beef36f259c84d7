import SourceAtlas.Proofs.Search.Names
import SourceAtlas.Proofs.Search.Terms

/-! Documentation as a query. The extractors turn each text of documentation into terms, and the node of the
file reads each of these terms as a text again, while a query is read once. A text finds its file if its
letters can be put in lower case; a term that falls apart when it is read again is lost. -/
namespace SourceAtlas

/-- The headings. -/
def Markdown.docTexts (source : String) : List (List Char) := headings source.toList

theorem Markdown.docTerms_extract (source : String) :
    (extract source).docTerms = (docTexts source).flatMap Term.ofChars := rfl

/-- What follows the marks of inner documentation. -/
def Rust.docTexts (source : String) : List (List Char) :=
  (Text.split '\n' source.toList).filterMap fun line =>
    Text.dropPrefix? ['/', '/', '!'] (Text.trimStart line)

theorem Rust.docTerms_extract (parsed : Syntax.Parsed) (source : String) :
    (extract parsed source).docTerms = (docTexts source).flatMap Term.ofChars := by
  rw [docTexts, List.filterMap_eq_flatMap_toList, List.flatMap_assoc]
  refine List.flatMap_congr ?_
  intro line _
  unfold lineTerms
  cases Text.dropPrefix? ['/', '/', '!'] (Text.trimStart line) <;> simp

/-- The text that the module starts with. -/
def Python.docTexts (parsed : Syntax.Parsed) : List (List Char) := (docstring? parsed.tree).toList

theorem Python.docTerms_extract (parsed : Syntax.Parsed) :
    (extract parsed).docTerms = (docTexts parsed).flatMap Term.ofChars := rfl

/-- The comments of the top level that start with two stars. -/
def Script.docTexts (parsed : Syntax.Parsed) : List (List Char) := docComments parsed.tree

theorem Script.docTerms_extract (parsed : Syntax.Parsed) :
    (extract parsed).docTerms = (docTexts parsed).flatMap Term.ofChars := rfl

theorem exists_of_map_eq_ok {α β ε : Type} {f : α → β} {x : Except ε α} {b : β}
    (h : x.map f = .ok b) : ∃ a, x = .ok a ∧ f a = b := by
  cases x with
  | error => cases h
  | ok a => exact ⟨a, rfl, Except.ok.inj h⟩

section Texts

variable [Tools]

/-- The texts of documentation in a source. A source that the parser fails on has none. -/
def Extraction.docTexts (language : Language) (path source : String) : List (List Char) :=
  let ofTree (grammar : Grammar) (read : Syntax.Parsed → List (List Char)) : List (List Char) :=
    match Tools.parse grammar path source with
    | .ok parsed => read parsed
    | .error _ => []
  match language with
  | .rust => Rust.docTexts source
  | .markdown => Markdown.docTexts source
  | .python => ofTree .python Python.docTexts
  | .typeScript | .javaScript => ofTree (.ofScript path) Script.docTexts
  | .c | .cpp | .other => []

theorem Extraction.docTerms_of_source {language : Language} {path source : String} {e : Extraction}
    (h : ofSource? language path source = some (.ok e)) :
    e.docTerms = (docTexts language path source).flatMap Term.ofChars := by
  cases language with
  | rust =>
    obtain ⟨parsed, _, rfl⟩ := exists_of_map_eq_ok (Option.some.inj h)
    exact Rust.docTerms_extract parsed source
  | python =>
    obtain ⟨parsed, made, rfl⟩ := exists_of_map_eq_ok (Option.some.inj h)
    simp only [docTexts, made]
    exact Python.docTerms_extract parsed
  | typeScript | javaScript =>
    obtain ⟨parsed, made, rfl⟩ := exists_of_map_eq_ok (Option.some.inj h)
    simp only [docTexts, made]
    exact Script.docTerms_extract parsed
  | markdown =>
    cases h
    exact Markdown.docTerms_extract source
  | c | cpp =>
    cases h
    rfl
  | other => cases h

/-- The terms of documentation in the record are those of this source. -/
def Record.DocumentedBy (r : Record) (source : String) : Prop :=
  ∃ e, Extraction.ofSource? r.language r.path source = some (.ok e) ∧ r.docTerms = e.docTerms

namespace Record

variable {r : Record} {source : String} {text : List Char} {term : String}

theorem DocumentedBy.docTerms_eq (h : r.DocumentedBy source) :
    r.docTerms = (Extraction.docTexts r.language r.path source).flatMap Term.ofChars := by
  obtain ⟨e, extracted, same⟩ := h
  rw [same, Extraction.docTerms_of_source extracted]

/-- The terms of the terms of documentation go into the node of the file. -/
theorem DocumentedBy.mem_terms (h : r.DocumentedBy source)
    (ht : text ∈ Extraction.docTexts r.language r.path source) (outer : term ∈ Term.ofChars text)
    {inner : String} (hi : inner ∈ Term.tokenize term) : inner ∈ r.terms := by
  have listed : term ∈ r.docTerms := by
    rw [h.docTerms_eq]
    exact List.mem_flatMap.mpr ⟨text, ht, outer⟩
  exact mem_terms_iff.mpr ⟨term, List.mem_cons_of_mem _ (List.mem_append_right _ listed), hi⟩

theorem DocumentedBy.mem_terms_of_foldable (h : r.DocumentedBy source)
    (ht : text ∈ Extraction.docTexts r.language r.path source)
    (foldable : ∀ c ∈ text, Text.isAlphanumeric c = true → Text.Foldable c)
    (outer : term ∈ Term.ofChars text) : term ∈ r.terms :=
  h.mem_terms ht outer (by
    rw [Term.tokenize_term foldable outer]
    exact List.mem_singleton_self term)

end Record

theorem Candidate.documentedBy_of_parse {c : Candidate} {r : Record} (h : c.parse = .parsed r) :
    ∃ content source, c.data = .readable content ∧ Text.ofUtf8? content = some source ∧
      r.DocumentedBy source := by
  obtain ⟨content, e, ⟨data, source, text, parsed⟩, rfl⟩ := parse_eq_parsed_iff.mp h
  exact ⟨content, source, data, text, e, parsed, rfl⟩

/-- The records of a build are taken over or made from the files as they are. -/
theorem Discovery.cases_of_records {t : SourceTree} {config : BuildConfig} {root : BuildRoot}
    {previous : Option Snapshot} {d : Discovery} {r : Record}
    (found : t.discover config root = .ok d) (hr : r ∈ d.records previous) :
    (∃ p path, previous = some p ∧ p.record? path = some r) ∨
      ∃ content source, t.content? (Path.child root.path r.path) = some content ∧
        Text.ofUtf8? content = some source ∧ r.DocumentedBy source := by
  obtain ⟨o, ho, made⟩ := List.mem_filterMap.mp hr
  obtain ⟨c, hc, rfl⟩ := List.mem_map.mp ho
  unfold Candidate.process at made
  split at made
  · next old reuse =>
    cases made
    obtain ⟨recorded, _⟩ := Option.filter_eq_some_iff.mp reuse
    obtain ⟨p, before, known⟩ := Option.bind_eq_some_iff.mp recorded
    exact .inl ⟨p, c.path, before, known⟩
  · have parsed := Candidate.parse_of_record made
    obtain ⟨content, source, data, text, documented⟩ := Candidate.documentedBy_of_parse parsed
    obtain ⟨seen, _⟩ := Candidate.seen_of_discover (i := ⟨t, config, root⟩) found hc
    have held := SourceTree.data_of_walk seen
    rw [← (Candidate.parsed_of_parse parsed).1, data] at held
    exact .inr ⟨content, source, SourceTree.content_of_data held, text, documented⟩

end Texts

/-- The node of a file has the terms of its path, of the names of its symbols and of the terms of its
documentation, and no others. So it has the terms of those texts of documentation in which nothing but
letters with a lower case of one letter and numbers are read, and such a text finds the file. -/
theorem documentation_finds_files [Tools] {t : SourceTree} {config : BuildConfig} {root : BuildRoot}
    {previous : Option Snapshot} {s : Snapshot} {d : Discovery}
    (keyed : ∀ p, previous = some p → p.Keyed) (built : t.build config root previous = .ok s)
    (found : t.discover config root = .ok d) :
    (∀ r ∈ s.records.values, ((∃ p path, previous = some p ∧ p.record? path = some r) ∨
      ∃ content source, t.content? (Path.child root.path r.path) = some content ∧
        Text.ofUtf8? content = some source ∧ r.DocumentedBy source) ∧
      (IdsApart (Mentioned ⟨d.listing, d.crates⟩ s.records.values) → r.fileNode ∈ s.graph.nodes)) ∧
    ∀ n ∈ s.graph.nodes, n.kind = .file → ∃ r ∈ s.records.values, n = r.fileNode ∧
      (∀ term, n.tokens.contains term = true ↔
        ∃ text ∈ r.path :: (r.symbols.map (·.name) ++ r.docTerms), term ∈ Term.tokenize text) ∧
      ∀ source, r.DocumentedBy source → ∀ text ∈ Extraction.docTexts r.language r.path source,
        (∀ term ∈ Term.ofChars text, ∀ inner ∈ Term.tokenize term,
          n.tokens.contains inner = true) ∧
        ((∀ c ∈ text, Text.isAlphanumeric c = true → Text.Foldable c) →
          (∀ term ∈ Term.ofChars text, n.tokens.contains term = true) ∧
          (Record.Countable ⟨d.listing, d.crates⟩ s.records.values → Term.ofChars text ≠ [] →
            s.graph.Finds (String.ofList text) n.id
              (Term.distinct (String.ofList text)).length)) := by
  have assembled := SourceTree.assembledFrom_of_build keyed built found
  obtain ⟨values, _⟩ := SourceTree.records_of_build keyed built found
  constructor
  · intro r hr
    exact ⟨Discovery.cases_of_records found (values ▸ hr), fun apart =>
      assembled.fileNode_mem apart hr⟩
  · intro n hn kind
    obtain ⟨r, hr, rfl⟩ := assembled.eq_fileNode hn kind
    refine ⟨r, hr, rfl, fun term => r.fileNode_counts.contains_iff.trans Record.mem_terms_iff, ?_⟩
    intro source documented text ht
    refine ⟨?_, fun foldable => ⟨?_, ?_⟩⟩
    · intro term outer inner hi
      exact r.fileNode_counts.contains_iff.mpr (documented.mem_terms ht outer hi)
    · intro term outer
      exact r.fileNode_counts.contains_iff.mpr (documented.mem_terms_of_foldable ht foldable outer)
    · intro countable some
      have read : Term.tokenize (String.ofList text) = Term.ofChars text := by
        rw [Term.tokenize, String.toList_ofList]
      apply assembled.finds_file countable hr hn
      · rw [read]
        exact some
      · intro term outer
        rw [read] at outer
        exact documented.mem_terms_of_foldable ht foldable outer

open Scanners

def mapTree : SourceTree := ⟨TextMap.ofList [("map.md", .text "# ΟΔΟΣ ČapekStreet\n")]⟩

def mapRecord : Record :=
  ⟨"map.md", .markdown, 24, .of (Text.utf8 "# ΟΔΟΣ ČapekStreet\n"), [], [],
    ["οδος", "čapek", "street"], false⟩

def mapDiscovery : Discovery :=
  (mapTree.discover sampleConfig sampleRoot).toOption.getD ⟨[], [], [], .empty⟩

def mapSnapshot : Snapshot := (mapTree.build sampleConfig sampleRoot none).toOption.getD .empty

theorem map_documentation_finds_file :
    mapTree.build sampleConfig sampleRoot none = .ok mapSnapshot ∧
    mapSnapshot.records.values = [mapRecord] ∧
    mapRecord.DocumentedBy "# ΟΔΟΣ ČapekStreet\n" ∧
    Extraction.docTexts .markdown "map.md" "# ΟΔΟΣ ČapekStreet\n" = ["ΟΔΟΣ ČapekStreet".toList] ∧
    mapRecord.fileNode.tokens.contains "οδος" = true ∧
    mapSnapshot.graph.Finds "ΟΔΟΣ ČapekStreet" (.of .file "map.md") 3 := by
  have built : mapTree.build sampleConfig sampleRoot none = .ok mapSnapshot := by
    decide +kernel
  have found : mapTree.discover sampleConfig sampleRoot = .ok mapDiscovery := by
    decide +kernel
  have records : mapSnapshot.records.values = [mapRecord] := by decide +kernel
  have resolver : mapDiscovery.listing = ["map.md"] ∧ mapDiscovery.crates = .empty := by
    decide +kernel
  have apart : IdsApart (Mentioned ⟨["map.md"], .empty⟩ [mapRecord]) :=
    idsApart_of_places (by decide +kernel)
  have countable : Record.Countable ⟨["map.md"], .empty⟩ [mapRecord] :=
    Record.countable_of_places (by decide +kernel) (by decide +kernel)
  have documented : mapRecord.DocumentedBy "# ΟΔΟΣ ČapekStreet\n" :=
    ⟨Markdown.extract "# ΟΔΟΣ ČapekStreet\n", by decide +kernel, by decide +kernel⟩
  have texts : Extraction.docTexts .markdown "map.md" "# ΟΔΟΣ ČapekStreet\n" =
      ["ΟΔΟΣ ČapekStreet".toList] := by
    decide +kernel
  have three : (Term.distinct (String.ofList "ΟΔΟΣ ČapekStreet".toList)).length = 3 := by
    decide +kernel
  have checked : "ΟΔΟΣ ČapekStreet".toList.all
      (fun c => decide (Text.isAlphanumeric c = true → Text.Foldable c)) = true := by
    decide +kernel
  have foldable : ∀ c ∈ "ΟΔΟΣ ČapekStreet".toList, Text.isAlphanumeric c = true → Text.Foldable c :=
    fun c hc => of_decide_eq_true (List.all_eq_true.mp checked c hc)
  have keyed : ∀ p, (none : Option Snapshot) = some p → p.Keyed := fun _ it => nomatch it
  rw [← records, ← resolver.1, ← resolver.2] at apart countable
  obtain ⟨every, files⟩ := documentation_finds_files keyed built found
  rw [records] at every
  have here := (every mapRecord (List.mem_singleton_self _)).2 (records ▸ apart)
  have place := mapRecord.fileNode_place
  obtain ⟨r, hr, _, _, each⟩ := files _ here (congrArg Prod.fst place.1)
  rw [records, List.mem_singleton] at hr
  subst hr
  obtain ⟨_, finds⟩ := each _ documented "ΟΔΟΣ ČapekStreet".toList (texts ▸ List.mem_singleton_self _)
  obtain ⟨held, whole⟩ := finds foldable
  have hit := whole countable (by decide +kernel)
  rw [three, String.ofList_toList, place.2.id_eq place.1] at hit
  exact ⟨built, records, documented, texts, held "οδος" (by decide +kernel), hit⟩

def dottedTree : SourceTree := ⟨TextMap.ofList [("README.md", .text "# İstanbul\n")]⟩

def dottedSnapshot : Snapshot := (dottedTree.build sampleConfig sampleRoot none).toOption.getD .empty

/-- A heading with a dotted capital I becomes a term with a combining dot, and this is cut at the dot when it
is read again. The heading does not find its own file. -/
theorem dotted_heading_is_lost : dottedTree.build sampleConfig sampleRoot none = .ok dottedSnapshot ∧
    Extraction.docTexts .markdown "README.md" "# İstanbul\n" = ["İstanbul".toList] ∧
    Term.tokenize "İstanbul" = ["i\u0307stanbul"] ∧
    dottedSnapshot.graph.nodes.map (fun n => (n.path, n.tokens.keys)) =
      [("README.md", ["i", "md", "readme", "stanbul"])] ∧
    dottedSnapshot.records.values.map (·.docTerms) = [["i\u0307stanbul"]] ∧
    dottedSnapshot.graph.search "İstanbul" 10 0 = .ok [] := by
  decide +kernel

end SourceAtlas
