import SourceAtlas.Proofs.Build.Edit
import SourceAtlas.Proofs.Path

/-! The language and the grammar of a path. The language follows from the extension of the last component,
and the grammar from what stands behind the last dot of the whole path. These differ only if the last dot
stands in front of the last slash: then the last component has no extension, and what stands behind the dot
holds a slash, as no extension of a grammar does. So both detections agree on every path. -/
namespace SourceAtlas

section Extensions

variable {before cs ext : List Char}

theorem extension?_append (clear : '.' ∉ ext) : extension? (before ++ '.' :: ext) = some ext := by
  rw [extension?, if_pos (by simp), List.reverse_append, List.reverse_cons, List.append_assoc,
    List.takeWhile_append_of_pos (bne_of_mem_reverse clear)]
  simp

theorem extension?_eq_some_iff : extension? cs = some ext ↔ '.' ∉ ext ∧ '.' :: ext <:+ cs := by
  constructor
  · intro found
    have dotted : '.' ∈ cs := by
      rw [extension?] at found
      split at found
      · next dotted => simpa using dotted
      · cases found
    obtain ⟨front, after, rfl, clear⟩ := exists_last dotted
    rw [extension?_append clear] at found
    cases found
    exact ⟨clear, List.suffix_append ..⟩
  · rintro ⟨clear, front, rfl⟩
    exact extension?_append clear

/-- The last component has the extension of the path, unless the last dot stands in front of it. -/
theorem extension?_baseName_eq_some_iff :
    extension? (baseName cs) = some ext ↔ extension? cs = some ext ∧ '/' ∉ ext := by
  simp only [extension?_eq_some_iff]
  by_cases slash : '/' ∈ cs
  · obtain ⟨front, name, rfl, clear⟩ := exists_last slash
    rw [baseName_append, baseName_of_not_mem clear]
    have behind : '/' :: name <:+ front ++ '/' :: name := List.suffix_append ..
    constructor
    · rintro ⟨noDot, ends⟩
      refine ⟨⟨noDot, (ends.trans (List.suffix_cons ..)).trans behind⟩, ?_⟩
      exact fun inside => clear (ends.subset (List.mem_cons_of_mem _ inside))
    · rintro ⟨⟨noDot, ends⟩, noSlash⟩
      refine ⟨noDot, ?_⟩
      rcases List.suffix_or_suffix_of_suffix ends behind with shorter | longer
      · exact (List.suffix_cons_iff.mp shorter).resolve_left (by simp)
      · have inside : '/' ∈ '.' :: ext := longer.subset List.mem_cons_self
        exact absurd inside (by simpa using noSlash)
  · rw [baseName_of_not_mem slash]
    constructor
    · rintro ⟨noDot, ends⟩
      exact ⟨⟨noDot, ends⟩, fun inside => slash (ends.subset (List.mem_cons_of_mem _ inside))⟩
    · exact And.left

end Extensions

/-- The language that a grammar is for. -/
def Grammar.language : Grammar → Language
  | .rust => .rust
  | .typeScript | .tsx => .typeScript
  | .javaScript => .javaScript
  | .python => .python

def Grammar.extensions : Grammar → List String
  | .rust => ["rs"]
  | .typeScript => ["ts", "mts", "cts"]
  | .tsx => ["tsx"]
  | .javaScript => ["js", "jsx", "mjs", "cjs"]
  | .python => ["py", "pyi"]

section Tables

variable {ext : String} {g : Grammar} {path : String}

theorem Grammar.ofExtension?_eq_some_iff : ofExtension? ext = some g ↔ ext ∈ g.extensions := by
  cases g <;> grind [ofExtension?, extensions]

theorem Grammar.extensions_clear : ∀ g : Grammar, ∀ ext ∈ g.extensions, '/' ∉ ext.toList := by
  intro g
  cases g <;> decide

theorem Grammar.language_of_extension :
    ∀ g : Grammar, ∀ ext ∈ g.extensions, Language.ofExtension ext = g.language := by
  intro g
  cases g <;> decide

theorem Language.exists_grammar (g : Grammar) (same : ofExtension ext = g.language) :
    ∃ g' : Grammar, ext ∈ g'.extensions := by
  unfold ofExtension at same
  split_ifs at same with rust typed script python
  · exact ⟨.rust, List.mem_singleton.mpr rust⟩
  · by_cases marked : ext = "tsx"
    · exact ⟨.tsx, List.mem_singleton.mpr marked⟩
    · exact ⟨.typeScript, by grind [Grammar.extensions]⟩
  · exact ⟨.javaScript, List.contains_iff_mem.mp script⟩
  · exact ⟨.python, List.contains_iff_mem.mp python⟩
  all_goals cases g <;> cases same

/-- A grammar goes by the extension of the last component as well. -/
theorem Grammar.ofPath?_eq_some_iff : ofPath? path = some g ↔
    ∃ ext, extension? (baseName path.toList) = some ext ∧ String.ofList ext ∈ g.extensions := by
  rw [ofPath?, Option.bind_eq_some_iff]
  refine exists_congr fun ext => ?_
  rw [ofExtension?_eq_some_iff, extension?_baseName_eq_some_iff, and_assoc]
  refine and_congr_right fun _ => ⟨fun listed => ⟨?_, listed⟩, And.right⟩
  simpa using g.extensions_clear _ listed

theorem Grammar.language_of_path (found : ofPath? path = some g) :
    g.language = Language.ofPath path := by
  obtain ⟨ext, behind, listed⟩ := ofPath?_eq_some_iff.mp found
  rw [Language.ofPath, behind]
  exact (g.language_of_extension _ listed).symm

theorem Grammar.exists_of_language (same : Language.ofPath path = g.language) :
    ∃ g', ofPath? path = some g' := by
  rw [Language.ofPath] at same
  split at same
  · next ext behind =>
    obtain ⟨g', listed⟩ := Language.exists_grammar g same
    exact ⟨g', ofPath?_eq_some_iff.mpr ⟨ext, behind, listed⟩⟩
  · cases g <;> cases same

end Tables

/-- The languages that are read with a grammar. -/
def Language.parsed : List Language := [.rust, .typeScript, .javaScript, .python]

theorem Language.mem_parsed_iff {l : Language} : l ∈ parsed ↔ ∃ g : Grammar, g.language = l := by
  constructor
  · intro listed
    simp only [parsed, List.mem_cons, List.not_mem_nil, or_false] at listed
    rcases listed with rfl | rfl | rfl | rfl
    · exact ⟨.rust, rfl⟩
    · exact ⟨.typeScript, rfl⟩
    · exact ⟨.javaScript, rfl⟩
    · exact ⟨.python, rfl⟩
  · rintro ⟨g, rfl⟩
    cases g <;> decide

section Reading

variable [Tools]

theorem Extraction.exists_ofSource {l : Language} (indexed : l.indexed = true) (path source : String) :
    ∃ result, ofSource? l path source = some result := by
  cases l with
  | other => cases indexed
  | _ => exact ⟨_, rfl⟩

theorem Extraction.ofSource_script {path : String} {g : Grammar} (found : Grammar.ofPath? path = some g)
    {l : Language} (script : l = .typeScript ∨ l = .javaScript) (source : String) :
    ofSource? l path source = some ((Tools.parse g path source).map Script.extract) := by
  rcases script with rfl | rfl <;> simp [ofSource?, Grammar.ofScript, found]

theorem Candidate.skipped_iff {c : Candidate} (indexed : c.language.indexed = true) :
    (∃ warning, c.parse = .skipped warning) ↔
      ∀ content source, c.data = .readable content → Text.ofUtf8? content = some source →
        ∃ cause, Extraction.ofSource? c.language c.path source = some (.error cause) := by
  rcases c.parse_cases with ⟨content, e, ⟨data, source, text, parsed⟩, outcome⟩ | ⟨never, message, outcome⟩
  · rw [outcome]
    constructor
    · rintro ⟨_, ⟨⟩⟩
    · intro fails
      obtain ⟨cause, failed⟩ := fails content source data text
      cases parsed.symm.trans failed
  · refine iff_of_true ⟨_, outcome⟩ ?_
    intro content source data text
    obtain ⟨result, made⟩ := Extraction.exists_ofSource indexed c.path source
    cases result with
    | error cause => exact ⟨cause, made⟩
    | ok e => exact absurd ⟨data, source, text, made⟩ (never content e)

end Reading

/-- A path has a grammar if and only if it has a language that needs one, and then it is one of that
language. So a script that is discovered is parsed by the grammar of its own path and never by another in
its place, and a file that is discovered is left out only if it cannot be read, holds no text or makes the
parser fail, and never for want of a reader. -/
theorem grammars_follow_languages [Tools] :
    (∀ path, ((∃ g, Grammar.ofPath? path = some g) ↔ Language.ofPath path ∈ Language.parsed) ∧
      ∀ g, Grammar.ofPath? path = some g → g.language = Language.ofPath path) ∧
    ∀ (t : SourceTree) (config : BuildConfig) (root : BuildRoot) (d : Discovery),
      t.discover config root = .ok d → ∀ c ∈ d.candidates, c.language = Language.ofPath c.path ∧
        (∀ source, (∃ result, Extraction.ofSource? c.language c.path source = some result) ∧
          (c.language = .typeScript ∨ c.language = .javaScript →
            ∃ g, Grammar.ofPath? c.path = some g ∧ g.language = c.language ∧
              Extraction.ofSource? c.language c.path source =
                some ((Tools.parse g c.path source).map Script.extract))) ∧
        ((∃ warning, c.parse = .skipped warning) ↔
          ∀ content source, c.data = .readable content → Text.ofUtf8? content = some source →
            ∃ cause, Extraction.ofSource? c.language c.path source = some (.error cause)) := by
  have agree : ∀ path, (∃ g, Grammar.ofPath? path = some g) ↔ Language.ofPath path ∈ Language.parsed := by
    intro path
    rw [Language.mem_parsed_iff]
    constructor
    · rintro ⟨g, found⟩
      exact ⟨g, Grammar.language_of_path found⟩
    · rintro ⟨g, same⟩
      exact Grammar.exists_of_language same.symm
  refine ⟨fun path => ⟨agree path, fun g => Grammar.language_of_path⟩, ?_⟩
  intro t config root d found c hc
  have shape := (Candidate.seen_of_discover (i := ⟨t, config, root⟩) found hc).2
  have language : c.language = Language.ofPath c.path := by rw [shape]; rfl
  have indexed : c.language.indexed = true :=
    language ▸ BuildInput.indexed_of_candidate (i := ⟨t, config, root⟩) found hc
  refine ⟨language, fun source => ⟨Extraction.exists_ofSource indexed c.path source, ?_⟩,
    Candidate.skipped_iff indexed⟩
  intro script
  have needed : Language.ofPath c.path ∈ Language.parsed := by
    rw [← language]
    rcases script with same | same <;> simp [same, Language.parsed]
  obtain ⟨g, known⟩ := (agree c.path).mpr needed
  exact ⟨g, known, (Grammar.language_of_path known).trans language.symm,
    Extraction.ofSource_script known script source⟩

open Scanners

/-- Dots in the name of a directory, and in front of a name. -/
def dottedNames : SourceTree := ⟨TextMap.ofList
  [("web.py", .directory), ("web.py/map.tsx", .text "import './tiles';\n"),
    ("web.py/.mjs", .file (.readable [0xff])), ("web.py/README", .text "")]⟩

def dottedScript : Candidate :=
  ⟨"web.py/map.tsx", .typeScript, .readable (Text.utf8 "import './tiles';\n")⟩

def dottedDiscovery : Discovery :=
  (dottedNames.discover sampleConfig sampleRoot).toOption.getD ⟨[], [], [], .empty⟩

theorem dotted_names_follow_languages :
    Grammar.ofPath? "web.py/README" = none ∧ Language.ofPath "web.py/README" ∉ Language.parsed ∧
    dottedNames.discover sampleConfig sampleRoot = .ok dottedDiscovery ∧
    dottedDiscovery.candidates = [⟨"web.py/.mjs", .javaScript, .readable [0xff]⟩, dottedScript] ∧
    ∃ g, Grammar.ofPath? dottedScript.path = some g ∧ g.language = .typeScript ∧
      Extraction.ofSource? dottedScript.language dottedScript.path "import './tiles';\n" =
        some ((Tools.parse g dottedScript.path "import './tiles';\n").map Script.extract) := by
  have bare : Grammar.ofPath? "web.py/README" = none := by decide +kernel
  have other : Language.ofPath "web.py/README" ∉ Language.parsed := by
    rw [← (grammars_follow_languages.1 "web.py/README").1, bare]
    simp
  have found : dottedNames.discover sampleConfig sampleRoot = .ok dottedDiscovery := by decide +kernel
  have listed : dottedDiscovery.candidates = [⟨"web.py/.mjs", .javaScript, .readable [0xff]⟩, dottedScript] := by
    decide +kernel
  obtain ⟨_, read, _⟩ := grammars_follow_languages.2 _ _ _ _ found dottedScript (by simp [listed])
  exact ⟨bare, other, found, listed, (read _).2 (.inl rfl)⟩

end SourceAtlas
