import SourceAtlas.Proofs.Extraction.ByLine

/-! Links of documentation. A link is followed to the path that its destination has in front of an anchor and
a query, if there is one and if the destination does not open with the scheme of an address. So what a
link leads to is never an address with a scheme and never an anchor. The host of an address without a
scheme is taken for a path. -/
namespace SourceAtlas.Markdown

variable {cs raw dest target line : List Char} {spec : Spec}

/-- A letter, then letters, digits, plus signs, dots and hyphens, then a colon. -/
def OpensWithScheme (cs : List Char) : Prop := ∃ c middle rest,
  cs = c :: middle ++ ':' :: rest ∧ isLetter c = true ∧ ∀ x ∈ middle, isSchemeChar x = true

/-- A pattern that is bound to the start of the text matches at the start or nowhere. -/
theorem scan_scheme_behind (taken offset : Nat) (c : Char) (rest : List Char) :
    scheme.scan taken offset (some c) rest = [] := by
  have nowhere : ∀ offset c rest, scheme.matchAt? offset (some c) rest = none := fun _ _ _ => rfl
  induction rest generalizing taken offset c with
  | nil => cases taken <;> rfl
  | cons d rest ih =>
    cases taken with
    | succ taken => exact ih taken (offset + 1) d
    | zero =>
      rw [Text.Pattern.scan, nowhere]
      exact ih 0 (offset + 1) d

theorem exists_mem_ends_scheme_iff :
    (∃ t, t ∈ scheme.ends ⟨0, none, cs, []⟩) ↔ OpensWithScheme cs := by
  simp only [scheme, Text.Pattern.inOrder, List.foldr_cons, List.foldr_nil, Text.Pattern.ends,
    Option.isNone_none, if_true, List.flatMap_singleton, List.mem_flatMap, Option.mem_toList,
    List.drop_zero, List.mem_reverse, List.mem_singleton]
  constructor
  · rintro ⟨_, behindLetter, letter, behindMiddle, middle, _, colon, rfl⟩
    obtain ⟨c, rest, rfl, isLetter, rfl⟩ := Text.Cursor.step?_eq_some_iff.mp letter
    obtain ⟨run, cut, schemeChars, _⟩ := Text.Cursor.mem_reached_iff.mp middle
    obtain ⟨d, rest', shape, isColon, rfl⟩ := Text.Cursor.step?_eq_some_iff.mp colon
    obtain rfl := eq_of_beq isColon
    refine ⟨c, run, rest', ?_, isLetter, schemeChars⟩
    rw [List.cons_append, ← shape, ← cut]
  · rintro ⟨c, run, rest, rfl, isLetter, schemeChars⟩
    let last : Text.Cursor := ⟨1 + run.length + 1, some ':', rest, []⟩
    refine ⟨last, ⟨1, some c, run ++ ':' :: rest, []⟩, ?_,
      ⟨1 + run.length, run.getLast?.or (some c), ':' :: rest, []⟩, ?_, last, ?_, rfl⟩
    · exact Text.Cursor.step?_eq_some_iff.mpr ⟨c, _, rfl, isLetter, rfl⟩
    · exact Text.Cursor.mem_reached_iff.mpr ⟨run, rfl, schemeChars, rfl, rfl, rfl⟩
    · exact Text.Cursor.step?_eq_some_iff.mpr ⟨':', rest, rfl, by decide, rfl⟩

theorem matchesIn_scheme_iff : scheme.matchesIn cs = true ↔ OpensWithScheme cs := by
  rw [← exists_mem_ends_scheme_iff]
  have front : scheme.findAll cs = (scheme.matchAt? 0 none cs).toList := by
    cases cs with
    | nil => rfl
    | cons c more =>
      rw [Text.Pattern.findAll, Text.Pattern.scan, scan_scheme_behind]
      cases scheme.matchAt? 0 none (c :: more) with
      | none => rfl
      | some m => rw [Option.toList_some, ← scan_scheme_behind (m.stop - 0 - 1) 1 c more]
  rw [Text.Pattern.matchesIn, front, Text.Pattern.matchAt?]
  cases scheme.ends ⟨0, none, cs, []⟩ with
  | nil => simp
  | cons t ends => simp

theorem OpensWithScheme.of_prefix (opens : OpensWithScheme target) (start : target <+: dest) :
    OpensWithScheme dest := by
  obtain ⟨c, middle, rest, rfl, letter, schemeChars⟩ := opens
  obtain ⟨behind, rfl⟩ := start
  exact ⟨c, middle, rest ++ behind, by simp, letter, schemeChars⟩

/-- What a destination has in front of its anchor and its query. -/
structure IsPathOf (dest target : List Char) : Prop where
  some : target ≠ []
  clear : ∀ c ∈ target, c ≠ '#' ∧ c ≠ '?'
  cut : ∃ rest, dest = target ++ rest ∧ ∀ c ∈ rest.head?, c = '#' ∨ c = '?'

theorem isPathOf_iff :
    IsPathOf dest target ↔ target ≠ [] ∧ target = dest.takeWhile fun c => c != '#' && c != '?' := by
  constructor
  · rintro ⟨some, clear, rest, rfl, stop⟩
    refine ⟨some, ?_⟩
    rw [List.takeWhile_append_of_pos (by simpa using clear)]
    cases rest with
    | nil => simp
    | cons c more =>
      rw [List.takeWhile_cons_of_neg (by have := stop c rfl; grind), List.append_nil]
  · rintro ⟨some, rfl⟩
    refine ⟨some, ?_, _, List.takeWhile_append_dropWhile.symm, ?_⟩
    · intro c inside
      simpa using List.mem_takeWhile_imp inside
    · intro c first
      have stop := List.head?_dropWhile_not (fun c => c != '#' && c != '?') dest
      rw [first] at stop
      grind

/-- Destinations that are empty or open with an anchor have no path. -/
theorem linkTarget_eq_some_iff : linkTarget? raw = some target ↔
    IsPathOf (destination raw) target ∧ ¬ OpensWithScheme (destination raw) := by
  rw [isPathOf_iff, ← matchesIn_scheme_iff, linkTarget?]
  generalize destination raw = dest
  cases dest with
  | nil => simp
  | cons c more =>
    by_cases anchor : c = '#'
    · simp [anchor]
    · by_cases opens : scheme.matchesIn (c :: more) = true
      · simp [opens]
      · simp only [List.isEmpty_cons, List.head?_cons, Option.some_beq_some, beq_eq_false_iff_ne.mpr anchor,
          opens, Bool.or_self, Bool.false_eq_true, if_false, List.isEmpty_iff, not_false_eq_true, and_true]
        split
        · next none => simp [none]
        · next some =>
          rw [Option.some.injEq]
          constructor
          · rintro rfl
            exact ⟨some, rfl⟩
          · rintro ⟨_, rfl⟩
            rfl

/-- What a source writes for destinations, in links and in definitions. -/
def written (source : String) : List (List Char) :=
  (inlineLink.findAll source.toList ++ referenceDefinition.findAll source.toList).filterMap written?

def destinations (source : String) : List (List Char) := (written source).map destination

theorem linkSpec_eq_some_iff : linkSpec? raw = some spec ↔
    ∃ target, spec = .docLink (String.ofList target) ∧
      IsPathOf (destination raw) target ∧ ¬ OpensWithScheme (destination raw) := by
  simp only [linkSpec?, Option.map_eq_some_iff, linkTarget_eq_some_iff]
  exact exists_congr fun target => by rw [and_comm, eq_comm]

theorem mem_specs_extract_iff {source : String} : spec ∈ (extract source).specs ↔
    ∃ dest ∈ destinations source, ∃ target, spec = .docLink (String.ofList target) ∧
      IsPathOf dest target ∧ ¬ OpensWithScheme dest := by
  have read : ∀ m, (linkDependency? source.toList m).map (·.spec) = (written? m).bind linkSpec? := by
    intro m
    rw [linkDependency_eq, Option.map_map]
    exact Option.map_id_apply ..
  change spec ∈ (Dependency.earliest _).map (·.spec) ↔ _
  rw [Dependency.mem_earliest_specs, List.map_filterMap, funext read, List.mem_filterMap]
  constructor
  · rintro ⟨m, found, linked⟩
    obtain ⟨raw, inside, linked⟩ := Option.bind_eq_some_iff.mp linked
    exact ⟨destination raw, List.mem_map_of_mem (List.mem_filterMap.mpr ⟨m, found, inside⟩),
      linkSpec_eq_some_iff.mp linked⟩
  · rintro ⟨dest, known, linked⟩
    obtain ⟨raw, inside, rfl⟩ := List.mem_map.mp known
    obtain ⟨m, found, inside⟩ := List.mem_filterMap.mp inside
    refine ⟨m, found, ?_⟩
    rw [inside, Option.bind_some, linkSpec_eq_some_iff.mpr linked]

theorem IsPathOf.isPrefix (path : IsPathOf dest target) : target <+: dest := by
  obtain ⟨rest, cut, _⟩ := path.cut
  exact ⟨rest, cut.symm⟩

/-- Two slashes open an address without a scheme, which has no letter in front. -/
theorem not_opensWithScheme_of_slash (opens : ['/'] <+: dest) : ¬ OpensWithScheme dest := by
  rintro ⟨c, middle, rest, rfl, letter, _⟩
  obtain ⟨rfl, _⟩ := List.cons_prefix_cons.mp opens
  cases letter

theorem exists_path_of_slashes (opens : ['/', '/'] <+: dest) :
    ∃ target, IsPathOf dest target ∧ ['/', '/'] <+: target := by
  obtain ⟨rest, rfl⟩ := opens
  refine ⟨_, isPathOf_iff.mpr ⟨?_, rfl⟩, ?_⟩
  · simp
  · simp

/-- What a source links to are the paths of its destinations without a scheme, so no address with a scheme
and nothing of an anchor or a query. An address that opens with two slashes is linked to as if it were
a path. -/
theorem links_lead_to_paths (source : String) :
    (∀ spec, spec ∈ (extract source).specs ↔ ∃ dest ∈ destinations source, ∃ target,
      spec = .docLink (String.ofList target) ∧ IsPathOf dest target ∧ ¬ OpensWithScheme dest) ∧
    (∀ target : String, .docLink target ∈ (extract source).specs →
      target ≠ "" ∧ '#' ∉ target.toList ∧ '?' ∉ target.toList ∧ ¬ OpensWithScheme target.toList) ∧
    ((∃ target : String, .docLink target ∈ (extract source).specs ∧ ['/', '/'] <+: target.toList) ↔
      ∃ dest ∈ destinations source, ['/', '/'] <+: dest) := by
  have path : ∀ {target : String}, .docLink target ∈ (extract source).specs →
      ∃ dest ∈ destinations source, IsPathOf dest target.toList ∧ ¬ OpensWithScheme dest := by
    intro target linked
    obtain ⟨dest, known, path, same, isPath, noScheme⟩ := mem_specs_extract_iff.mp linked
    cases same
    rw [String.toList_ofList]
    exact ⟨dest, known, isPath, noScheme⟩
  refine ⟨fun spec => mem_specs_extract_iff, ?_, ?_, ?_⟩
  · intro target linked
    obtain ⟨dest, _, isPath, noScheme⟩ := path linked
    refine ⟨?_, fun inside => (isPath.clear _ inside).1 rfl, fun inside => (isPath.clear _ inside).2 rfl,
      fun opens => noScheme (opens.of_prefix isPath.isPrefix)⟩
    rintro rfl
    exact isPath.some rfl
  · rintro ⟨target, linked, opens⟩
    obtain ⟨dest, known, isPath, _⟩ := path linked
    exact ⟨dest, known, opens.trans isPath.isPrefix⟩
  · rintro ⟨dest, known, opens⟩
    obtain ⟨target, isPath, slashes⟩ := exists_path_of_slashes opens
    have noScheme := not_opensWithScheme_of_slash (List.IsPrefix.trans ⟨['/'], rfl⟩ opens)
    refine ⟨String.ofList target, mem_specs_extract_iff.mpr ⟨dest, known, target, rfl, isPath, noScheme⟩, ?_⟩
    rwa [String.toList_ofList]

/-- Titles, angle brackets, an anchor, a query and an address. -/
def linkedSource : String :=
  "[a](<my file.md#top> \"A\") [b](mailto:a@b.c) [c](#c) [d](?q)\n[e]: c++/e.md?raw=1#x 'E'\n"

theorem linked_source_leads_to_paths :
    (extract linkedSource).specs = [.docLink "my file.md", .docLink "c++/e.md"] ∧
    ¬ OpensWithScheme "c++/e.md".toList := by
  have specs : (extract linkedSource).specs = [.docLink "my file.md", .docLink "c++/e.md"] := by
    rw [Extraction.specs, dependencies_extract, Dependency.earliest_of_ordered (by decide +kernel)]
    decide +kernel
  have listed : .docLink "c++/e.md" ∈ (extract linkedSource).specs := by simp [specs]
  exact ⟨specs, ((links_lead_to_paths linkedSource).2.1 "c++/e.md" listed).2.2.2⟩

theorem host_is_taken_for_path : ∃ (source target : String),
    .docLink target ∈ (extract source).specs ∧ ['/', '/'] <+: target.toList := by
  refine ⟨"[site](//example.com/a.md)\n", "//example.com/a.md", ?_, by decide⟩
  have specs : (extract "[site](//example.com/a.md)\n").specs =
      [.docLink "//example.com/a.md"] := by
    rw [Extraction.specs, dependencies_extract, Dependency.earliest_of_ordered (by decide +kernel)]
    decide +kernel
  simp [specs]

end SourceAtlas.Markdown
