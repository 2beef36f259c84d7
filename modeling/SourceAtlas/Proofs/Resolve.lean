import SourceAtlas.Proofs.Path
import SourceAtlas.Resolve

/-! What a dependency can resolve to. An answer inside of the tree is always a listed file. Whether there
can be other answers depends on how the dependency is written: one that points at a place of the tree is
found there or missing, one that names something is found in the tree or lies outside. -/
namespace SourceAtlas

namespace Text

variable {α : Type} [DecidableEq α]

theorem flatten_split (sep : α) (cs : List α) : (split sep cs).flatten = cs.filter (· ≠ sep) := by
  induction cs with
  | nil => rfl
  | cons c rest ih =>
    obtain ⟨part, more, parts⟩ := List.exists_cons_of_ne_nil (split_ne_nil sep rest)
    rw [parts, List.flatten_cons] at ih
    by_cases here : c = sep
    · simp [split_cons, here, parts, ih]
    · simp [split_cons, here, parts, ih]

end Text

namespace Resolution

/-- A listed file or nothing. -/
inductive Inside (listing : List String) : Resolution → Prop where
  | listed {path : String} : path ∈ listing → Inside listing (.internal path)
  | missing : Inside listing .missing

/-- A listed file or something outside of the tree. -/
inductive Answered (listing : List String) : Resolution → Prop where
  | listed {path : String} : path ∈ listing → Answered listing (.internal path)
  | outside (name : String) : Answered listing (.external name)

theorem ofOption_inside {listing : List String} {found : Option String}
    (sound : ∀ path, found = some path → path ∈ listing) : (ofOption found).Inside listing := by
  cases found with
  | none => exact .missing
  | some path => exact .listed (sound path rfl)

end Resolution

/-- The words that a `use` path starts with if it stays in its crate. -/
def crateWords : List String := ["crate", "self", "super"]

/-- A specifier that is rooted or starts with a dot component. -/
def PointsAtPlace (specifier : String) : Prop :=
  specifier = "." ∨ specifier = ".." ∨ "./".toList <+: specifier.toList ∨
    "../".toList <+: specifier.toList ∨ "/".toList <+: specifier.toList

namespace Spec

/-- Written as a place of the tree. -/
def PointsInside : Spec → Prop
  | .rustMod .. | .docLink _ => True
  | .rustUse segments => ∃ first ∈ segments.head?, first ∈ crateWords
  | .pythonImport _ _ level => 0 < level
  | .jsImport specifier => PointsAtPlace specifier
  | .cInclude .. => False

/-- Written as the name of something that may lie outside of the tree, as a library crate does not. -/
def NamesSomething (crates : TextMap String) : Spec → Prop
  | .rustMod .. | .docLink _ => False
  | .rustUse segments =>
    ∃ first ∈ segments.head?, first ∉ crateWords ∧ crates.get? first = none
  | .pythonImport module _ level => level = 0 ∧ ∃ c ∈ module.toList, c ≠ '.'
  | .jsImport specifier => ¬ PointsAtPlace specifier
  | .cInclude .. => True

end Spec

namespace Resolver

variable {r : Resolver} {origin path src name dir : String}

theorem listed_of_firstExisting {places : List String} (h : r.firstExisting places = some path) :
    path ∈ r.listing := by
  have found : r.has path = true := List.find?_some h
  simpa [has] using found

theorem firstExisting_inside (r : Resolver) (places : List String) :
    (Resolution.ofOption (r.firstExisting places)).Inside r.listing :=
  Resolution.ofOption_inside fun _ => listed_of_firstExisting

section Documents

theorem document_inside (r : Resolver) (origin target : String) :
    (r.document origin target).Inside r.listing := by
  unfold document
  extract_lets place
  clear_value place
  cases place with
  | none => exact .missing
  | some path => exact r.firstExisting_inside _

theorem header_answered (r : Resolver) (origin header : String) (system : Bool) :
    (r.header origin header system).Answered r.listing := by
  unfold Resolver.header
  split
  · exact .outside header
  · extract_lets places
    split
    · next found => exact .listed (listed_of_firstExisting found)
    · exact .outside header

end Documents

section Scripts

theorem startsWith_iff {start cs : List Char} : Text.startsWith start cs = true ↔ start <+: cs := by
  rw [Text.startsWith, Option.isSome_iff_exists]
  simp only [Text.dropPrefix_eq_some_iff]
  exact exists_congr fun _ => eq_comm

theorem scriptBase_isSome_iff (origin : String) {specifier : String} :
    (scriptBase? origin specifier).isSome = true ↔ PointsAtPlace specifier := by
  unfold scriptBase? PointsAtPlace
  split
  · next rest rooted =>
    simp [rooted]
  · next unrooted =>
    have other : ¬ "/".toList <+: specifier.toList := by
      rintro ⟨rest, shape⟩
      exact unrooted rest shape.symm
    split
    · next dotted =>
      simp only [Bool.or_eq_true, startsWith_iff, decide_eq_true_eq] at dotted
      simp only [Option.isSome_some, true_iff, ← String.toList_inj]
      rcases dotted with ((here | above) | one) | two
      · exact .inr (.inr (.inl here))
      · exact .inr (.inr (.inr (.inl above)))
      · exact .inl one
      · exact .inr (.inl two)
    · next bare =>
      simp only [Bool.or_eq_true, startsWith_iff, decide_eq_true_eq, not_or] at bare
      simp only [Option.isSome_none, Bool.false_eq_true, false_iff, not_or, ← String.toList_inj]
      exact ⟨bare.1.2, bare.2, bare.1.1.1, bare.1.1.2, other⟩

theorem script_inside {specifier : String} (place : PointsAtPlace specifier) :
    (r.script origin specifier).Inside r.listing := by
  have based := (scriptBase_isSome_iff origin).mpr place
  unfold script
  split
  · next bare =>
    rw [bare] at based
    cases based
  · exact .missing
  · exact r.firstExisting_inside _

theorem script_of_bare (r : Resolver) (origin : String) {specifier : String} (bare : ¬ PointsAtPlace specifier) :
    ∃ name, r.script origin specifier = .external name := by
  have none : scriptBase? origin specifier = none := by
    rw [← Option.not_isSome_iff_eq_none, scriptBase_isSome_iff]
    exact bare
  exact ⟨packageName specifier, by rw [script, none]⟩

end Scripts

section Python

variable {dotted names : List String}

theorem listed_of_pythonModule (h : r.pythonModule dir dotted = some path) : path ∈ r.listing :=
  listed_of_firstExisting h

theorem listed_of_longestModule {len : Nat} (h : r.longestModule dir dotted len = some path) :
    path ∈ r.listing := by
  induction len with
  | zero => cases h
  | succ len ih =>
    unfold longestModule at h
    split at h
    · next found =>
      cases h
      exact listed_of_pythonModule found
    · exact ih h

theorem dottedNames_eq_nil_iff {module : String} :
    dottedNames module = [] ↔ ∀ c ∈ module.toList, c = '.' := by
  have parts : (Text.split '.' module.toList).filter (· ≠ []) = [] ↔
      (Text.split '.' module.toList).flatten = [] := by
    simp [List.filter_eq_nil_iff, List.flatten_eq_nil_iff]
  rw [dottedNames, List.map_eq_nil_iff, parts, Text.flatten_split, List.filter_eq_nil_iff]
  simp

theorem relativeImport_ne_nil (r : Resolver) (package : String) (dotted names : List String) :
    r.relativeImport package dotted names ≠ [] := by
  unfold relativeImport
  split
  · split
    · simp
    · next full =>
      simpa using full
  · simp

theorem relativeImport_inside (r : Resolver) (package : String) (dotted names : List String) :
    ∀ answer ∈ r.relativeImport package dotted names, answer.Inside r.listing := by
  intro answer given
  unfold relativeImport at given
  split at given
  · split at given
    · rw [List.mem_singleton.mp given]
      exact r.firstExisting_inside _
    · obtain ⟨path, found, rfl⟩ := List.mem_map.mp given
      obtain ⟨name, _, module⟩ := List.mem_filterMap.mp found
      exact .listed (listed_of_pythonModule module)
  · rw [List.mem_singleton.mp given]
    exact r.firstExisting_inside _

/-- The only module without an answer is the one without a name. -/
theorem absoluteImport_cases (r : Resolver) (origin : String) (dotted : List String) :
    ∃ answer, r.absoluteImport origin dotted = [answer] ∧
      (answer.Answered r.listing ∨ dotted = [] ∧ answer = .missing) := by
  unfold absoluteImport
  split
  · exact ⟨_, rfl, .inr ⟨rfl, rfl⟩⟩
  · split
    · next found => exact ⟨_, rfl, .inl (.listed (listed_of_longestModule found))⟩
    · split
      · next found => exact ⟨_, rfl, .inl (.listed (listed_of_longestModule found))⟩
      · exact ⟨_, rfl, .inl (.outside _)⟩

theorem python_ne_nil (r : Resolver) (origin module : String) (names : List String) (level : Nat) :
    r.python origin module names level ≠ [] := by
  cases level with
  | zero =>
    obtain ⟨answer, given, _⟩ := r.absoluteImport_cases origin (dottedNames module)
    rw [python, given]
    exact List.cons_ne_nil _ _
  | succ up =>
    rw [python]
    split
    · exact List.cons_ne_nil _ _
    · exact r.relativeImport_ne_nil _ _ _

theorem python_inside (r : Resolver) (origin module : String) (names : List String) (up : Nat) :
    ∀ answer ∈ r.python origin module names (up + 1), answer.Inside r.listing := by
  intro answer given
  rw [python] at given
  split at given
  · rw [List.mem_singleton.mp given]
    exact .missing
  · exact r.relativeImport_inside _ _ _ answer given

end Python

section Rust

variable {names base tail : List String}

theorem listed_of_moduleFile (h : r.moduleFile src names = some path) : path ∈ r.listing := by
  unfold moduleFile at h
  split at h <;> exact listed_of_firstExisting h

theorem rustMod_inside (r : Resolver) (origin : String) (inline : List String) (name : String) :
    (r.rustMod origin inline name).Inside r.listing :=
  r.firstExisting_inside _

theorem deepestModule_inside (r : Resolver) (src : String) (names : List String) (least extra : Nat) :
    (r.deepestModule src names least extra).Inside r.listing := by
  induction extra with
  | zero => exact Resolution.ofOption_inside fun _ => listed_of_moduleFile
  | succ extra ih =>
    unfold deepestModule
    split
    · next found => exact .listed (listed_of_moduleFile found)
    · exact ih

/-- The search passes every prefix of its range, so it does not miss one with a file. -/
theorem deepestModule_of_module {least extra len : Nat} (above : least ≤ len) (below : len ≤ least + extra)
    (file : (r.moduleFile src (names.take len)).isSome = true) :
    ∃ path ∈ r.listing, r.deepestModule src names least extra = .internal path := by
  induction extra with
  | zero =>
    have here : len = least := by omega
    obtain ⟨path, found⟩ := Option.isSome_iff_exists.mp (here ▸ file)
    exact ⟨path, listed_of_moduleFile found, by rw [deepestModule, found, Resolution.ofOption]⟩
  | succ extra ih =>
    unfold deepestModule
    split
    · next path found => exact ⟨path, listed_of_moduleFile found, rfl⟩
    · next none =>
      apply ih
      have other : len ≠ least + extra + 1 := by
        rintro rfl
        rw [none] at file
        cases file
      omega

theorem moduleAlong_inside (r : Resolver) (src : String) (base tail : List String) :
    (r.moduleAlong src base tail).Inside r.listing :=
  r.deepestModule_inside _ _ _ _

theorem useByName_cases (r : Resolver) (src : Option String) (name : String) (rest : List String) :
    (∃ path ∈ r.listing, r.useByName src name rest = .internal path) ∨
      (∃ crate, r.crates.get? name = some crate ∧
        r.useByName src name rest = r.moduleAlong crate [] rest) ∨
      r.crates.get? name = none ∧ r.useByName src name rest = .external name := by
  unfold useByName
  split
  · next crate own =>
    obtain ⟨_, _, module⟩ := Option.bind_eq_some_iff.mp own
    obtain ⟨file, found, rfl⟩ := Option.map_eq_some_iff.mp module
    refine .inl (deepestModule_of_module (Nat.zero_le 1) ?_ ?_)
    · simp
    · simp [found]
  · split
    · next crate known => exact .inr (.inl ⟨crate, known, rfl⟩)
    · next unknown => exact .inr (.inr ⟨unknown, rfl⟩)

theorem useByName_answered {rest : List String} (unknown : r.crates.get? name = none)
    (src : Option String) : (r.useByName src name rest).Answered r.listing := by
  rcases r.useByName_cases src name rest with ⟨path, listed, same⟩ | ⟨crate, known, _⟩ | ⟨_, same⟩
  · exact same ▸ .listed listed
  · rw [unknown] at known
    cases known
  · exact same ▸ .outside name

theorem rustUse_inside {first : String} (word : first ∈ crateWords) (rest : List String) :
    (r.rustUse origin (first :: rest)).Inside r.listing := by
  simp only [rustUse]
  generalize r.crateSource origin = src
  split
  · cases src with
    | none => exact .missing
    | some src => exact r.moduleAlong_inside _ _ _
  · next notCrate =>
    split
    · cases src with
      | none => exact .missing
      | some src => exact r.moduleAlong_inside _ _ _
    · next notSelf =>
      split
      · cases src with
        | none => exact .missing
        | some src =>
          simp only
          split
          · exact r.moduleAlong_inside _ _ _
          · exact .missing
      · next notSuper =>
        simp [crateWords, notCrate, notSelf, notSuper] at word

theorem rustUse_of_name {first : String} (other : first ∉ crateWords) (rest : List String) :
    r.rustUse origin (first :: rest) = r.useByName (r.crateSource origin) first rest := by
  simp only [crateWords, List.mem_cons, List.not_mem_nil, or_false, not_or] at other
  simp [rustUse, other]

end Rust

section Forms

variable {spec : Spec}

theorem resolve_ne_nil (r : Resolver) (origin : String) (spec : Spec) : r.resolve origin spec ≠ [] := by
  cases spec with
  | pythonImport module names level => exact r.python_ne_nil _ _ _ _
  | _ => exact List.cons_ne_nil _ _

theorem resolve_inside (inward : spec.PointsInside) :
    ∀ answer ∈ r.resolve origin spec, answer.Inside r.listing := by
  intro answer given
  cases spec with
  | rustMod name inline =>
    rw [List.mem_singleton.mp given]
    exact r.rustMod_inside _ _ _
  | rustUse segments =>
    obtain ⟨first, head, word⟩ := inward
    obtain ⟨rest, rfl⟩ := List.head?_eq_some_iff.mp head
    rw [List.mem_singleton.mp given]
    exact rustUse_inside word rest
  | pythonImport module names level =>
    have above : level.toNat ≠ 0 := Nat.ne_of_gt (UInt32.lt_iff_toNat_lt.mp inward)
    obtain ⟨up, same⟩ := Nat.exists_eq_succ_of_ne_zero above
    rw [resolve, same] at given
    exact r.python_inside origin module names up answer given
  | jsImport specifier =>
    rw [List.mem_singleton.mp given]
    exact script_inside inward
  | cInclude header system => cases inward
  | docLink target =>
    rw [List.mem_singleton.mp given]
    exact r.document_inside _ _

theorem resolve_answered (named : spec.NamesSomething r.crates) :
    ∀ answer ∈ r.resolve origin spec, answer.Answered r.listing := by
  intro answer given
  cases spec with
  | rustMod name inline => cases named
  | rustUse segments =>
    obtain ⟨first, head, other, unknown⟩ := named
    obtain ⟨rest, rfl⟩ := List.head?_eq_some_iff.mp head
    rw [List.mem_singleton.mp given, rustUse_of_name other]
    exact useByName_answered unknown _
  | pythonImport module names level =>
    obtain ⟨rfl, c, hc, notDot⟩ := named
    obtain ⟨only, same, settled⟩ := r.absoluteImport_cases origin (dottedNames module)
    have one : r.resolve origin (.pythonImport module names 0) = [only] := same
    rw [one, List.mem_singleton] at given
    rcases settled with answered | ⟨nameless, _⟩
    · exact given ▸ answered
    · exact absurd (dottedNames_eq_nil_iff.mp nameless c hc) notDot
  | jsImport specifier =>
    obtain ⟨name, same⟩ := script_of_bare r origin named
    rw [List.mem_singleton.mp given, same]
    exact .outside name
  | cInclude header system =>
    rw [List.mem_singleton.mp given]
    exact r.header_answered _ _ _
  | docLink target => cases named

theorem listed_of_resolve (h : .internal path ∈ r.resolve origin spec) : path ∈ r.listing := by
  have of_inside : spec.PointsInside → path ∈ r.listing := by
    intro inward
    cases resolve_inside inward _ h with
    | listed known => exact known
  have of_answered : spec.NamesSomething r.crates → path ∈ r.listing := by
    intro named
    cases resolve_answered named _ h with
    | listed known => exact known
  cases spec with
  | rustMod name inline => exact of_inside trivial
  | rustUse segments =>
    cases segments with
    | nil => simp [resolve, rustUse] at h
    | cons first rest =>
      by_cases word : first ∈ crateWords
      · exact of_inside ⟨first, rfl, word⟩
      · rw [resolve, List.mem_singleton, rustUse_of_name word] at h
        rcases r.useByName_cases (r.crateSource origin) first rest with
          ⟨_, known, same⟩ | ⟨crate, _, same⟩ | ⟨_, same⟩
        · cases h.trans same
          exact known
        · have inside := r.moduleAlong_inside crate [] rest
          rw [← same, ← h] at inside
          cases inside with
          | listed known => exact known
        · cases h.trans same
  | pythonImport module names level =>
    by_cases absolute : level = 0
    · subst absolute
      obtain ⟨only, same, settled⟩ := r.absoluteImport_cases origin (dottedNames module)
      have one : r.resolve origin (.pythonImport module names 0) = [only] := same
      rw [one, List.mem_singleton] at h
      rcases settled with answered | ⟨_, missing⟩
      · rw [← h] at answered
        cases answered with
        | listed known => exact known
      · cases h.trans missing
    · exact of_inside (UInt32.pos_iff_ne_zero.mpr absolute)
  | jsImport specifier =>
    by_cases place : PointsAtPlace specifier
    · exact of_inside place
    · exact of_answered place
  | cInclude header system => exact of_answered trivial
  | docLink target => exact of_inside trivial

end Forms

/-- Every dependency has an answer, and no answer is a file that is not listed. What is written as a place
of the tree is never taken for something outside, what is written as a name is never missing. -/
theorem resolution_follows_form (r : Resolver) (origin : String) (spec : Spec) :
    (r.resolve origin spec ≠ [] ∧
      ∀ path, .internal path ∈ r.resolve origin spec → path ∈ r.listing) ∧
    (spec.PointsInside → ∀ name, .external name ∉ r.resolve origin spec) ∧
    (spec.NamesSomething r.crates → .missing ∉ r.resolve origin spec) ∧
    (∀ specifier, spec = .jsImport specifier → ¬ PointsAtPlace specifier →
      ∃ name, r.resolve origin spec = [.external name]) ∧
    ∀ header, spec = .cInclude header true → r.resolve origin spec = [.external header] := by
  refine ⟨⟨r.resolve_ne_nil origin spec, fun path => listed_of_resolve⟩, ?_, ?_, ?_, ?_⟩
  · intro inward name outside
    cases resolve_inside inward _ outside
  · intro named missing
    cases resolve_answered named _ missing
  · rintro specifier rfl bare
    obtain ⟨name, same⟩ := script_of_bare r origin bare
    exact ⟨name, congrArg (fun answer => [answer]) same⟩
  · rintro header rfl
    rfl

/-- A crate with one module, and a Python module of the same name beside it. -/
def crateResolver : Resolver :=
  ⟨["Cargo.toml", "search.py", "src/lib.rs", "src/search.rs"], TextMap.ofList [("tools", "tools/src")]⟩

theorem crate_resolutions_follow_form :
    ((Spec.rustUse ["super", "search", "Index"]).PointsInside ∧
      ∀ name, .external name ∉
        crateResolver.resolve "src/search.rs" (.rustUse ["super", "search", "Index"])) ∧
    ((Spec.rustUse ["serde", "Serialize"]).NamesSomething crateResolver.crates ∧
      .missing ∉ crateResolver.resolve "src/lib.rs" (.rustUse ["serde", "Serialize"])) ∧
    ((Spec.pythonImport ".search.index" ["Index"] 0).NamesSomething crateResolver.crates ∧
      .missing ∉ crateResolver.resolve "src/a.py" (.pythonImport ".search.index" ["Index"] 0)) ∧
    (¬ PointsAtPlace ".hidden/index" ∧
      ∃ name, crateResolver.resolve "a.ts" (.jsImport ".hidden/index") = [.external name]) ∧
    crateResolver.resolve "src/search.rs" (.rustUse ["super", "search", "Index"]) =
      [.internal "src/search.rs"] ∧
    crateResolver.resolve "src/a.py" (.pythonImport ".search.index" ["Index"] 0) =
      [.internal "search.py"] := by
  have inward : (Spec.rustUse ["super", "search", "Index"]).PointsInside :=
    ⟨"super", rfl, by decide⟩
  have package : (Spec.rustUse ["serde", "Serialize"]).NamesSomething crateResolver.crates :=
    ⟨"serde", rfl, by decide, by decide⟩
  have module : (Spec.pythonImport ".search.index" ["Index"] 0).NamesSomething crateResolver.crates :=
    ⟨rfl, 's', by decide, by decide⟩
  have bare : ¬ PointsAtPlace ".hidden/index" := by
    unfold PointsAtPlace
    decide
  refine ⟨⟨inward, ?_⟩, ⟨package, ?_⟩, ⟨module, ?_⟩, ⟨bare, ?_⟩, by decide +kernel, by decide +kernel⟩
  · exact (resolution_follows_form crateResolver _ _).2.1 inward
  · exact (resolution_follows_form crateResolver _ _).2.2.1 package
  · exact (resolution_follows_form crateResolver _ _).2.2.1 module
  · exact (resolution_follows_form crateResolver _ _).2.2.2.1 _ rfl bare

end Resolver

end SourceAtlas
