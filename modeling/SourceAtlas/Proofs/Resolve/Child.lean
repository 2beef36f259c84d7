import SourceAtlas.Proofs.Resolve.Use

/-! Child modules. A `mod` declaration looks for them in the directory of the module, which follows from the
name of the file and from what is beside it; a `use` path from `self` looks below the names that lead to the
module. For most files both are one place. Where they are not, in the further binaries of a crate and in a
`lib.rs` or `main.rs` that is not its root, no path from `self` leads to a declared child. -/
namespace SourceAtlas

namespace Path

variable {a b dir name path : String}

theorem fileName_clear (path : String) : '/' ∉ (fileName path).toList := by
  rw [fileName, String.toList_ofList, baseName, List.mem_reverse]
  intro inside
  exact absurd (List.mem_takeWhile_imp inside) (by decide)

theorem fileName_child (clear : '/' ∉ name.toList) (dir : String) : fileName (child dir name) = name := by
  rw [fileName, baseName_child, baseName_of_not_mem clear, String.ofList_toList]

theorem parent_child_of_clear (inner : dir ≠ "") (clear : '/' ∉ name.toList) :
    parent (child dir name) = dir := by
  rw [parent, toList_child inner, parentChars_append clear, String.ofList_toList]

theorem child_inj : child dir a = child dir b ↔ a = b := by
  refine ⟨fun same => ?_, congrArg _⟩
  by_cases root : dir = ""
  · rwa [root, child_root, child_root] at same
  · have chars := congrArg String.toList same
    rw [toList_child root, toList_child root] at chars
    exact String.toList_inj.mp (List.cons.inj (List.append_cancel_left chars)).2

theorem not_holds_self (inner : dir ≠ "") : ¬ Holds dir dir := by
  intro held
  have fits := held.length_le_parent
  have less := parent_length_lt inner
  rw [String.length_toList, String.length_toList] at less
  omega

theorem Holds.parent_cases (held : Holds a path) : a = parent path ∨ Holds a (parent path) := by
  rcases Nat.lt_or_eq_of_le held.length_le_parent with less | same
  · exact .inr (held.of_length_lt (holds_parent path) less)
  · exact .inl (held.eq_of_length (holds_parent path) same)

theorem foldl_child_inj {names others : List String} (inner : dir ≠ "")
    (clear : ∀ name ∈ names, '/' ∉ name.toList) (clear' : ∀ name ∈ others, '/' ∉ name.toList)
    (same : names.foldl child dir = others.foldl child dir) :
    names = others := by
  have empty : ∀ {names : List String}, dir = names.foldl child dir → names = [] := by
    intro names same
    by_contra some
    have below := holds_foldl_child dir some
    rw [← same] at below
    exact not_holds_self inner below
  by_cases none : names = []
  · subst none
    exact (empty same).symm
  · by_cases none' : others = []
    · subst none'
      exact empty same.symm
    · rw [foldl_child (.inl inner) none, foldl_child (.inl inner) none', child_inj] at same
      have divided : ∀ {names : List String}, names ≠ [] → (∀ name ∈ names, '/' ∉ name.toList) →
          Text.split '/' ("/".intercalate names).toList = names.map String.toList := by
        intro names some clear
        rw [Resolver.toList_intercalate_slash, Text.split_intercalate (by simpa using some)]
        simpa using clear
      have parts := divided none clear
      rw [same, divided none' clear'] at parts
      exact (List.map_injective_iff.mpr fun _ _ => String.toList_inj.mp) parts.symm

end Path

namespace Resolver

variable {r : Resolver} {listing dirs names parts : List String} {file src name path : String}

/-- The name of the file without its extension. -/
def stem (file : String) : String := withoutRustExtension (Path.fileName file)

theorem stem_clear (file : String) : '/' ∉ (stem file).toList := by
  obtain ⟨_, times, same⟩ := toList_withoutRustExtension_eq_iff.mp
    (rfl : (withoutRustExtension (Path.fileName file)).toList = _)
  intro inside
  refine Path.fileName_clear file ?_
  rw [same]
  exact List.mem_append_left _ inside

section Places

/-- The child modules of the file lie beside it: it opens its directory, or it is a binary of its own. -/
def ChildrenBeside (src file : String) : Prop :=
  Path.fileName file ∈ ["mod.rs", "lib.rs", "main.rs"] ∨
    Path.parent file = Path.child src "bin" ∧ Path.fileName file ≠ "build.rs"

/-- The names that lead to the module of the file are those of its directory. -/
def NamedByDirectory (src file : String) : Prop :=
  stem file = "mod" ∨ Path.parent file = src ∧ (stem file = "lib" ∨ stem file = "main")

instance (src file : String) : Decidable (ChildrenBeside src file) :=
  inferInstanceAs (Decidable (_ ∨ _))

instance (src file : String) : Decidable (NamedByDirectory src file) :=
  inferInstanceAs (Decidable (_ ∨ _))

theorem SourceOf.length_lt {place : String} (source : SourceOf listing file src)
    (held : Path.Holds place file) (manifest : Path.child place Discovery.manifestFile ∈ listing) :
    place.length < src.length := by
  obtain ⟨dir, nearest, rfl, _⟩ := source
  have near := nearest.innermost place held manifest
  have longer : dir.length < (Path.child dir "src").length := by
    by_cases root : dir = ""
    · rw [root]
      decide
    · rw [Path.child_eq root, String.length_append, String.length_append]
      have : "/".length = 1 := rfl
      omega
  omega

theorem SourceOf.fileName_eq (source : SourceOf listing file src) : Path.fileName src = "src" := by
  obtain ⟨dir, _, rfl, _⟩ := source
  exact Path.fileName_child (by decide) dir

theorem SourceOf.manifest (source : SourceOf listing file src) :
    Path.child (Path.parent src) Discovery.manifestFile ∈ listing := by
  obtain ⟨dir, nearest, rfl, _⟩ := source
  have above : Path.parent (Path.child dir "src") = dir := by
    by_cases root : dir = ""
    · rw [root]
      decide
    · exact Path.parent_child_of_clear root (by decide)
  rw [above]
  exact nearest.manifest

/-- In the sources of a crate, its further binaries are the only roots beside `lib.rs` and `main.rs`. -/
theorem isTargetRoot_iff (source : SourceOf r.listing file src) : r.isTargetRoot file = true ↔
    Path.parent file = Path.child src "bin" ∧ Path.fileName file ≠ "build.rs" := by
  have up1 := Path.holds_parent file
  have up2 := (Path.holds_parent (Path.parent file)).trans up1
  have up3 := (Path.holds_parent (Path.parent (Path.parent file))).trans up2
  have named := source.fileName_eq
  have manifest := source.manifest
  constructor
  · intro root
    unfold isTargetRoot at root
    extract_lets dir package name at root
    split at root
    · have less := source.length_lt up1 (has_iff.mp root)
      exact absurd source.holds.length_le_parent (Nat.not_le.mpr less)
    · next other =>
      split at root
      · next words =>
        have less := source.length_lt up2 (has_iff.mp root)
        rcases source.holds.parent_cases with same | inside
        · rw [same] at named
          have here : name = "src" := named
          simp [here] at words
        · exact absurd inside.length_le_parent (Nat.not_le.mpr less)
      · split at root
        · next bin =>
          rw [Bool.and_eq_true, decide_eq_true_eq] at root
          have less := source.length_lt up3 (has_iff.mp root.2)
          rcases source.holds.parent_cases with same | inside
          · rw [same] at named
            exact absurd (bin.symm.trans named) (by decide)
          · rcases inside.parent_cases with same | inside
            · refine ⟨?_, other⟩
              rw [same, ← bin]
              exact Path.eq_child_of_parent (same ▸ source.ne)
            · exact absurd inside.length_le_parent (Nat.not_le.mpr less)
        · cases root
  · rintro ⟨bin, other⟩
    have dir : Path.fileName (Path.parent file) = "bin" := by
      rw [bin]
      exact Path.fileName_child (by decide) src
    have package : Path.parent (Path.parent file) = src := by
      rw [bin]
      exact Path.parent_child_of_clear source.ne (by decide)
    have known : r.has (Path.child (Path.parent src) "Cargo.toml") = true := has_iff.mpr manifest
    simp [isTargetRoot, other, dir, package, named, known]

theorem moduleDirectory_eq (source : SourceOf r.listing file src) : r.moduleDirectory file =
    if ChildrenBeside src file then Path.parent file else Path.child (Path.parent file) (stem file) := by
  have beside : (Path.fileName file = "mod.rs" ∨ Path.fileName file = "lib.rs" ∨
      Path.fileName file = "main.rs" ∨ r.isTargetRoot file = true) ↔ ChildrenBeside src file := by
    rw [isTargetRoot_iff source, ChildrenBeside]
    simp [or_assoc]
  rw [moduleDirectory]
  exact if_congr beside rfl rfl

theorem withoutRustExtension_below (before name : String) :
    (withoutRustExtension (before ++ "/" ++ name)).toList =
      before.toList ++ '/' :: (withoutRustExtension name).toList := by
  obtain ⟨ended, times, same⟩ := toList_withoutRustExtension_eq_iff.mp
    (rfl : (withoutRustExtension name).toList = _)
  refine toList_withoutRustExtension_eq_iff.mpr ⟨fun tail => ?_, times, ?_⟩
  · rcases List.suffix_or_suffix_of_suffix tail (List.suffix_append _ _) with short | long
    · rcases List.suffix_cons_iff.mp short with same | short
      · exact absurd same (by simp)
      · exact ended short
    · exact absurd (long.mem List.mem_cons_self) (by decide)
  · rw [String.toList_append, String.toList_append, same]
    simp

theorem exists_directories (source : SourceOf listing file src) : ∃ dirs : List String,
    Path.parent file = dirs.foldl Path.child src ∧ (∀ dir ∈ dirs, '/' ∉ dir.toList) ∧
      StandsFor (dirs ++ [stem file]) (modulePath src file) := by
  have full := source.ne
  have alone : Text.split '/' (stem file).toList = [(stem file).toList] :=
    Text.split_of_not_mem (stem_clear file)
  rcases source.holds.parent_cases with same | ⟨before, same⟩
  · have own : file = Path.child src (Path.fileName file) := by
      rw [same] at full ⊢
      exact Path.eq_child_of_parent full
    refine ⟨[], same.symm, fun _ h => absurd h List.not_mem_nil, ?_⟩
    have stands := (modulePath_child full (Path.fileName file)).mp rfl
    rw [← own, ← stem, alone] at stands
    simpa using stands
  · have inner : Path.parent file ≠ "" := by
      rw [same]
      exact Path.child_ne full before
    have own : file = Path.child src (before ++ "/" ++ Path.fileName file) := by
      rw [Path.child_child full, ← same, ← Path.child_eq inner]
      exact Path.eq_child_of_parent inner
    have stands := (modulePath_child full (before ++ "/" ++ Path.fileName file)).mp rfl
    rw [← own, withoutRustExtension_below, Text.split_append, ← stem, alone,
      List.map_append] at stands
    refine ⟨(Text.split '/' before.toList).map String.ofList, ?_, ?_, by simpa using stands⟩
    · have some : (Text.split '/' before.toList).map String.ofList ≠ [] := by simp [Text.split_ne_nil]
      have whole : "/".intercalate ((Text.split '/' before.toList).map String.ofList) = before := by
        rw [← String.toList_inj, toList_intercalate_slash, List.map_map]
        have chars : String.toList ∘ String.ofList = id := funext fun _ => String.toList_ofList
        rw [chars, List.map_id, ← Text.joinWith_eq_intercalate, Text.joinWith_split]
      rw [Path.foldl_child (.inl full) some, whole, same]
    · intro dir h
      obtain ⟨part, inside, rfl⟩ := List.mem_map.mp h
      rw [String.toList_ofList]
      exact Text.not_mem_of_mem_split inside

theorem modulePath_eq (full : src ≠ "") (below : Path.parent file = dirs.foldl Path.child src)
    (stands : StandsFor (dirs ++ [stem file]) names) :
    names = if NamedByDirectory src file then dirs else dirs ++ [stem file] := by
  have top : Path.parent file = src ↔ dirs = [] := by
    constructor
    · intro same
      by_contra some
      have held := Path.holds_foldl_child src some
      rw [← below, same] at held
      exact Path.not_holds_self full held
    · rintro rfl
      exact below
  generalize whole : dirs ++ [stem file] = parts at stands
  cases stands with
  | @root name either =>
    have one : dirs ++ [stem file] = [] ++ [name] := whole
    obtain ⟨none, called⟩ := List.append_inj' one (by simp)
    rw [← List.singleton_inj.mp called] at either
    rw [if_pos (.inr ⟨top.mpr none, either⟩), none]
  | directory =>
    obtain ⟨same, called⟩ := List.append_inj' whole (by simp)
    rw [if_pos (.inl (List.singleton_inj.mp called)), same]
  | file lib main mod =>
    rw [← whole] at lib main mod ⊢
    refine (if_neg ?_).symm
    rintro (directory | ⟨root, either⟩)
    · exact mod (by rw [directory, List.getLast?_concat])
    · rw [top.mp root] at lib main
      rcases either with called | called
      · exact lib (by rw [called, List.nil_append])
      · exact main (by rw [called, List.nil_append])

/-- From the source directory of the crate, the names that lead to where a declared child of the file's module
lies, and those that lead to the module itself. -/
theorem exists_places (source : SourceOf r.listing file src) : ∃ dirs : List String,
    (∀ dir ∈ dirs, '/' ∉ dir.toList) ∧
      r.moduleDirectory file =
        (if ChildrenBeside src file then dirs else dirs ++ [stem file]).foldl Path.child src ∧
      modulePath src file = if NamedByDirectory src file then dirs else dirs ++ [stem file] := by
  obtain ⟨dirs, below, clear, stands⟩ := exists_directories source
  refine ⟨dirs, clear, ?_, modulePath_eq source.ne below stands⟩
  rw [moduleDirectory_eq source, below]
  split
  · rfl
  · rw [List.foldl_append, List.foldl_cons, List.foldl_nil]

end Places

section Files

variable {other : String} {less more : List String}

/-- The names that lead from the source directory to a file of the module with the given names. -/
inductive FileOf : List String → List String → Prop where
  | library : FileOf [] ["lib.rs"]
  | program : FileOf [] ["main.rs"]
  | file {names : List String} {last : String} : FileOf (names ++ [last]) (names ++ [last ++ ".rs"])
  | directory {names : List String} : names ≠ [] → FileOf names (names ++ ["mod.rs"])

theorem modulePlace_eq_foldl (full : src ≠ "") (some : names ≠ []) :
    modulePlace src names = names.foldl Path.child src :=
  (Path.foldl_child (.inl full) some).symm

theorem foldl_child_ne (full : src ≠ "") (names : List String) : names.foldl Path.child src ≠ "" := by
  by_cases none : names = []
  · simpa [none] using full
  · rw [← modulePlace_eq_foldl full none]
    exact Path.child_ne full _

theorem ModuleFile.exists_parts (module : ModuleFile listing src names path) (full : src ≠ "") :
    ∃ parts, FileOf names parts ∧ path = parts.foldl Path.child src := by
  cases module with
  | library => exact ⟨_, .library, rfl⟩
  | program => exact ⟨_, .program, rfl⟩
  | file some =>
    obtain ⟨init, last, rfl⟩ := (List.eq_nil_or_concat' names).resolve_left some
    refine ⟨_, .file, ?_⟩
    rw [modulePlace_eq_foldl full some]
    simp only [List.foldl_append, List.foldl_cons, List.foldl_nil,
      Path.child_eq (foldl_child_ne full init), String.append_assoc]
  | directory some =>
    refine ⟨_, .directory some, ?_⟩
    rw [modulePlace_eq_foldl full some, List.foldl_append]
    rfl

theorem FileOf.clear (module : FileOf names parts) (clear : ∀ name ∈ names, '/' ∉ name.toList) :
    ∀ part ∈ parts, '/' ∉ part.toList := by
  cases module with
  | library => decide
  | program => decide
  | @file names last =>
    obtain ⟨before, behind⟩ := List.forall_mem_append.mp clear
    refine List.forall_mem_append.mpr ⟨before, List.forall_mem_singleton.mpr ?_⟩
    rw [String.toList_append, List.mem_append]
    rintro (inside | inside)
    · exact behind last List.mem_cons_self inside
    · exact absurd inside (by decide)
  | directory => exact List.forall_mem_append.mpr ⟨clear, by decide⟩

theorem FileOf.length (module : FileOf names parts) :
    names.length ≤ parts.length ∧ parts.length ≤ names.length + 1 := by
  cases module <;> simp

theorem FileOf.below (module : FileOf (dirs ++ name :: more) parts) :
    more = [] ∧ parts = dirs ++ [name ++ ".rs"] ∨ ∃ tail, tail ≠ [] ∧ parts = dirs ++ name :: tail := by
  generalize whole : dirs ++ name :: more = names at module
  cases module with
  | library => simp at whole
  | program => simp at whole
  | @file init last =>
    rcases List.eq_nil_or_concat' more with rfl | ⟨more, next, rfl⟩
    · obtain ⟨rfl, called⟩ := List.append_inj' whole (by simp)
      rw [List.singleton_inj.mp called]
      exact .inl ⟨rfl, rfl⟩
    · rw [← List.cons_append, ← List.append_assoc] at whole
      obtain ⟨rfl, _⟩ := List.append_inj' whole (by simp)
      exact .inr ⟨more ++ [last ++ ".rs"], by simp, by simp⟩
  | directory => exact .inr ⟨more ++ ["mod.rs"], by simp, by simp [← whole]⟩

/-- A file of two modules lies behind one name wherever both have one. -/
theorem FileOf.name_eq (one : FileOf (dirs ++ name :: less) parts)
    (two : FileOf (dirs ++ other :: more) parts) : name = other := by
  rcases one.below with ⟨_, rfl⟩ | ⟨tail, some, rfl⟩
  · rcases two.below with ⟨_, same⟩ | ⟨tail, some, same⟩
    · exact String.append_left_inj ".rs" |>.mp (List.singleton_inj.mp (List.append_cancel_left same))
    · exact absurd (List.cons.inj (List.append_cancel_left same)).2.symm some
  · rcases two.below with ⟨_, same⟩ | ⟨tail, _, same⟩
    · exact absurd (List.cons.inj (List.append_cancel_left same)).2 some
    · exact (List.cons.inj (List.append_cancel_left same)).1

theorem rustMod_eq (full : src ≠ "") (place : r.moduleDirectory file = dirs.foldl Path.child src)
    (name : String) : r.rustMod file [] name = .ofOption (r.moduleFile src (dirs ++ [name])) := by
  have some : dirs ++ [name] ≠ [] := by simp
  have base : Path.child src ("/".intercalate (dirs ++ [name])) =
      Path.child (dirs.foldl Path.child src) name := by
    rw [← Path.foldl_child (.inl full) some, List.foldl_append]
    rfl
  simp only [rustMod, List.foldl_nil, place, moduleFile, List.isEmpty_iff, if_neg some, base]

theorem rustUse_self_name (source : SourceOf r.listing file src) (name : String) :
    r.rustUse file ["self", name] = .ofOption ((r.moduleFile src (modulePath src file ++ [name])).or
      (r.moduleFile src (modulePath src file))) := by
  rw [rustUse_self (crateSource_eq_some_iff.mpr source), moduleAlong]
  generalize modulePath src file = names
  have whole : (names ++ [name]).take (names.length + 0 + 1) = names ++ [name] :=
    List.take_of_length_le (by simp)
  rw [List.length_singleton, deepestModule, whole, deepestModule, List.take_left]
  cases r.moduleFile src (names ++ [name]) with
  | some path => rfl
  | none => rfl

end Files

theorem ofOption_eq_internal_iff {found : Option String} :
    Resolution.ofOption found = .internal path ↔ found = some path := by
  cases found with
  | none => simp [Resolution.ofOption]
  | some file => simp [Resolution.ofOption]

theorem exists_shared_parts {others : List String} (full : src ≠ "")
    (clear : ∀ name ∈ names, '/' ∉ name.toList) (clear' : ∀ name ∈ others, '/' ∉ name.toList)
    (one : r.moduleFile src names = some path)
    (two : r.moduleFile src others = some path) : ∃ parts, FileOf names parts ∧ FileOf others parts := by
  obtain ⟨parts, first, rfl⟩ := (moduleFile_eq_some_iff.mp one).exists_parts full
  obtain ⟨parts', second, same⟩ := (moduleFile_eq_some_iff.mp two).exists_parts full
  obtain rfl := Path.foldl_child_inj full (first.clear clear) (second.clear clear') same
  exact ⟨parts, first, second⟩

/-- No file is of a child of one name and of another module of the same directory, or of a child below it. -/
theorem FileOf.apart (differ : name ≠ other) (one : FileOf (dirs ++ [name]) parts) :
    ¬ FileOf (dirs ++ [other]) parts ∧ ¬ FileOf (dirs ++ [other] ++ [name]) parts := by
  rw [List.append_assoc]
  exact ⟨fun two => differ (one.name_eq two), fun two => differ (one.name_eq two)⟩

theorem clear_concat (clear : ∀ dir ∈ dirs, '/' ∉ dir.toList) (plain : '/' ∉ name.toList) :
    ∀ dir ∈ dirs ++ [name], '/' ∉ dir.toList :=
  List.forall_mem_append.mpr ⟨clear, List.forall_mem_singleton.mpr plain⟩

theorem moduleFile_apart (full : src ≠ "") (clear : ∀ dir ∈ dirs, '/' ∉ dir.toList)
    (plain : '/' ∉ name.toList) (plain' : '/' ∉ other.toList) (differ : name ≠ other)
    (found : r.moduleFile src (dirs ++ [name]) = some path) :
    r.moduleFile src (dirs ++ [other]) ≠ some path ∧
      r.moduleFile src (dirs ++ [other] ++ [name]) ≠ some path := by
  have clear' := clear_concat clear plain'
  constructor
  · intro beside
    obtain ⟨parts, one, two⟩ := exists_shared_parts full (clear_concat clear plain) clear' found beside
    exact (one.apart differ).1 two
  · intro below
    obtain ⟨parts, one, two⟩ := exists_shared_parts full (clear_concat clear plain)
      (clear_concat clear' plain) found below
    exact (one.apart differ).2 two

theorem moduleFile_above (full : src ≠ "") (clear : ∀ dir ∈ dirs, '/' ∉ dir.toList)
    (plain : '/' ∉ name.toList) (plain' : '/' ∉ other.toList)
    (found : r.moduleFile src (dirs ++ [other] ++ [name]) = some path) : r.moduleFile src dirs ≠ some path := by
  intro above
  obtain ⟨parts, one, two⟩ := exists_shared_parts full clear (clear_concat (clear_concat clear plain') plain)
    above found
  have short := one.length.2
  have long := two.length.1
  simp only [List.length_append, List.length_singleton] at long
  omega

/-- Where a declaration finds a child, a path from `self` finds it too if the file has its children beside it
exactly when it is named by its directory; otherwise the path leads to another file or nowhere. -/
theorem declared_children_are_found (source : SourceOf r.listing file src)
    (declared : r.rustMod file [] name = .internal path) :
    ((ChildrenBeside src file ↔ NamedByDirectory src file) →
      r.rustUse file ["self", name] = .internal path) ∧
    (¬ (ChildrenBeside src file ↔ NamedByDirectory src file) → '/' ∉ name.toList → name ≠ stem file →
      r.rustUse file ["self", name] ≠ .internal path) := by
  obtain ⟨dirs, clear, place, names⟩ := exists_places source
  rw [rustMod_eq source.ne place, ofOption_eq_internal_iff] at declared
  simp only [rustUse_self_name source, names, ne_eq, ofOption_eq_internal_iff, Option.or_eq_some_iff]
  constructor
  · intro alike
    rw [if_congr alike rfl rfl] at declared
    exact .inl declared
  · intro apart plain differ used
    have plain' := stem_clear file
    by_cases beside : ChildrenBeside src file
    · have named : ¬ NamedByDirectory src file := fun named => apart (iff_of_true beside named)
      rw [if_pos beside] at declared
      rw [if_neg named] at used
      have others := moduleFile_apart source.ne clear plain plain' differ declared
      rcases used with below | ⟨_, own⟩
      · exact others.2 below
      · exact others.1 own
    · have named : NamedByDirectory src file := by
        by_contra named
        exact apart (iff_of_false beside named)
      rw [if_neg beside] at declared
      rw [if_pos named] at used
      rcases used with along | ⟨_, own⟩
      · exact (moduleFile_apart source.ne clear plain plain' differ along).2 declared
      · exact moduleFile_above source.ne clear plain plain' declared own

/-- A crate with a module that has a child, and with a second program that declares a child of its own. -/
def toolResolver : Resolver :=
  ⟨["Cargo.toml", "src/bin/tool.rs", "src/bin/util.rs", "src/lib.rs", "src/view.rs", "src/view/pane.rs"], .empty⟩

/-- A child that is declared in a further binary lies beside it, and a path from `self` comes back to the
binary. -/
theorem binary_child_is_lost :
    "src/bin/tool.rs" ∈ toolResolver.listing ∧ SourceOf toolResolver.listing "src/bin/tool.rs" "src" ∧
    toolResolver.rustMod "src/bin/tool.rs" [] "util" = .internal "src/bin/util.rs" ∧
    toolResolver.rustUse "src/bin/tool.rs" ["self", "util"] = .internal "src/bin/tool.rs" :=
  ⟨by decide, crateSource_eq_some_iff.mp (by decide +kernel), by decide +kernel, by decide +kernel⟩

theorem view_child_is_found :
    (SourceOf toolResolver.listing "src/view.rs" "src" ∧
      toolResolver.rustMod "src/view.rs" [] "pane" = .internal "src/view/pane.rs" ∧
      (ChildrenBeside "src" "src/view.rs" ↔ NamedByDirectory "src" "src/view.rs") ∧
      toolResolver.rustUse "src/view.rs" ["self", "pane"] = .internal "src/view/pane.rs") ∧
    (SourceOf toolResolver.listing "src/bin/tool.rs" "src" ∧
      toolResolver.rustMod "src/bin/tool.rs" [] "util" = .internal "src/bin/util.rs" ∧
      ¬ (ChildrenBeside "src" "src/bin/tool.rs" ↔ NamedByDirectory "src" "src/bin/tool.rs") ∧
      '/' ∉ "util".toList ∧ "util" ≠ stem "src/bin/tool.rs" ∧
      toolResolver.rustUse "src/bin/tool.rs" ["self", "util"] ≠ .internal "src/bin/util.rs") := by
  have source : SourceOf toolResolver.listing "src/view.rs" "src" :=
    crateSource_eq_some_iff.mp (by decide +kernel)
  have declared : toolResolver.rustMod "src/view.rs" [] "pane" = .internal "src/view/pane.rs" := by
    decide +kernel
  have alike : ChildrenBeside "src" "src/view.rs" ↔ NamedByDirectory "src" "src/view.rs" := by decide +kernel
  have source' : SourceOf toolResolver.listing "src/bin/tool.rs" "src" :=
    crateSource_eq_some_iff.mp (by decide +kernel)
  have declared' : toolResolver.rustMod "src/bin/tool.rs" [] "util" = .internal "src/bin/util.rs" := by
    decide +kernel
  have apart : ¬ (ChildrenBeside "src" "src/bin/tool.rs" ↔ NamedByDirectory "src" "src/bin/tool.rs") := by
    decide +kernel
  have plain : '/' ∉ "util".toList := by decide
  have other : "util" ≠ stem "src/bin/tool.rs" := by decide +kernel
  exact ⟨⟨source, declared, alike, (declared_children_are_found source declared).1 alike⟩,
    source', declared', apart, plain, other, (declared_children_are_found source' declared').2 apart plain other⟩

end Resolver

end SourceAtlas
