import SourceAtlas.Proofs.Build.Edit
import SourceAtlas.Proofs.Resolve.Crate

/-! Where a `use` path leads. In the crate of its file, or in a library crate of the tree, it leads to the
deepest module along it that has a file. A path that does not start at a place of its crate and is of no
crate of the tree leads outside; the path of a library crate that discovery found always leads to a listed
file. -/
namespace SourceAtlas

namespace Resolver

variable {r : Resolver} {listing names base tail rest : List String} {file src first : String}
variable {answer : Resolution}

section Search

/-- Where the module is, without what is behind its name. -/
def modulePlace (src : String) (names : List String) : String := Path.child src ("/".intercalate names)

/-- The listed file of the module that the names lead to from the root of the crate. A library comes before
a program, and a file of the name before `mod.rs` in a directory of the name. -/
inductive ModuleFile (listing : List String) (src : String) : List String → String → Prop where
  | library : Path.child src "lib.rs" ∈ listing → ModuleFile listing src [] (Path.child src "lib.rs")
  | program : Path.child src "lib.rs" ∉ listing → Path.child src "main.rs" ∈ listing →
      ModuleFile listing src [] (Path.child src "main.rs")
  | file {names : List String} : names ≠ [] → modulePlace src names ++ ".rs" ∈ listing →
      ModuleFile listing src names (modulePlace src names ++ ".rs")
  | directory {names : List String} : names ≠ [] → modulePlace src names ++ ".rs" ∉ listing →
      Path.child (modulePlace src names) "mod.rs" ∈ listing →
      ModuleFile listing src names (Path.child (modulePlace src names) "mod.rs")

theorem firstExisting_nil (r : Resolver) : r.firstExisting [] = none := rfl

theorem firstExisting_cons (r : Resolver) (one : String) (more : List String) :
    r.firstExisting (one :: more) = some file ↔
      one ∈ r.listing ∧ file = one ∨ one ∉ r.listing ∧ r.firstExisting more = some file := by
  by_cases listed : one ∈ r.listing
  · have first : r.firstExisting (one :: more) = some one := List.find?_cons_of_pos (has_iff.mpr listed)
    simp [first, listed, eq_comm]
  · have later : r.firstExisting (one :: more) = r.firstExisting more :=
      List.find?_cons_of_neg fun here => listed (has_iff.mp here)
    simp [later, listed]

theorem firstExisting_pair (r : Resolver) (one two : String) : r.firstExisting [one, two] = some file ↔
    one ∈ r.listing ∧ file = one ∨ one ∉ r.listing ∧ two ∈ r.listing ∧ file = two := by
  simp only [firstExisting_cons, firstExisting_nil, reduceCtorEq, and_false, or_false]

theorem moduleFile_eq_some_iff :
    r.moduleFile src names = some file ↔ ModuleFile r.listing src names file := by
  cases names with
  | nil =>
    rw [moduleFile, List.isEmpty_nil, if_pos rfl, firstExisting_pair]
    constructor
    · rintro (⟨listed, rfl⟩ | ⟨gone, listed, rfl⟩)
      · exact .library listed
      · exact .program gone listed
    · intro module
      cases module with
      | library listed => exact .inl ⟨listed, rfl⟩
      | program gone listed => exact .inr ⟨gone, listed, rfl⟩
      | file some => exact absurd rfl some
      | directory some => exact absurd rfl some
  | cons name more =>
    have some : name :: more ≠ [] := List.cons_ne_nil _ _
    rw [moduleFile, if_neg (by simp)]
    simp only [firstExisting_pair]
    constructor
    · rintro (⟨listed, rfl⟩ | ⟨gone, listed, rfl⟩)
      · exact .file some listed
      · exact .directory some gone listed
    · intro module
      cases module with
      | file _ listed => exact .inl ⟨listed, rfl⟩
      | directory _ gone listed => exact .inr ⟨gone, listed, rfl⟩

theorem moduleFile_eq_none_iff :
    r.moduleFile src names = none ↔ ∀ file, ¬ ModuleFile r.listing src names file := by
  rw [Option.eq_none_iff_forall_ne_some]
  exact forall_congr' fun _ => not_congr moduleFile_eq_some_iff

theorem ModuleFile.unique {other : String} (one : ModuleFile listing src names file)
    (two : ModuleFile listing src names other) : file = other := by
  let r : Resolver := ⟨listing, .empty⟩
  have found : r.moduleFile src names = some file := moduleFile_eq_some_iff.mpr one
  rw [moduleFile_eq_some_iff.mpr two] at found
  exact (Option.some.inj found).symm

/-- The answer of a search from the module `base` along `tail`: of the modules from there on that have a
file, the last. -/
inductive Deepest (listing : List String) (src : String) (base tail : List String) : Resolution → Prop where
  | found {names : List String} {file : String} : names <+: base ++ tail → base.length ≤ names.length →
      ModuleFile listing src names file →
      (∀ longer other, longer <+: base ++ tail → ModuleFile listing src longer other →
        longer.length ≤ names.length) →
      Deepest listing src base tail (.internal file)
  | missing : (∀ names file, names <+: base ++ tail → base.length ≤ names.length →
      ¬ ModuleFile listing src names file) → Deepest listing src base tail .missing

theorem deepestModule_spec (r : Resolver) (src : String) (path : List String) (least extra : Nat) :
    (∃ len file, least ≤ len ∧ len ≤ least + extra ∧ r.moduleFile src (path.take len) = some file ∧
      (∀ longer, len < longer → longer ≤ least + extra → r.moduleFile src (path.take longer) = none) ∧
      r.deepestModule src path least extra = .internal file) ∨
    (∀ len, least ≤ len → len ≤ least + extra → r.moduleFile src (path.take len) = none) ∧
      r.deepestModule src path least extra = .missing := by
  -- On the number of lengths above `least`; the longest is tried first.
  induction extra with
  | zero =>
    cases here : r.moduleFile src (path.take least) with
    | some file =>
      refine .inl ⟨least, file, Nat.le_refl _, Nat.le_refl _, here, fun longer _ _ => by omega, ?_⟩
      rw [deepestModule, here, Resolution.ofOption]
    | none =>
      refine .inr ⟨fun len above below => ?_, by rw [deepestModule, here, Resolution.ofOption]⟩
      rw [Nat.le_antisymm below above]
      exact here
  | succ extra ih =>
    cases here : r.moduleFile src (path.take (least + extra + 1)) with
    | some file =>
      refine .inl ⟨least + extra + 1, file, by omega, by omega, here, fun longer _ _ => by omega, ?_⟩
      rw [deepestModule, here]
    | none =>
      have step : r.deepestModule src path least (extra + 1) = r.deepestModule src path least extra := by
        rw [deepestModule, here]
      have last : ∀ len, len ≤ least + (extra + 1) → ¬ len ≤ least + extra →
          r.moduleFile src (path.take len) = none := by
        intro len below above
        obtain rfl : len = least + extra + 1 := by omega
        exact here
      rw [step]
      rcases ih with ⟨len, file, above, below, found, longest, same⟩ | ⟨none, same⟩
      · refine .inl ⟨len, file, above, by omega, found, fun longer more fits => ?_, same⟩
        by_cases within : longer ≤ least + extra
        · exact longest longer more within
        · exact last longer fits within
      · refine .inr ⟨fun len above fits => ?_, same⟩
        by_cases within : len ≤ least + extra
        · exact none len above within
        · exact last len fits within

theorem moduleAlong_deepest (r : Resolver) (src : String) (base tail : List String) :
    Deepest r.listing src base tail (r.moduleAlong src base tail) := by
  have whole : base.length + tail.length = (base ++ tail).length := by simp
  rcases r.deepestModule_spec src (base ++ tail) base.length tail.length with
    ⟨len, file, above, below, found, longest, same⟩ | ⟨none, same⟩
  · have size : ((base ++ tail).take len).length = len := by
      rw [List.length_take]
      omega
    have start := List.take_prefix len (base ++ tail)
    rw [moduleAlong, same]
    refine .found start (by omega) (moduleFile_eq_some_iff.mp found) ?_
    intro longer other along module
    by_contra more
    have nothing := longest longer.length (by omega) (whole ▸ along.length_le)
    rw [← List.prefix_iff_eq_take.mp along, moduleFile_eq_none_iff] at nothing
    exact nothing other module
  · rw [moduleAlong, same]
    refine .missing fun names file along above module => ?_
    have nothing := none names.length above (whole ▸ along.length_le)
    rw [← List.prefix_iff_eq_take.mp along, moduleFile_eq_none_iff] at nothing
    exact nothing file module

theorem Deepest.unique {other : Resolution} (one : Deepest listing src base tail answer)
    (two : Deepest listing src base tail other) : answer = other := by
  cases one with
  | missing none =>
    cases two with
    | missing => rfl
    | found along above module => exact absurd module (none _ _ along above)
  | @found names file along above module longest =>
    cases two with
    | missing none => exact absurd module (none _ _ along above)
    | @found names' file' along' _ module' longest' =>
      have size := Nat.le_antisymm (longest' _ _ along module) (longest _ _ along' module')
      obtain rfl : names = names' :=
        (List.prefix_of_prefix_length_le along along' size.le).eq_of_length size
      rw [module.unique module']

theorem moduleAlong_eq_iff :
    r.moduleAlong src base tail = answer ↔ Deepest r.listing src base tail answer := by
  constructor
  · rintro rfl
    exact r.moduleAlong_deepest src base tail
  · exact (r.moduleAlong_deepest src base tail).unique

end Search

/-- Where the `use` path leads that the file has. -/
inductive Leads (r : Resolver) (file : String) : List String → Resolution → Prop where
  | crate {src : String} {rest : List String} {answer : Resolution} : SourceOf r.listing file src →
      Deepest r.listing src [] rest answer → Leads r file ("crate" :: rest) answer
  | self {src : String} {names rest : List String} {answer : Resolution} : SourceOf r.listing file src →
      ModuleOf src file names → Deepest r.listing src names rest answer →
      Leads r file ("self" :: rest) answer
  | super {src : String} {names left rest : List String} {answer : Resolution} :
      SourceOf r.listing file src → ModuleOf src file (names ++ left) → left ≠ [] →
      rest.head? ≠ some "super" → Deepest r.listing src names rest answer →
      Leads r file (List.replicate left.length "super" ++ rest) answer
  | tooFar {src : String} {names rest : List String} {levels : Nat} : SourceOf r.listing file src →
      ModuleOf src file names → names.length < levels → rest.head? ≠ some "super" →
      Leads r file (List.replicate levels "super" ++ rest) .missing
  | noCrate {first : String} {rest : List String} : (∀ src, ¬ SourceOf r.listing file src) →
      first ∈ crateWords → Leads r file (first :: rest) .missing
  | ownModule {src first module : String} {rest : List String} {answer : Resolution} :
      SourceOf r.listing file src → first ∉ crateWords → ModuleFile r.listing src [first] module →
      Deepest r.listing src [] (first :: rest) answer → Leads r file (first :: rest) answer
  | library {src first : String} {rest : List String} {answer : Resolution} : first ∉ crateWords →
      (∀ own module, SourceOf r.listing file own → ¬ ModuleFile r.listing own [first] module) →
      r.crates.get? first = some src → Deepest r.listing src [] rest answer →
      Leads r file (first :: rest) answer
  | outside {first : String} {rest : List String} : first ∉ crateWords →
      (∀ own module, SourceOf r.listing file own → ¬ ModuleFile r.listing own [first] module) →
      r.crates.get? first = none → Leads r file (first :: rest) (.external first)

section Forms

variable {own : Option String}

theorem rustUse_crate (source : r.crateSource file = some src) (rest : List String) :
    r.rustUse file ("crate" :: rest) = r.moduleAlong src [] rest := by
  simp [rustUse, source]

theorem rustUse_self (source : r.crateSource file = some src) (rest : List String) :
    r.rustUse file ("self" :: rest) = r.moduleAlong src (modulePath src file) rest := by
  simp [rustUse, source]

theorem span_super (stop : rest.head? ≠ some "super") (levels : Nat) :
    (List.replicate levels "super" ++ rest).takeWhile (· = "super") = List.replicate levels "super" ∧
      (List.replicate levels "super" ++ rest).dropWhile (· = "super") = rest := by
  have ahead : rest.takeWhile (· = "super") = [] ∧ rest.dropWhile (· = "super") = rest := by
    cases rest with
    | nil => exact ⟨rfl, rfl⟩
    | cons name more =>
      have other : name ≠ "super" := by simpa using stop
      simp [other]
  have words : ∀ word ∈ List.replicate levels "super", (decide (word = "super")) = true := by
    simp [List.mem_replicate]
  rw [List.takeWhile_append_of_pos words, List.dropWhile_append_of_pos words, ahead.1, List.append_nil]
  exact ⟨rfl, ahead.2⟩

section Upwards

variable (source : r.crateSource file = some src) (stop : rest.head? ≠ some "super") (levels : Nat)
include source stop

theorem rustUse_super (kept : dropNames (levels + 1) (modulePath src file) = some base) :
    r.rustUse file (List.replicate (levels + 1) "super" ++ rest) = r.moduleAlong src base rest := by
  obtain ⟨words, behind⟩ := span_super stop (levels + 1)
  rw [List.replicate_succ, List.cons_append] at words behind ⊢
  simp [rustUse, source, words, behind, kept]

theorem rustUse_tooFar (gone : dropNames (levels + 1) (modulePath src file) = none) :
    r.rustUse file (List.replicate (levels + 1) "super" ++ rest) = .missing := by
  obtain ⟨words, _⟩ := span_super stop (levels + 1)
  rw [List.replicate_succ, List.cons_append] at words ⊢
  simp [rustUse, source, words, gone]

end Upwards

theorem rustUse_of_noCrate (source : r.crateSource file = none) (word : first ∈ crateWords)
    (rest : List String) : r.rustUse file (first :: rest) = .missing := by
  simp only [crateWords, List.mem_cons, List.not_mem_nil, or_false] at word
  rcases word with rfl | rfl | rfl <;> simp [rustUse, source]

theorem useByName_of_module {module : String} (found : r.moduleFile src [first] = some module)
    (rest : List String) : r.useByName (some src) first rest = r.moduleAlong src [] (first :: rest) := by
  simp [useByName, found]

section Foreign

variable (none : ∀ src, own = some src → r.moduleFile src [first] = .none) (rest : List String)
include none

theorem ownModule_eq_none : (own.bind fun src => (r.moduleFile src [first]).map fun _ => src) = .none := by
  cases own with
  | none => rfl
  | some src => simp [none src rfl]

theorem useByName_of_library (known : r.crates.get? first = some src) :
    r.useByName own first rest = r.moduleAlong src [] rest := by
  simp only [useByName, ownModule_eq_none none, known]

theorem useByName_of_outside (unknown : r.crates.get? first = .none) :
    r.useByName own first rest = .external first := by
  simp only [useByName, ownModule_eq_none none, unknown]

end Foreign

theorem moduleFile_none_iff :
    (∀ src, r.crateSource file = some src → r.moduleFile src [first] = none) ↔
      ∀ own module, SourceOf r.listing file own → ¬ ModuleFile r.listing own [first] module := by
  simp only [crateSource_eq_some_iff, moduleFile_eq_none_iff]
  exact forall_congr' fun own => forall_comm

end Forms

theorem Leads.rustUse_eq {segments : List String} (leads : Leads r file segments answer) :
    r.rustUse file segments = answer := by
  cases leads with
  | crate source search =>
    rw [rustUse_crate (crateSource_eq_some_iff.mpr source), moduleAlong_eq_iff]
    exact search
  | self source module search =>
    rw [rustUse_self (crateSource_eq_some_iff.mpr source), moduleAlong_eq_iff,
      (modulePath_eq_iff source.ne source.holds).mpr module]
    exact search
  | @super src names left rest _ source module some stop search =>
    obtain ⟨levels, size⟩ := Nat.exists_eq_succ_of_ne_zero (List.length_pos_iff.mpr some).ne'
    have kept : dropNames left.length (names ++ left) = .some names := by simp [dropNames]
    rw [← (modulePath_eq_iff source.ne source.holds).mpr module, size] at kept
    rw [size, rustUse_super (crateSource_eq_some_iff.mpr source) stop levels kept]
    exact moduleAlong_eq_iff.mpr search
  | @tooFar src names rest levels source module further stop =>
    obtain ⟨more, rfl⟩ := Nat.exists_eq_succ_of_ne_zero (Nat.ne_zero_of_lt further)
    have gone : dropNames (more + 1) names = none := by
      rw [dropNames, if_neg (by omega)]
    rw [← (modulePath_eq_iff source.ne source.holds).mpr module] at gone
    exact rustUse_tooFar (crateSource_eq_some_iff.mpr source) stop more gone
  | noCrate none word => exact rustUse_of_noCrate (crateSource_eq_none_iff.mpr none) word _
  | ownModule source other module search =>
    rw [rustUse_of_name other, crateSource_eq_some_iff.mpr source,
      useByName_of_module (moduleFile_eq_some_iff.mpr module), moduleAlong_eq_iff]
    exact search
  | library other none known search =>
    rw [rustUse_of_name other, useByName_of_library (moduleFile_none_iff.mpr none) _ known]
    exact moduleAlong_eq_iff.mpr search
  | outside other none unknown =>
    rw [rustUse_of_name other]
    exact useByName_of_outside (moduleFile_none_iff.mpr none) _ unknown

theorem exists_leading (word : String) (segments : List String) :
    ∃ times rest, segments = List.replicate times word ++ rest ∧ rest.head? ≠ some word := by
  induction segments with
  | nil => exact ⟨0, [], rfl, by simp⟩
  | cons name more ih =>
    by_cases same : name = word
    · obtain ⟨times, rest, rfl, stop⟩ := ih
      exact ⟨times + 1, rest, by rw [same, List.replicate_succ, List.cons_append], stop⟩
    · exact ⟨0, name :: more, rfl, by simpa using same⟩

theorem rustUse_leads (r : Resolver) (file first : String) (rest : List String) :
    Leads r file (first :: rest) (r.rustUse file (first :: rest)) := by
  by_cases word : first ∈ crateWords
  · cases own : r.crateSource file with
    | none =>
      rw [rustUse_of_noCrate own word]
      exact .noCrate (crateSource_eq_none_iff.mp own) word
    | some src =>
      have source := crateSource_eq_some_iff.mp own
      have module := (modulePath_eq_iff source.ne source.holds).mp rfl
      simp only [crateWords, List.mem_cons, List.not_mem_nil, or_false] at word
      rcases word with rfl | rfl | rfl
      · rw [rustUse_crate own]
        exact .crate source (r.moduleAlong_deepest _ _ _)
      · rw [rustUse_self own]
        exact .self source module (r.moduleAlong_deepest _ _ _)
      · obtain ⟨levels, behind, same, stop⟩ := exists_leading "super" rest
        rw [same, ← List.cons_append, ← List.replicate_succ]
        generalize called : modulePath src file = names at module
        by_cases fits : levels + 1 ≤ names.length
        · have kept : dropNames (levels + 1) (modulePath src file) =
              some (names.take (names.length - (levels + 1))) := by
            rw [called, dropNames, if_pos fits]
          rw [rustUse_super own stop levels kept]
          have cut : (names.drop (names.length - (levels + 1))).length = levels + 1 := by
            rw [List.length_drop]
            omega
          rw [← List.take_append_drop (names.length - (levels + 1)) names] at module
          have some : names.drop (names.length - (levels + 1)) ≠ [] := by
            rintro empty
            simp [empty] at cut
          have leads := Leads.super source module some stop (r.moduleAlong_deepest _ _ _)
          rwa [cut] at leads
        · have gone : dropNames (levels + 1) (modulePath src file) = none := by
            rw [called, dropNames, if_neg fits]
          rw [rustUse_tooFar own stop levels gone]
          exact .tooFar source module (by omega) stop
  · rw [rustUse_of_name word]
    by_cases module : ∀ src, r.crateSource file = some src → r.moduleFile src [first] = none
    · have none := moduleFile_none_iff.mp module
      cases known : r.crates.get? first with
      | none =>
        rw [useByName_of_outside module _ known]
        exact .outside word none known
      | some crate =>
        rw [useByName_of_library module _ known]
        exact .library word none known (r.moduleAlong_deepest _ _ _)
    · simp only [not_forall] at module
      obtain ⟨src, own, found⟩ := module
      obtain ⟨module, found⟩ := Option.ne_none_iff_exists'.mp found
      rw [own, useByName_of_module found]
      exact .ownModule (crateSource_eq_some_iff.mp own) word (moduleFile_eq_some_iff.mp found)
        (r.moduleAlong_deepest _ _ _)

theorem rustUse_eq_iff (r : Resolver) (file first : String) (rest : List String) (answer : Resolution) :
    r.rustUse file (first :: rest) = answer ↔ Leads r file (first :: rest) answer := by
  constructor
  · rintro rfl
    exact r.rustUse_leads file first rest
  · exact Leads.rustUse_eq

section Discovered

variable {t : SourceTree} {config : BuildConfig} {root : BuildRoot} {d : Discovery}

theorem library_listed [Tools] (found : t.discover config root = .ok d) (known : d.crates.get? first = some src) :
    Path.child src "lib.rs" ∈ d.listing := by
  obtain ⟨excluded, _, rfl⟩ := SourceTree.discover_ok_iff.mp found
  have entry := TextMap.mem_of_mem_ofList (TextMap.mem_entries_iff.mpr known)
  obtain ⟨⟨manifest, data⟩, _, crate⟩ := List.mem_filterMap.mp entry
  simp only [Discovery.crate?] at crate
  split at crate
  · next shape =>
    obtain ⟨name, _, same⟩ := Option.bind_eq_some_iff.mp crate
    obtain ⟨_, rfl⟩ := Prod.mk.inj (Option.some.inj same)
    simpa [TextMap.contains, TextMap.keys, Discovery.ofFiles] using shape.2
  · cases crate

theorem rustUse_of_library [Tools] (found : t.discover config root = .ok d) (name : first ∉ crateWords)
    (known : d.crates.get? first = some src) (file : String) (rest : List String) :
    ∃ path ∈ d.listing, Resolver.rustUse ⟨d.listing, d.crates⟩ file (first :: rest) = .internal path := by
  let r : Resolver := ⟨d.listing, d.crates⟩
  rw [rustUse_of_name name]
  rcases r.useByName_cases (r.crateSource file) first rest with inside | ⟨crate, same, along⟩ | ⟨unknown, _⟩
  · exact inside
  · obtain rfl : src = crate := Option.some.inj (known.symm.trans same)
    have top : (r.moduleFile src []).isSome = true :=
      Option.isSome_iff_exists.mpr ⟨_, moduleFile_eq_some_iff.mpr (.library (library_listed found known))⟩
    rw [along]
    exact deepestModule_of_module (Nat.le_refl 0) (Nat.zero_le _) top
  · exact absurd (known.symm.trans unknown) (Option.some_ne_none _)

end Discovered

/-- Resolution of a `use` path is the relation; the climb to a manifest cannot go on forever; and what
starts with a library crate of a discovered tree is in the tree. -/
theorem use_leads_to_deepest_module [Tools] :
    (∀ (r : Resolver) (file first : String) (rest : List String) (answer : Resolution),
      r.rustUse file (first :: rest) = answer ↔ Leads r file (first :: rest) answer) ∧
    (∀ file : String, ∃ steps ≤ file.length, Path.parent^[steps] file = "") ∧
    (∀ (t : SourceTree) (config : BuildConfig) (root : BuildRoot) (d : Discovery),
      t.discover config root = .ok d → ∀ first ∉ crateWords, d.crates.contains first = true →
      ∀ (file : String) (rest : List String), ∃ path ∈ d.listing,
        Resolver.rustUse ⟨d.listing, d.crates⟩ file (first :: rest) = .internal path) := by
  refine ⟨rustUse_eq_iff, Path.exists_iterate_parent, ?_⟩
  intro t config root d found first name known file rest
  rw [TextMap.contains_eq_isSome] at known
  obtain ⟨src, known⟩ := Option.isSome_iff_exists.mp known
  exact rustUse_of_library found name known file rest

open Scanners

/-- A program with a library of its own beside it. -/
def workspaceTree : SourceTree := ⟨TextMap.ofList
  [("Cargo.toml", .text "[package]\nname = \"app\"\n"), ("src", .directory),
    ("src/main.rs", .text ""), ("src/view", .directory), ("src/view/mod.rs", .text ""),
    ("src/view/pane.rs", .text ""), ("core-lib", .directory),
    ("core-lib/Cargo.toml", .text "[package]\nname = \"core-lib\"\n"),
    ("core-lib/src", .directory), ("core-lib/src/lib.rs", .text ""),
    ("core-lib/src/graph.rs", .text "")]⟩

def workspaceDiscovery : Discovery where
  listing := ["Cargo.toml", "core-lib/Cargo.toml", "core-lib/src/graph.rs", "core-lib/src/lib.rs",
    "src/main.rs", "src/view/mod.rs", "src/view/pane.rs"]
  candidates := ["core-lib/src/graph.rs", "core-lib/src/lib.rs", "src/main.rs", "src/view/mod.rs",
    "src/view/pane.rs"].map fun path => ⟨path, .rust, .readable []⟩
  warnings := []
  crates := TextMap.ofList [("core_lib", "core-lib/src")]

def workspaceResolver : Resolver := ⟨workspaceDiscovery.listing, workspaceDiscovery.crates⟩

theorem workspace_use_leads_to_deepest_module :
    workspaceTree.discover ⟨[], 4096, true, 1⟩ ⟨"", "app", "app"⟩ = .ok workspaceDiscovery ∧
    "core_lib" ∉ crateWords ∧ workspaceDiscovery.crates.contains "core_lib" = true ∧
    (∃ path ∈ workspaceDiscovery.listing,
      workspaceResolver.rustUse "src/view/pane.rs" ["core_lib", "graph", "Node"] = .internal path) ∧
    workspaceResolver.rustUse "src/view/pane.rs" ["core_lib", "graph", "Node"] =
      .internal "core-lib/src/graph.rs" ∧
    workspaceResolver.Leads "src/view/pane.rs" ["super", "super", "view", "Pane"]
      (.internal "src/view/mod.rs") ∧
    workspaceResolver.Leads "src/view/pane.rs" ["super", "super", "super", "view"] .missing := by
  have found : workspaceTree.discover ⟨[], 4096, true, 1⟩ ⟨"", "app", "app"⟩ = .ok workspaceDiscovery := by
    decide +kernel
  have name : "core_lib" ∉ crateWords := by decide
  have known : workspaceDiscovery.crates.contains "core_lib" = true := by decide +kernel
  exact ⟨found, name, known,
    use_leads_to_deepest_module.2.2 _ _ _ _ found _ name known "src/view/pane.rs" ["graph", "Node"],
    by decide +kernel,
    (use_leads_to_deepest_module.1 _ _ _ _ _).mp (by decide +kernel),
    (use_leads_to_deepest_module.1 _ _ _ _ _).mp (by decide +kernel)⟩

end Resolver

end SourceAtlas
