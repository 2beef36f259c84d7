import SourceAtlas.Proofs.Resolve.Use

/-! Python modules and their packages. A relative import climbs from the directory of its file, and beyond the
root there is nothing. What it finds lies in the package where the climb ends, with one exception: if it asks
for the package itself, a module beside the package that is called as the package is comes first. -/
namespace SourceAtlas

namespace Resolver

variable {r : Resolver} {listing names dotted : List String} {dir place path package module : String}

/-- Up to the number of directories in front of the file, a climb from its own directory ends at one of them
or at the root. -/
theorem climb_parent (up : Nat) (file : String) : climb up (Path.parent file) =
    if up ≤ (Path.ancestors file).length then some (Path.parent^[up] (Path.parent file)) else none := by
  induction up generalizing file with
  | zero => rw [climb, if_pos (Nat.zero_le _), Function.iterate_zero_apply]
  | succ up ih =>
    by_cases top : Path.parent file = ""
    · simp [climb, top, Path.ancestors_of_top top]
    · have inner : (Path.parent file).isEmpty = false := by simpa using top
      rw [climb, inner, if_neg Bool.false_ne_true, ih, Path.ancestors_of_below top, List.length_cons,
        Function.iterate_succ_apply]
      exact if_congr Nat.succ_le_succ_iff.symm rfl rfl

section Module

/-- The listed file of the module at the place: its source, else a stub, else what opens its package. -/
inductive PythonModule (listing : List String) (place : String) : String → Prop where
  | source : place ++ ".py" ∈ listing → PythonModule listing place (place ++ ".py")
  | stub : place ++ ".py" ∉ listing → place ++ ".pyi" ∈ listing →
      PythonModule listing place (place ++ ".pyi")
  | package : place ++ ".py" ∉ listing → place ++ ".pyi" ∉ listing →
      Path.child place "__init__.py" ∈ listing → PythonModule listing place (Path.child place "__init__.py")

theorem pythonModule_eq_some_iff :
    r.pythonModule dir dotted = some path ↔ PythonModule r.listing (dotted.foldl Path.child dir) path := by
  simp only [pythonModule, firstExisting_cons, firstExisting_nil, reduceCtorEq, and_false, or_false]
  constructor
  · rintro (⟨source, rfl⟩ | ⟨noSource, ⟨stub, rfl⟩ | ⟨noStub, opening, rfl⟩⟩)
    · exact .source source
    · exact .stub noSource stub
    · exact .package noSource noStub opening
  · intro module
    cases module with
    | source source => exact .inl ⟨source, rfl⟩
    | stub noSource stub => exact .inr ⟨noSource, .inl ⟨stub, rfl⟩⟩
    | package noSource noStub opening => exact .inr ⟨noSource, .inr ⟨noStub, opening, rfl⟩⟩

theorem pythonModule_eq_none_iff : r.pythonModule dir dotted = none ↔
    ∀ path, ¬ PythonModule r.listing (dotted.foldl Path.child dir) path := by
  rw [Option.eq_none_iff_forall_ne_some]
  exact forall_congr' fun _ => not_congr pythonModule_eq_some_iff

/-- What an import of the module at the place is resolved to. -/
inductive ModuleAnswer (listing : List String) (place : String) : Resolution → Prop where
  | found {path : String} : PythonModule listing place path → ModuleAnswer listing place (.internal path)
  | missing : (∀ path, ¬ PythonModule listing place path) → ModuleAnswer listing place .missing

theorem moduleAnswer (r : Resolver) (dir : String) (dotted : List String) :
    ModuleAnswer r.listing (dotted.foldl Path.child dir) (.ofOption (r.pythonModule dir dotted)) := by
  cases found : r.pythonModule dir dotted with
  | some path => exact .found (pythonModule_eq_some_iff.mp found)
  | none => exact .missing (pythonModule_eq_none_iff.mp found)

theorem ModuleAnswer.opens_or_missing {answer : Resolution} (answered : ModuleAnswer listing place answer)
    (noSource : place ++ ".py" ∉ listing) (noStub : place ++ ".pyi" ∉ listing) :
    answer = .internal (Path.child place "__init__.py") ∨ answer = .missing := by
  cases answered with
  | missing => exact .inr rfl
  | found module =>
    cases module with
    | source source => exact absurd source noSource
    | stub _ stub => exact absurd stub noStub
    | package => exact .inl rfl

theorem PythonModule.holds (module : PythonModule listing place path) (held : Path.Holds dir place) :
    Path.Holds dir path := by
  cases module with
  | source => exact held.append _
  | stub => exact held.append _
  | package => exact held.trans (Path.holds_child place _)

end Module

section Relative

/-- The import asks for the package itself: it names no module, and none of its names is that of a module in
the package. -/
structure AsksForPackage (listing : List String) (package module : String) (names : List String) : Prop where
  nameless : ∀ c ∈ module.toList, c = '.'
  no_module : ∀ name ∈ names, ∀ path, ¬ PythonModule listing (Path.child package name) path

theorem no_module_iff : (names.filterMap fun name => r.pythonModule package [name]) = [] ↔
    ∀ name ∈ names, ∀ path, ¬ PythonModule r.listing (Path.child package name) path := by
  rw [List.filterMap_eq_nil_iff]
  refine forall₂_congr fun name _ => ?_
  rw [pythonModule_eq_none_iff, List.foldl_cons, List.foldl_nil]

theorem relativeImport_of_package (asked : AsksForPackage r.listing package module names) :
    ∃ answer, r.relativeImport package (dottedNames module) names = [answer] ∧
      ModuleAnswer r.listing package answer := by
  refine ⟨_, ?_, r.moduleAnswer package []⟩
  rw [relativeImport, dottedNames_eq_nil_iff.mpr asked.nameless, List.isEmpty_nil, if_pos rfl,
    no_module_iff.mpr asked.no_module]

theorem relativeImport_holds (other : ¬ AsksForPackage r.listing package module names)
    (given : .internal path ∈ r.relativeImport package (dottedNames module) names) :
    Path.Holds package path := by
  have below : ∀ {dotted : List String}, dotted ≠ [] → r.pythonModule package dotted = some path →
      Path.Holds package path := fun some found =>
    (pythonModule_eq_some_iff.mp found).holds (Path.holds_foldl_child package some)
  unfold relativeImport at given
  split at given
  · next nameless =>
    split at given
    · next none =>
      exact absurd ⟨dottedNames_eq_nil_iff.mp (List.isEmpty_iff.mp nameless), no_module_iff.mp none⟩ other
    · obtain ⟨file, found, same⟩ := List.mem_map.mp given
      cases same
      obtain ⟨name, _, module⟩ := List.mem_filterMap.mp found
      exact below (List.cons_ne_nil name []) module
  · next named =>
    have answer := r.moduleAnswer package (dottedNames module)
    rw [← List.mem_singleton.mp given] at answer
    cases answer with
    | found module => exact module.holds (Path.holds_foldl_child package fun none => named (none ▸ rfl))

/-- Without a source or a stub beside the package that is called as it is, nothing outside is found. -/
theorem relativeImport_alone (noSource : package ++ ".py" ∉ r.listing) (noStub : package ++ ".pyi" ∉ r.listing) :
    let answers := r.relativeImport package (dottedNames module) names
    (∀ path, .internal path ∈ answers → Path.Holds package path) ∧
    (AsksForPackage r.listing package module names →
      answers = [.internal (Path.child package "__init__.py")] ∨ answers = [.missing]) := by
  intro answers
  have itself : AsksForPackage r.listing package module names →
      answers = [.internal (Path.child package "__init__.py")] ∨ answers = [.missing] := by
    intro asked
    obtain ⟨answer, only, answered⟩ := relativeImport_of_package asked
    rw [show answers = [answer] from only]
    exact (answered.opens_or_missing noSource noStub).imp (congrArg fun answer => [answer])
      (congrArg fun answer => [answer])
  refine ⟨fun path given => ?_, itself⟩
  by_cases asked : AsksForPackage r.listing package module names
  · rcases itself asked with opening | missing
    · rw [opening, List.mem_singleton] at given
      rw [Resolution.internal.inj given]
      exact Path.holds_child package _
    · rw [missing, List.mem_singleton] at given
      cases given
  · exact relativeImport_holds asked given

theorem python_relative (r : Resolver) (origin module : String) (names : List String) (up : Nat) :
    r.python origin module names (up + 1) = if up ≤ (Path.ancestors origin).length then
      r.relativeImport (Path.parent^[up] (Path.parent origin)) (dottedNames module) names
    else [.missing] := by
  rw [python, climb_parent]
  by_cases within : up ≤ (Path.ancestors origin).length
  · rw [if_pos within, if_pos within]
  · rw [if_neg within, if_neg within]

end Relative

/-- A climb beyond the root leads nowhere. Any other relative import finds what it asks for inside of the
package, or it asks for the package itself; what it finds then is inside of the package as well if neither a
source nor a stub beside the package is called as it is. -/
theorem relative_imports_stay_inside (r : Resolver) (origin module : String) (names : List String)
    (level : UInt32) (relative : 0 < level) :
    let up := level.toNat - 1
    let package := Path.parent^[up] (Path.parent origin)
    let answers := r.resolve origin (.pythonImport module names level)
    ((Path.ancestors origin).length < up → answers = [.missing]) ∧
    (up ≤ (Path.ancestors origin).length →
      (¬ AsksForPackage r.listing package module names →
        ∀ path, .internal path ∈ answers → Path.Holds package path) ∧
      (AsksForPackage r.listing package module names →
        ∃ answer, answers = [answer] ∧ ModuleAnswer r.listing package answer) ∧
      (package ++ ".py" ∉ r.listing → package ++ ".pyi" ∉ r.listing →
        (∀ path, .internal path ∈ answers → Path.Holds package path) ∧
        (AsksForPackage r.listing package module names →
          answers = [.internal (Path.child package "__init__.py")] ∨ answers = [.missing]))) := by
  intro up package answers
  have climbed : answers = if up ≤ (Path.ancestors origin).length then
      r.relativeImport package (dottedNames module) names else [.missing] := by
    have positive : 0 < level.toNat := UInt32.lt_iff_toNat_lt.mp relative
    have above : level.toNat = up + 1 := by omega
    simp only [answers, resolve, above]
    exact r.python_relative origin module names up
  refine ⟨fun beyond => ?_, fun within => ?_⟩
  · rw [climbed, if_neg (Nat.not_le.mpr beyond)]
  · rw [climbed, if_pos within]
    exact ⟨fun other _ => relativeImport_holds other, relativeImport_of_package, relativeImport_alone⟩

/-- Two packages, one in the other; the inner one opens with a file of its own, and beside the outer one there
is a source that is called as it is. -/
def packageResolver : Resolver :=
  ⟨["pkg.py", "pkg/__init__.py", "pkg/main.py", "pkg/sub/__init__.py", "pkg/sub/leaf.py"], .empty⟩

/-- A source beside the package stands in front of the file that opens it. -/
theorem namesake_hides_package :
    0 < (1 : UInt32) ∧ (1 : UInt32).toNat - 1 ≤ (Path.ancestors "pkg/main.py").length ∧
    Path.parent^[(1 : UInt32).toNat - 1] (Path.parent "pkg/main.py") = "pkg" ∧
    AsksForPackage packageResolver.listing "pkg" "" ["helper"] ∧
    "pkg/__init__.py" ∈ packageResolver.listing ∧
    packageResolver.resolve "pkg/main.py" (.pythonImport "" ["helper"] 1) = [.internal "pkg.py"] ∧
    ¬ Path.Holds "pkg" "pkg.py" := by
  refine ⟨by decide, Nat.zero_le _, by decide, ⟨fun _ h => absurd h List.not_mem_nil, ?_⟩, by decide,
    by decide +kernel, ?_⟩
  · exact no_module_iff.mp (by decide +kernel)
  · rw [Path.holds_iff_startsWith (by decide)]
    decide

theorem leaf_imports_stay_inside :
    (0 < (9 : UInt32) ∧ (Path.ancestors "pkg/sub/leaf.py").length < 8 ∧
      packageResolver.resolve "pkg/sub/leaf.py" (.pythonImport "" ["Leaf"] 9) = [.missing]) ∧
    (0 < (2 : UInt32) ∧ ¬ AsksForPackage packageResolver.listing "pkg" "main" ["run"] ∧
      packageResolver.resolve "pkg/sub/leaf.py" (.pythonImport "main" ["run"] 2) =
        [.internal "pkg/main.py"] ∧ Path.Holds "pkg" "pkg/main.py") ∧
    (0 < (1 : UInt32) ∧ AsksForPackage packageResolver.listing "pkg/sub" "" ["Leaf"] ∧
      "pkg/sub" ++ ".py" ∉ packageResolver.listing ∧ "pkg/sub" ++ ".pyi" ∉ packageResolver.listing ∧
      packageResolver.resolve "pkg/sub/leaf.py" (.pythonImport "" ["Leaf"] 1) =
        [.internal "pkg/sub/__init__.py"] ∧ Path.Holds "pkg/sub" "pkg/sub/__init__.py") := by
  have deep : (Path.ancestors "pkg/sub/leaf.py").length = 2 := by decide +kernel
  have stays := relative_imports_stay_inside packageResolver "pkg/sub/leaf.py"
  have named : ¬ AsksForPackage packageResolver.listing "pkg" "main" ["run"] := fun asked =>
    absurd (asked.nameless 'm' (by decide)) (by decide)
  have asked : AsksForPackage packageResolver.listing "pkg/sub" "" ["Leaf"] :=
    ⟨fun _ h => absurd h List.not_mem_nil, no_module_iff.mp (by decide +kernel)⟩
  have module : packageResolver.resolve "pkg/sub/leaf.py" (.pythonImport "main" ["run"] 2) =
      [.internal "pkg/main.py"] := by decide +kernel
  have itself : packageResolver.resolve "pkg/sub/leaf.py" (.pythonImport "" ["Leaf"] 1) =
      [.internal "pkg/sub/__init__.py"] := by decide +kernel
  refine ⟨⟨by decide, by rw [deep]; decide, ?_⟩, ⟨by decide, named, module, ?_⟩,
    by decide, asked, by decide, by decide, itself, ?_⟩
  · exact (stays "" ["Leaf"] 9 (by decide)).1 (by rw [deep]; decide)
  · have inside := (stays "main" ["run"] 2 (by decide)).2 (by rw [deep]; decide)
    exact inside.1 named "pkg/main.py" (module ▸ List.mem_singleton_self _)
  · have inside := (stays "" ["Leaf"] 1 (by decide)).2 (Nat.zero_le _)
    exact (inside.2.2 (by decide) (by decide)).1 "pkg/sub/__init__.py" (itself ▸ List.mem_singleton_self _)

end Resolver

end SourceAtlas
