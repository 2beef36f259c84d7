import Mathlib.Logic.Function.Iterate
import SourceAtlas.Build.Discovery
import SourceAtlas.Proofs.Resolve

/-! The crate that a file belongs to, and its module in the crate. The climb towards the root stops at the
innermost directory with a manifest, and the file is a source of that crate if it lies in its `src`. The
names of its module are those of the directories and of the file, with a few names that stand for the
module of their directory. -/
namespace SourceAtlas

namespace Path

variable {a b c dir path : String}

/-- The path lies in the directory, at any depth. -/
def Holds (dir path : String) : Prop := ∃ name, path = child dir name

theorem holds_root (path : String) : Holds "" path := ⟨path, by simp [child]⟩

theorem holds_child (dir name : String) : Holds dir (child dir name) := ⟨name, rfl⟩

theorem holds_iff_startsWith (inner : dir ≠ "") : Holds dir path ↔ dir.toList ++ ['/'] <+: path.toList := by
  constructor
  · rintro ⟨name, rfl⟩
    exact ⟨name.toList, by simp [toList_child inner]⟩
  · rintro ⟨rest, same⟩
    refine ⟨String.ofList rest, ?_⟩
    rw [← String.toList_inj, toList_child inner, ← same]
    simp

theorem holds_parent (path : String) : Holds (parent path) path := by
  by_cases top : parent path = ""
  · exact top ▸ holds_root path
  · exact ⟨fileName path, eq_child_of_parent top⟩

theorem Holds.trans (outer : Holds a b) (inner : Holds b c) : Holds a c := by
  by_cases root : a = ""
  · exact root ▸ holds_root c
  · obtain ⟨before, rfl⟩ := outer
    obtain ⟨name, rfl⟩ := inner
    refine ⟨before ++ "/" ++ name, ?_⟩
    rw [child_child root, child_eq (child_ne root before)]

theorem Holds.foldl_child (held : Holds dir path) (names : List String) :
    Holds dir (names.foldl child path) := by
  induction names generalizing path with
  | nil => exact held
  | cons name more ih => exact ih (held.trans (holds_child path name))

theorem holds_foldl_child (dir : String) {names : List String} (some : names ≠ []) :
    Holds dir (names.foldl child dir) := by
  obtain ⟨name, more, rfl⟩ := List.exists_cons_of_ne_nil some
  exact (holds_child dir name).foldl_child more

theorem Holds.append (held : Holds dir path) (ending : String) : Holds dir (path ++ ending) := by
  by_cases root : dir = ""
  · exact root ▸ holds_root _
  · obtain ⟨name, rfl⟩ := held
    refine ⟨name ++ ending, ?_⟩
    rw [child_eq root, child_eq root, String.append_assoc]

theorem Holds.length_le_parent (held : Holds a b) : a.length ≤ (parent b).length := by
  by_cases root : a = ""
  · simp [root]
  · obtain ⟨name, rfl⟩ := held
    rcases parent_child root name with same | ⟨before, same⟩
    · exact Nat.le_of_eq (congrArg String.length same.symm)
    · rw [same, ← String.length_toList, ← String.length_toList, toList_child root, List.length_append]
      omega

section Nested

variable (outer : Holds a path) (inner : Holds b path)
include outer inner

theorem Holds.of_length_lt (shorter : a.length < b.length) : Holds a b := by
  by_cases root : a = ""
  · exact root ▸ holds_root b
  · obtain ⟨name, rfl⟩ := inner
    have full : b ≠ "" := by
      rintro rfl
      exact absurd shorter (Nat.not_lt_zero _)
    have before := (holds_iff_startsWith root).mp outer
    have behind : b.toList <+: (child b name).toList := by simp [toList_child full]
    have fits : (a.toList ++ ['/']).length ≤ b.toList.length := by
      rw [List.length_append, String.length_toList, String.length_toList]
      exact shorter
    exact (holds_iff_startsWith root).mpr (List.prefix_of_prefix_length_le before behind fits)

theorem Holds.eq_of_length (same : a.length = b.length) : a = b := by
  have start : ∀ {dir : String}, Holds dir path → dir.toList <+: path.toList := by
    intro dir held
    by_cases root : dir = ""
    · simp [root]
    · exact (List.prefix_append _ _).trans ((holds_iff_startsWith root).mp held)
  have chars : a.toList <+: b.toList := by
    refine List.prefix_of_prefix_length_le (start outer) (start inner) ?_
    rw [String.length_toList, String.length_toList, same]
  refine String.toList_inj.mp (chars.eq_of_length ?_)
  rw [String.length_toList, String.length_toList, same]

end Nested

theorem exists_iterate_parent (path : String) : ∃ steps ≤ path.length, parent^[steps] path = "" := by
  induction size : path.length using Nat.strong_induction_on generalizing path with
  | _ n ih =>
    by_cases root : path = ""
    · exact ⟨0, Nat.zero_le _, root⟩
    · have less : (parent path).length < n := by
        rw [← size, ← String.length_toList, ← String.length_toList]
        exact parent_length_lt root
      obtain ⟨steps, bound, top⟩ := ih _ less (parent path) rfl
      exact ⟨steps + 1, by omega, by rwa [Function.iterate_succ_apply]⟩

end Path

namespace Resolver

variable {r : Resolver} {listing names parts : List String} {file dir src : String}

section Source

/-- Of the directories that hold the file, the innermost with a manifest. -/
structure NearestManifest (listing : List String) (file dir : String) : Prop where
  holds : Path.Holds dir file
  manifest : Path.child dir Discovery.manifestFile ∈ listing
  innermost : ∀ other, Path.Holds other file → Path.child other Discovery.manifestFile ∈ listing →
    other.length ≤ dir.length

theorem NearestManifest.unique {other : String} (one : NearestManifest listing file dir)
    (two : NearestManifest listing file other) : dir = other :=
  one.holds.eq_of_length two.holds
    (Nat.le_antisymm (two.innermost dir one.holds one.manifest)
      (one.innermost other two.holds two.manifest))

/-- The file is among the sources of the crate with this source directory. -/
def SourceOf (listing : List String) (file src : String) : Prop :=
  ∃ dir, NearestManifest listing file dir ∧ src = Path.child dir "src" ∧ Path.Holds src file

theorem child_src_ne (dir : String) : Path.child dir "src" ≠ "" := by
  by_cases root : dir = ""
  · rw [root]
    decide
  · exact Path.child_ne root _

theorem SourceOf.ne (source : SourceOf listing file src) : src ≠ "" := by
  obtain ⟨dir, _, rfl, _⟩ := source
  exact child_src_ne dir

theorem SourceOf.holds (source : SourceOf listing file src) : Path.Holds src file := by
  obtain ⟨_, _, _, held⟩ := source
  exact held

theorem SourceOf.unique {other : String} (one : SourceOf listing file src)
    (two : SourceOf listing file other) : src = other := by
  obtain ⟨dir, nearest, rfl, _⟩ := one
  obtain ⟨found, same, rfl, _⟩ := two
  rw [nearest.unique same]

theorem has_iff {path : String} : r.has path = true ↔ path ∈ r.listing := by simp [has]

theorem startsWith_source (dir : String) :
    Text.startsWith (Path.child dir "src" ++ "/").toList file.toList = true ↔
      Path.Holds (Path.child dir "src") file := by
  rw [startsWith_iff, Path.holds_iff_startsWith (child_src_ne dir), String.toList_append]
  rfl

theorem crateSourceFrom_eq_some_iff (held : Path.Holds dir file)
    (passed : ∀ other, Path.Holds other file → dir.length < other.length →
      Path.child other Discovery.manifestFile ∉ r.listing) :
    r.crateSourceFrom file dir = some src ↔ SourceOf r.listing file src := by
  have nearest : r.has (Path.child dir "Cargo.toml") = true → NearestManifest r.listing file dir := by
    intro here
    refine ⟨held, has_iff.mp here, fun other holds listed => ?_⟩
    by_contra deeper
    exact passed other holds (by omega) listed
  -- On the way up: the directories passed so far are all those that hold the file and are deeper.
  fun_induction crateSourceFrom r file dir with
  | case1 dir here place below =>
    constructor
    · intro found
      rw [← Option.some.inj found]
      exact ⟨dir, nearest here, rfl, (startsWith_source dir).mp below⟩
    · rintro ⟨found, same, rfl, _⟩
      rw [same.unique (nearest here)]
  | case2 dir here place outside =>
    simp only [reduceCtorEq, false_iff]
    rintro ⟨found, same, rfl, below⟩
    rw [same.unique (nearest here)] at below
    exact outside ((startsWith_source dir).mpr below)
  | case3 none =>
    simp only [reduceCtorEq, false_iff]
    rintro ⟨found, ⟨holds, manifest, _⟩, _⟩
    by_cases root : found = ""
    · exact none (has_iff.mpr (root ▸ manifest))
    · refine passed found holds ?_ manifest
      exact Nat.pos_of_ne_zero fun empty => root (String.length_eq_zero_iff.mp empty)
  | case4 dir none root ih =>
    have above := (Path.holds_parent dir).trans held
    have further : ∀ other, Path.Holds other file → (Path.parent dir).length < other.length →
        Path.child other Discovery.manifestFile ∉ r.listing := by
      intro other holds longer listed
      rcases Nat.lt_trichotomy other.length dir.length with less | same | more
      · have fits := (holds.of_length_lt held less).length_le_parent
        omega
      · exact none (has_iff.mpr (holds.eq_of_length held same ▸ listed))
      · exact passed other holds more listed
    refine ih above further fun here => ⟨above, has_iff.mp here, fun other holds listed => ?_⟩
    by_contra deeper
    exact further other holds (by omega) listed

theorem crateSource_eq_some_iff : r.crateSource file = some src ↔ SourceOf r.listing file src := by
  refine crateSourceFrom_eq_some_iff (Path.holds_parent file) fun other holds longer => ?_
  exact absurd holds.length_le_parent (by omega)

theorem crateSource_eq_none_iff : r.crateSource file = none ↔ ∀ src, ¬ SourceOf r.listing file src := by
  rw [Option.eq_none_iff_forall_ne_some]
  exact forall_congr' fun src => not_congr crateSource_eq_some_iff

end Source

section Module

variable {cs stem text : List Char} {inner : String}

/-- The text has `.rs` behind the stem, any number of times. -/
def IsStem (stem text : List Char) : Prop :=
  ¬ ".rs".toList <:+ stem ∧ ∃ times, text = stem ++ (List.replicate times ".rs".toList).flatten

theorem dropSr_of_other (none : ¬ "sr.".toList <+: cs) : dropSr cs = cs := by
  unfold dropSr
  split
  · exact absurd ⟨_, rfl⟩ none
  · rfl

theorem dropSr_flatten (times : Nat) (cs : List Char) :
    dropSr ((List.replicate times "sr.".toList).flatten ++ cs) = dropSr cs := by
  induction times with
  | zero => rfl
  | succ times ih =>
    rw [List.replicate_succ, List.flatten_cons, List.append_assoc]
    exact ih

theorem exists_eq_flatten_dropSr (cs : List Char) : ¬ "sr.".toList <+: dropSr cs ∧
    ∃ times, cs = (List.replicate times "sr.".toList).flatten ++ dropSr cs := by
  fun_induction dropSr cs with
  | case1 rest ih =>
    obtain ⟨clear, times, same⟩ := ih
    refine ⟨clear, times + 1, ?_⟩
    rw [List.replicate_succ, List.flatten_cons, List.append_assoc, ← same]
    rfl
  | case2 cs none =>
    refine ⟨?_, 0, rfl⟩
    rintro ⟨rest, same⟩
    exact none rest same.symm

theorem reverse_endings (times : Nat) : (List.replicate times ".rs".toList).flatten.reverse =
    (List.replicate times "sr.".toList).flatten := by
  rw [List.reverse_flatten, List.map_replicate, List.reverse_replicate]
  rfl

theorem toList_withoutRustExtension_eq_iff :
    (withoutRustExtension inner).toList = stem ↔ IsStem stem inner.toList := by
  have ends : ∀ cs : List Char, ".rs".toList <:+ cs.reverse ↔ "sr.".toList <+: cs := by
    intro cs
    rw [← List.reverse_prefix, List.reverse_reverse]
    rfl
  rw [withoutRustExtension, String.toList_ofList]
  constructor
  · rintro rfl
    obtain ⟨clear, times, same⟩ := exists_eq_flatten_dropSr inner.toList.reverse
    refine ⟨fun tail => clear ((ends _).mp tail), times, ?_⟩
    have chars := congrArg List.reverse same
    rwa [List.reverse_reverse, List.reverse_append, ← reverse_endings, List.reverse_reverse] at chars
  · rintro ⟨clear, times, same⟩
    have none : ¬ "sr.".toList <+: stem.reverse := by
      rwa [← ends, List.reverse_reverse]
    rw [same, List.reverse_append, reverse_endings, dropSr_flatten, dropSr_of_other none,
      List.reverse_reverse]

/-- What the module of a source file is called, given the names of its directories and its own: `mod` is
the module of the directory, and `lib` or `main` of the crate. -/
inductive StandsFor : List String → List String → Prop where
  | root {name : String} : name = "lib" ∨ name = "main" → StandsFor [name] []
  | directory {names : List String} : StandsFor (names ++ ["mod"]) names
  | file {names : List String} : names ≠ ["lib"] → names ≠ ["main"] → names.getLast? ≠ some "mod" →
      StandsFor names names

/-- The names that lead from the root of the crate to the module of the file. -/
def ModuleOf (src file : String) (names : List String) : Prop :=
  ∃ (parts : List String) (inner : String), file = Path.child src inner ∧ parts ≠ [] ∧
    (∀ part ∈ parts, '/' ∉ part.toList) ∧ IsStem ("/".intercalate parts).toList inner.toList ∧
    StandsFor parts names

theorem standsFor_iff : StandsFor parts names ↔
    (if parts = ["lib"] ∨ parts = ["main"] then []
      else if parts.getLast? = some "mod" then parts.dropLast else parts) = names := by
  constructor
  · intro stands
    cases stands with
    | root either => rw [if_pos (by simpa using either)]
    | directory =>
      have other : ¬ (names ++ ["mod"] = ["lib"] ∨ names ++ ["mod"] = ["main"]) := by
        rintro (same | same) <;> simpa using congrArg List.getLast? same
      rw [if_neg other, if_pos (List.getLast?_concat ..), List.dropLast_concat]
    | file lib main mod => rw [if_neg (by simp [lib, main]), if_neg mod]
  · rintro rfl
    split
    · next either =>
      rcases either with rfl | rfl
      · exact .root (.inl rfl)
      · exact .root (.inr rfl)
    · next other =>
      rw [not_or] at other
      split
      · next mod =>
        have whole := List.dropLast_append_getLast? _ mod
        generalize parts.dropLast = names at whole
        rw [← whole]
        exact .directory
      · next mod => exact .file other.1 other.2 mod

theorem modulePath_child (full : src ≠ "") (inner : String) : modulePath src (Path.child src inner) = names ↔
    StandsFor ((Text.split '/' (withoutRustExtension inner).toList).map String.ofList) names := by
  have inside : Text.dropPrefix? (src ++ "/").toList (Path.child src inner).toList = some inner.toList := by
    rw [Text.dropPrefix_eq_some_iff, Path.child_eq full, String.toList_append]
  rw [modulePath, inside, standsFor_iff]
  simp only [String.ofList_toList]

theorem toList_intercalate_slash (parts : List String) :
    ("/".intercalate parts).toList = ['/'].intercalate (parts.map String.toList) :=
  String.toList_intercalate

theorem modulePath_eq_iff (full : src ≠ "") (held : Path.Holds src file) :
    modulePath src file = names ↔ ModuleOf src file names := by
  constructor
  · obtain ⟨inner, rfl⟩ := held
    rw [modulePath_child full]
    intro stands
    refine ⟨_, inner, rfl, by simp [Text.split_ne_nil], ?_, ?_, stands⟩
    · intro part hp
      obtain ⟨chars, inside, rfl⟩ := List.mem_map.mp hp
      rw [String.toList_ofList]
      exact Text.not_mem_of_mem_split inside
    · have chars : ∀ cs : List (List Char), (cs.map String.ofList).map String.toList = cs := by
        simp [Function.comp_def]
      rw [toList_intercalate_slash, chars, ← Text.joinWith_eq_intercalate, Text.joinWith_split]
      exact toList_withoutRustExtension_eq_iff.mp rfl
  · rintro ⟨parts, inner, rfl, some, clear, stem, stands⟩
    have chars : (withoutRustExtension inner).toList = ['/'].intercalate (parts.map String.toList) := by
      rw [toList_withoutRustExtension_eq_iff, ← toList_intercalate_slash]
      exact stem
    have divided : Text.split '/' (['/'].intercalate (parts.map String.toList)) = parts.map String.toList :=
      Text.split_intercalate (by simpa using some) (by simpa using clear)
    rw [modulePath_child full, chars, divided]
    simpa [Function.comp_def] using stands

end Module

end Resolver

end SourceAtlas
