import SourceAtlas.Proofs.SourceTree.Edit
import Mathlib.Data.List.TakeWhile

/-! Paths and the directories in front of them. The directories of a path are what it starts with
before one of its slashes, and each of its components is the name of the path or of one of them. -/
namespace SourceAtlas

namespace Text

variable {α : Type} [DecidableEq α] {sep c : α} {cs : List α}

theorem split_cons : split sep (c :: cs) =
    if c = sep then [] :: split sep cs
    else match split sep cs with
      | [] => [[c]]
      | part :: rest => (c :: part) :: rest := rfl

theorem split_append (before after : List α) :
    split sep (before ++ sep :: after) = split sep before ++ split sep after := by
  induction before with
  | nil => simp [split]
  | cons c rest ih =>
    obtain ⟨part, more, parts⟩ := List.exists_cons_of_ne_nil (split_ne_nil sep rest)
    rw [parts] at ih
    by_cases here : c = sep
    · simp [split_cons, here, ih, parts]
    · simp [split_cons, here, ih, parts]

theorem split_of_not_mem (h : sep ∉ cs) : split sep cs = [cs] := by
  induction cs with
  | nil => rfl
  | cons c rest ih =>
    have other : ¬ c = sep := fun e => h (e ▸ List.mem_cons_self)
    have later : sep ∉ rest := fun inside => h (List.mem_cons_of_mem _ inside)
    simp [split_cons, other, ih later]

theorem not_mem_of_mem_split {part : List α} (h : part ∈ split sep cs) : sep ∉ part := by
  induction cs generalizing part with
  | nil =>
    rw [List.mem_singleton.mp h]
    exact List.not_mem_nil
  | cons c rest ih =>
    obtain ⟨first, more, parts⟩ := List.exists_cons_of_ne_nil (split_ne_nil sep rest)
    rw [split_cons] at h
    split at h
    · rcases List.mem_cons.mp h with rfl | h
      · exact List.not_mem_nil
      · exact ih h
    · next other =>
      rw [parts] at h ih
      rcases List.mem_cons.mp h with rfl | h
      · rintro (_ | ⟨_, inside⟩)
        · exact other rfl
        · exact ih List.mem_cons_self inside
      · exact ih (List.mem_cons_of_mem _ h)

omit [DecidableEq α] in
theorem joinWith_eq_intercalate (sep : List α) (parts : List (List α)) :
    joinWith sep parts = sep.intercalate parts := by
  induction parts with
  | nil => rfl
  | cons part rest ih =>
    cases rest with
    | nil => simp [joinWith, List.intercalate]
    | cons next more =>
      rw [joinWith, ih, List.intercalate_cons_cons]
      exact List.cons_ne_nil _ _

theorem split_intercalate {parts : List (List α)} (some : parts ≠ [])
    (clear : ∀ part ∈ parts, sep ∉ part) : split sep ([sep].intercalate parts) = parts := by
  induction parts with
  | nil => exact absurd rfl some
  | cons part rest ih =>
    have here := split_of_not_mem (clear part List.mem_cons_self)
    cases rest with
    | nil => simpa [List.intercalate] using here
    | cons next more =>
      have later := ih (List.cons_ne_nil _ _) fun p hp => clear p (List.mem_cons_of_mem _ hp)
      rw [List.intercalate_cons_cons, List.append_assoc, List.singleton_append, split_append, here, later]
      rfl

end Text

section Slashes

variable {path before name cs : List Char} {sep : Char}

theorem bne_of_mem_reverse (h : sep ∉ cs) : ∀ c ∈ cs.reverse, (c != sep) = true := by
  intro c hc
  have other : c ≠ sep := fun e => h (e ▸ List.mem_reverse.mp hc)
  simpa using other

theorem exists_last (h : sep ∈ cs) : ∃ before after, cs = before ++ sep :: after ∧ sep ∉ after := by
  obtain ⟨after, front, split, clear⟩ := List.eq_append_cons_of_mem (List.mem_reverse.mpr h)
  refine ⟨front.reverse, after.reverse, ?_, fun inside => clear (List.mem_reverse.mp inside)⟩
  rw [← List.reverse_reverse cs, split]
  simp

theorem baseName_of_not_mem (h : '/' ∉ name) : baseName name = name := by
  rw [baseName, List.takeWhile_eq_self_iff.mpr (bne_of_mem_reverse h), List.reverse_reverse]

namespace Path

theorem parentChars_append (h : '/' ∉ name) : parentChars (before ++ '/' :: name) = before := by
  have rest : (before ++ '/' :: name).reverse.dropWhile (· != '/') = '/' :: before.reverse := by
    rw [List.reverse_append, List.reverse_cons, List.append_assoc,
      List.dropWhile_append_of_pos (bne_of_mem_reverse h)]
    simp
  rw [parentChars, rest]
  simp

theorem parentChars_of_not_mem (h : '/' ∉ path) : parentChars path = [] := by
  rw [parentChars, List.dropWhile_eq_nil_iff.mpr (bne_of_mem_reverse h)]

end Path

end Slashes

namespace Path

variable {dir path name : String}

theorem child_eq (inner : dir ≠ "") (name : String) : child dir name = dir ++ "/" ++ name := by
  have full : dir.isEmpty = false := by simpa using inner
  simp [child, full]

theorem toList_child (inner : dir ≠ "") (name : String) :
    (child dir name).toList = dir.toList ++ '/' :: name.toList := by
  simp [child_eq inner]

theorem child_ne (inner : dir ≠ "") (name : String) : child dir name ≠ "" := by
  rw [Ne, ← String.toList_inj, toList_child inner]
  simp

theorem child_ne_self (root : String) (inner : name ≠ "") : child root name ≠ root := by
  by_cases top : root = ""
  · simpa [child, top] using inner
  · intro same
    have chars := congrArg String.toList same
    rw [toList_child top] at chars
    simp at chars

theorem child_child (inner : dir ≠ "") (before name : String) :
    child dir (before ++ "/" ++ name) = child dir before ++ "/" ++ name := by
  rw [child_eq inner, child_eq inner]
  simp only [String.append_assoc]

theorem child_root (name : String) : child "" name = name := by simp [child]

/-- Going into one directory after the other is going along the path that they make up. -/
theorem foldl_child {names : List String} (inner : dir ≠ "" ∨ names.head? ≠ some "") (some : names ≠ []) :
    names.foldl child dir = child dir ("/".intercalate names) := by
  induction names generalizing dir with
  | nil => exact absurd rfl some
  | cons name more ih =>
    cases more with
    | nil => simp
    | cons next more =>
      have below : child dir name ≠ "" := by
        by_cases root : dir = ""
        · rw [root, child_root]
          simpa [root] using inner
        · exact child_ne root name
      rw [List.foldl_cons, ih (.inl below) (List.cons_ne_nil _ _), String.intercalate_cons_cons]
      by_cases root : dir = ""
      · rw [root, child_root] at below ⊢
        rw [child_root, child_eq below]
      · rw [child_child root, ← child_eq (child_ne root name)]

theorem eq_child_of_parent (inner : parent path ≠ "") : path = child (parent path) (fileName path) := by
  have chars : parentChars path.toList ≠ [] := by simpa [parent] using inner
  have slash : '/' ∈ path.toList := by
    by_contra clear
    exact chars (parentChars_of_not_mem clear)
  obtain ⟨before, name, split, clear⟩ := exists_last slash
  rw [← String.toList_inj, toList_child inner, parent, fileName, String.toList_ofList,
    String.toList_ofList, split, parentChars_append clear, baseName_append, baseName_of_not_mem clear]

theorem parent_child (inner : dir ≠ "") (name : String) :
    parent (child dir name) = dir ∨ ∃ before, parent (child dir name) = child dir before := by
  by_cases slash : '/' ∈ name.toList
  · obtain ⟨before, last, split, clear⟩ := exists_last slash
    refine .inr ⟨String.ofList before, ?_⟩
    have chars : (child dir name).toList = (dir.toList ++ '/' :: before) ++ '/' :: last := by
      rw [toList_child inner, split, List.append_assoc, List.cons_append]
    rw [parent, chars, parentChars_append clear, ← String.toList_inj, toList_child inner]
    simp
  · rw [parent, toList_child inner, parentChars_append slash]
    simp

theorem mem_ancestors_iff : dir ∈ ancestors path ↔ dir ≠ "" ∧ ∃ name, path = child dir name := by
  have none : ∀ {top : String}, parent top = "" → dir ≠ "" → ∀ name, top ≠ child dir name := by
    rintro _ top inner name rfl
    rcases parent_child inner name with same | ⟨before, same⟩
    · exact inner (same.symm.trans top)
    · exact child_ne inner before (same.symm.trans top)
  -- Along the parents of the path; each of them is one slash shorter.
  fun_induction ancestors path with
  | case1 =>
    simp only [List.not_mem_nil, false_iff, not_and, not_exists]
    exact none rfl
  | case2 path _ top =>
    simp only [List.not_mem_nil, false_iff, not_and, not_exists]
    exact none top
  | case3 path _ below ih =>
    have own := eq_child_of_parent below
    rw [List.mem_cons]
    constructor
    · rintro (rfl | above)
      · exact ⟨below, _, own⟩
      · obtain ⟨inner, before, same⟩ := ih.mp above
        refine ⟨inner, before ++ "/" ++ fileName path, ?_⟩
        rw [child_child inner, ← same, ← child_eq below]
        exact own
    · rintro ⟨inner, name, rfl⟩
      rcases parent_child inner name with same | further
      · exact .inl same.symm
      · exact .inr (ih.mpr ⟨inner, further⟩)

theorem ancestors_of_top (top : parent path = "") : ancestors path = [] := by
  unfold ancestors
  simp [top]

theorem ancestors_of_below (below : parent path ≠ "") :
    ancestors path = parent path :: ancestors (parent path) := by
  have full : path ≠ "" := by
    rintro rfl
    exact below rfl
  rw [ancestors, if_neg full, if_neg below]

theorem child_mem_ancestors (root : String) (h : dir ∈ ancestors path) :
    child root dir ∈ ancestors (child root path) := by
  obtain ⟨inner, name, rfl⟩ := mem_ancestors_iff.mp h
  by_cases top : root = ""
  · simpa [child, top] using h
  · refine mem_ancestors_iff.mpr ⟨child_ne top dir, name, ?_⟩
    rw [child_eq inner, child_child top, ← child_eq (child_ne top dir)]

theorem mem_components {part : List Char} (h : part ∈ components path) :
    part = baseName path.toList ∨ ∃ dir ∈ ancestors path, part = baseName dir.toList := by
  have step : ∀ {path : String}, part ∈ components path →
      part = baseName path.toList ∨ parent path ≠ "" ∧ part ∈ components (parent path) := by
    intro path h
    obtain ⟨inside, full⟩ := List.mem_filter.mp h
    by_cases slash : '/' ∈ path.toList
    · obtain ⟨before, name, split, clear⟩ := exists_last slash
      have above : parent path = String.ofList before := by
        rw [parent, split, parentChars_append clear]
      rw [split, Text.split_append, Text.split_of_not_mem clear, List.mem_append,
        List.mem_singleton] at inside
      rcases inside with inside | rfl
      · refine .inr ⟨?_, ?_⟩
        · intro top
          have empty : before = [] := by simpa [above] using top
          subst empty
          have blank : part = [] := List.mem_singleton.mp inside
          simp [blank] at full
        · rw [above, components, String.toList_ofList]
          exact List.mem_filter.mpr ⟨inside, full⟩
      · rw [split, baseName_append, baseName_of_not_mem clear]
        exact .inl rfl
    · rw [Text.split_of_not_mem slash, List.mem_singleton] at inside
      rw [baseName_of_not_mem slash]
      exact .inl inside
  fun_induction ancestors path with
  | case1 =>
    rcases step h with own | ⟨below, _⟩
    · exact .inl own
    · exact absurd rfl below
  | case2 path _ top =>
    rcases step h with own | ⟨below, _⟩
    · exact .inl own
    · exact absurd top below
  | case3 path _ below ih =>
    rcases step h with own | ⟨_, further⟩
    · exact .inl own
    · rcases ih further with own | ⟨dir, hdir, name⟩
      · exact .inr ⟨_, List.mem_cons_self, own⟩
      · exact .inr ⟨dir, List.mem_cons_of_mem _ hdir, name⟩

end Path

end SourceAtlas
