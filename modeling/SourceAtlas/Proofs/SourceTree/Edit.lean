import SourceAtlas.Language
import SourceAtlas.Proofs.TextMap
import SourceAtlas.SourceTree.Walk

/-! A tree in which other things are known of one file. As long as that file is in a language of the graph it
is none that the walk takes rules from, so the walk comes to the same files. -/
namespace SourceAtlas

section Names

variable {dir path name : String}

theorem baseName_append (before name : List Char) :
    baseName (before ++ '/' :: name) = baseName name := by
  unfold baseName
  rw [List.reverse_append, List.reverse_cons, List.append_assoc, List.takeWhile_append]
  split
  · next whole =>
    have all : name.reverse.takeWhile (· != '/') = name.reverse :=
      (List.takeWhile_prefix _).eq_of_length whole
    rw [all]
    simp
  · rfl

theorem Path.below_eq_some_iff : below? dir path = some name ↔ path = child dir name := by
  unfold below? child
  by_cases top : dir = ""
  · simp [top]
  · have inner : dir.isEmpty = false := by simpa using top
    simp only [top, inner, if_false, Bool.false_eq_true, Option.map_eq_some_iff,
      Text.dropPrefix_eq_some_iff]
    constructor
    · rintro ⟨rest, shape, rfl⟩
      simp [← String.toList_inj, shape]
    · rintro rfl
      exact ⟨name.toList, by simp, by simp⟩

theorem Path.baseName_child (dir name : String) :
    baseName (child dir name).toList = baseName name.toList := by
  unfold child
  split
  · rfl
  · have text : (dir ++ "/" ++ name).toList = dir.toList ++ '/' :: name.toList := by simp
    rw [text, baseName_append]

theorem Language.ofPath_child (dir name : String) : ofPath (Path.child dir name) = ofPath name := by
  rw [ofPath, ofPath, Path.baseName_child]

end Names

/-- Something else is known of the file of this path. -/
def rewrite (path : String) (data : FileData) (file : String × FileData) : String × FileData :=
  (file.1, if file.1 = path then data else file.2)

namespace SourceTree

def overwrite (t : SourceTree) (path : String) (data : FileData) : SourceTree :=
  ⟨t.entries.insert path (.file data)⟩

variable {t : SourceTree} {place name root : String} {before data : FileData}

theorem get_of_data (h : t.data? place = some before) :
    t.entries.get? place = some (.file before) := by
  unfold data? at h
  split at h
  · next known =>
    cases h
    exact known
  · cases h

theorem content_of_data {content : Bytes} (h : t.data? place = some (.readable content)) :
    t.content? place = some content := by
  rw [content?, h]
  rfl

/-- What the walk brings is what the tree holds. -/
theorem data_of_walk {respect : Bool} (h : (name, before) ∈ t.walk respect root) :
    t.data? (Path.child root name) = some before := by
  obtain ⟨⟨path, known⟩, listed, visited⟩ := List.mem_filterMap.mp h
  obtain ⟨called, below, visited⟩ := Option.bind_eq_some_iff.mp visited
  split at visited
  · cases visited
    obtain ⟨⟨key, entry⟩, he, shape⟩ := List.mem_filterMap.mp listed
    cases entry with
    | directory => cases shape
    | file held =>
      cases shape
      rw [← Path.below_eq_some_iff.mp below, data?, TextMap.mem_entries_iff.mp he]
  · cases visited

theorem content_overwrite {path : String} (other : path ≠ place) :
    (t.overwrite place data).content? path = t.content? path := by
  rw [content?, content?, data?, data?, overwrite, TextMap.get_insert_of_ne other.symm]

theorem isDirectory_overwrite (known : t.data? place = some before) (path : String) :
    (t.overwrite place data).isDirectory path = t.isDirectory path := by
  rw [isDirectory, isDirectory, overwrite, TextMap.get_insert]
  by_cases here : place = path
  · subst here
    simp [get_of_data known]
  · simp [here]

theorem files_overwrite (known : t.data? place = some before) :
    (t.overwrite place data).files = t.files.map (rewrite place data) := by
  have entry : (place, .file before) ∈ t.entries.entries :=
    TextMap.mem_entries_iff.mpr (get_of_data known)
  rw [files, files, overwrite, TextMap.insert_known (get_of_data known), TextMap.entries_alter,
    List.filterMap_map, List.map_filterMap]
  apply List.filterMap_congr
  rintro ⟨path, kind⟩ he
  by_cases here : path = place
  · subst here
    cases TextMap.entry_unique he entry rfl
    simp [rewrite]
  · cases kind <;> simp [rewrite, here]

/-- Files of the languages of the graph hold no rules of what to ignore. -/
theorem ignores_overwrite (indexed : (Language.ofPath place).indexed = true) (path : String)
    (directory : Bool) :
    (t.overwrite place data).ignores path directory = t.ignores path directory := by
  have same : ∀ name ∈ ignoreFiles, (t.overwrite place data).verdict? name path directory =
      t.verdict? name path directory := by
    intro name hname
    have rules : ∀ name ∈ ignoreFiles, (Language.ofPath name).indexed = false := by decide
    have other : ∀ dir, Path.child dir name ≠ place := by
      rintro dir rfl
      rw [Language.ofPath_child, rules name hname] at indexed
      cases indexed
    simp only [verdict?, content_overwrite (other _)]
  simp only [ignores, ← List.head?_filterMap]
  rw [List.filterMap_congr same]

theorem visits_overwrite (indexed : (Language.ofPath place).indexed = true) (respect : Bool)
    (path : String) :
    (t.overwrite place data).visits respect root path = t.visits respect root path := by
  simp only [visits, passes, ignores_overwrite indexed]

theorem walk_overwrite (known : t.data? place = some before)
    (below : Path.below? root place = some name)
    (indexed : (Language.ofPath name).indexed = true) (respect : Bool) :
    (t.overwrite place data).walk respect root =
      (t.walk respect root).map (rewrite name data) := by
  have shape : place = Path.child root name := Path.below_eq_some_iff.mp below
  have own : (Language.ofPath place).indexed = true := by
    rw [shape, Language.ofPath_child]
    exact indexed
  -- Only one path has this name below the root, so one file is rewritten on both sides.
  rw [walk, walk, files_overwrite known, List.filterMap_map, List.map_filterMap]
  apply List.filterMap_congr
  rintro ⟨path, held⟩ _
  cases called : Path.below? root path with
  | none => simp [rewrite, called]
  | some other =>
    have renamed : other = name ↔ path = place := by
      constructor
      · rintro rfl
        exact (Path.below_eq_some_iff.mp called).trans shape.symm
      · rintro rfl
        exact Option.some.inj (called.symm.trans below)
    cases visited : t.visits respect root path <;>
      simp [rewrite, called, visits_overwrite own, visited, renamed]

end SourceTree

end SourceAtlas
