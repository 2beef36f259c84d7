import SourceAtlas.Proofs.Path

/-! What the walk never comes to. A directory of a name that is never visited hides all that is in it. The
directory of stored snapshots is one of these: whether it is there and what it holds makes no difference
to a walk that starts outside of it. -/
namespace SourceAtlas

namespace Path

variable {dir path name : String}

/-- Whether a path is that of the directory or of something in it. -/
def isWithin (dir path : String) : Bool := path = dir || (below? dir path).isSome

theorem isWithin_iff : isWithin dir path = true ↔ path = dir ∨ ∃ name, path = child dir name := by
  simp only [isWithin, Bool.or_eq_true, decide_eq_true_eq, Option.isSome_iff_exists, below_eq_some_iff]

theorem isWithin_child (h : isWithin dir path = true) (inner : dir ≠ "") (name : String) :
    isWithin dir (child path name) = true := by
  rw [isWithin_iff] at h ⊢
  rcases h with rfl | ⟨before, rfl⟩
  · exact .inr ⟨name, rfl⟩
  · refine .inr ⟨before ++ "/" ++ name, ?_⟩
    rw [child_child inner, child_eq (child_ne inner before)]

theorem isWithin_trans {between : String} (h : isWithin dir between = true) (inner : dir ≠ "")
    (more : isWithin between path = true) : isWithin dir path = true := by
  rcases isWithin_iff.mp more with rfl | ⟨name, rfl⟩
  · exact h
  · exact isWithin_child h inner name

theorem isWithin_of_ancestor {above : String} (hdir : above ∈ ancestors path)
    (inside : isWithin dir above = true) (inner : dir ≠ "") : isWithin dir path = true := by
  obtain ⟨_, rest, rfl⟩ := mem_ancestors_iff.mp hdir
  exact isWithin_child inside inner rest

/-- What is in a directory at the top of the tree leads into it by the first step. -/
theorem isWithin_of_child (top : '/' ∉ dir.toList) (inside : path ≠ "")
    (h : isWithin dir (child path name) = true) : isWithin dir path = true := by
  rw [isWithin_iff] at h ⊢
  rcases h with same | ⟨other, same⟩
  · rw [← same, toList_child inside] at top
    simp at top
  · by_cases none : dir = ""
    · exact .inr ⟨path, by simp [child, none]⟩
    · have chars := congrArg String.toList same
      rw [toList_child inside, toList_child none, List.append_eq_append_iff] at chars
      rcases chars with ⟨rest, longer, tail⟩ | ⟨rest, longer, tail⟩
      · cases rest with
        | nil => exact .inl (String.toList_inj.mp (by simpa using longer.symm))
        | cons c more =>
          cases (List.cons.inj tail).1
          rw [longer] at top
          simp at top
      · cases rest with
        | nil => exact .inl (String.toList_inj.mp (by simpa using longer))
        | cons c more =>
          cases (List.cons.inj tail).1
          refine .inr ⟨String.ofList more, ?_⟩
          rw [← String.toList_inj, toList_child none, longer, String.toList_ofList]

end Path

namespace SourceTree

variable {t t' : SourceTree} {respect : Bool} {root name dir path : String} {data : FileData}

theorem mem_files_iff : (path, data) ∈ t.files ↔ t.data? path = some data := by
  simp only [files, List.mem_filterMap, Prod.exists, TextMap.mem_entries_iff]
  constructor
  · rintro ⟨key, entry, found, shape⟩
    cases entry with
    | directory => cases shape
    | file held =>
      cases shape
      rw [data?, found]
  · intro h
    exact ⟨path, .file data, get_of_data h, rfl⟩

theorem mem_walk_iff : (name, data) ∈ t.walk respect root ↔
    t.data? (Path.child root name) = some data ∧
      t.visits respect root (Path.child root name) = true := by
  simp only [walk, List.mem_filterMap, Prod.exists, mem_files_iff, Option.bind_eq_bind,
    Option.bind_eq_some_iff, Path.below_eq_some_iff]
  constructor
  · rintro ⟨_, _, held, called, rfl, visited⟩
    split at visited
    · next comes =>
      cases visited
      exact ⟨held, comes⟩
    · cases visited
  · rintro ⟨held, comes⟩
    exact ⟨_, data, held, name, rfl, by simp [comes]⟩

/-- The walk comes to a file by directories that it does not pass. -/
theorem passes_of_visits (h : t.visits respect root (Path.child root name) = true) :
    t.passes respect (Path.child root name) false = false ∧
      ∀ dir ∈ Path.ancestors name, t.passes respect (Path.child root dir) true = false := by
  simp only [visits, Bool.and_eq_true, Bool.not_eq_true', List.all_eq_true, List.mem_filter,
    decide_eq_true_eq] at h
  obtain ⟨own, all⟩ := h
  refine ⟨own, ?_⟩
  intro dir hdir
  refine all _ ⟨Path.child_mem_ancestors root hdir, ?_, ?_⟩
  · exact Path.child_ne_self root (Path.mem_ancestors_iff.mp hdir).1
  · rw [Option.isSome_iff_exists]
    exact ⟨dir, Path.below_eq_some_iff.mpr rfl⟩

/-- No component of a path that the walk brings is a name that is never visited. -/
theorem component_of_walk (h : (name, data) ∈ t.walk respect root) {part : List Char}
    (hpart : part ∈ Path.components name) : neverVisited (String.ofList part) = false := by
  have called : ∀ {path : String} {directory : Bool},
      t.passes respect (Path.child root path) directory = false →
        neverVisited (String.ofList (baseName path.toList)) = false := by
    intro path directory comes
    rw [passes, Bool.or_eq_false_iff, Path.fileName, Path.baseName_child] at comes
    exact comes.1
  obtain ⟨own, above⟩ := passes_of_visits (mem_walk_iff.mp h).2
  rcases Path.mem_components hpart with rfl | ⟨dir, hdir, rfl⟩
  · exact called own
  · exact called (above dir hdir)

section Remove

theorem get_remove (t : SourceTree) (dir path : String) : (t.remove dir).entries.get? path =
    if Path.isWithin dir path then none else t.entries.get? path := by
  rw [remove, TextMap.get_restrict]
  by_cases here : path = dir
  · simp [Path.isWithin, here]
  · cases below : Path.below? dir path <;> simp [Path.isWithin, here, below]

theorem data_remove (t : SourceTree) (dir path : String) :
    (t.remove dir).data? path = if Path.isWithin dir path then none else t.data? path := by
  rw [data?, data?, get_remove]
  cases Path.isWithin dir path <;> rfl

theorem content_remove (outside : Path.isWithin dir path = false) :
    (t.remove dir).content? path = t.content? path := by
  rw [content?, content?, data_remove, outside]
  rfl

theorem visits_hidden (h : Path.isWithin cacheDirectory path = true) :
    t.visits respect "" path = false := by
  have hidden : ∀ directory, t.passes respect cacheDirectory directory = true := by
    intro directory
    have never : neverVisited (Path.fileName cacheDirectory) = true := by decide
    rw [passes, never, Bool.true_or]
  rcases Path.isWithin_iff.mp h with rfl | ⟨name, rfl⟩
  · simp [visits, hidden]
  · have above : cacheDirectory ∈ Path.ancestors (Path.child cacheDirectory name) :=
      Path.mem_ancestors_iff.mpr ⟨by decide, name, rfl⟩
    have stops : cacheDirectory ∈ (Path.ancestors (Path.child cacheDirectory name)).filter
        fun dir => dir ≠ "" && (Path.below? "" dir).isSome :=
      List.mem_filter.mpr ⟨above, by decide⟩
    rw [visits, Bool.and_eq_false_iff]
    refine .inr (List.all_eq_false.mpr ⟨cacheDirectory, stops, ?_⟩)
    simp [hidden]

/-- No rules for a path outside of the directory lie in it. -/
theorem ignores_remove (outside : Path.isWithin cacheDirectory path = false) (directory : Bool) :
    (t.remove cacheDirectory).ignores path directory = t.ignores path directory := by
  have rules : ∀ name ∈ ignoreFiles, Path.isWithin cacheDirectory name = false := by decide
  have kept : ∀ name ∈ ignoreFiles, ∀ dir ∈ Path.ancestors path ++ [""],
      Path.isWithin cacheDirectory (Path.child dir name) = false := by
    intro name hname dir hdir
    rcases List.mem_append.mp hdir with above | top
    · rw [Bool.eq_false_iff] at outside ⊢
      intro inside
      have inner := (Path.mem_ancestors_iff.mp above).1
      have reached := Path.isWithin_of_child (by decide) inner inside
      exact outside (Path.isWithin_of_ancestor above reached (by decide))
    · rw [List.mem_singleton.mp top]
      exact rules name hname
  have same : ∀ name ∈ ignoreFiles, (t.remove cacheDirectory).verdict? name path directory =
      t.verdict? name path directory := by
    intro name hname
    simp only [verdict?, ← List.head?_filterMap]
    congr 1
    apply List.filterMap_congr
    intro dir hdir
    rw [content_remove (kept name hname dir hdir)]
  simp only [ignores, ← List.head?_filterMap]
  rw [List.filterMap_congr same]

theorem visits_remove (outside : Path.isWithin cacheDirectory path = false) :
    (t.remove cacheDirectory).visits respect root path = t.visits respect root path := by
  have above : ∀ dir ∈ Path.ancestors path, Path.isWithin cacheDirectory dir = false := by
    intro dir hdir
    rw [Bool.eq_false_iff] at outside ⊢
    exact fun inside => outside (Path.isWithin_of_ancestor hdir inside (by decide))
  simp only [visits, passes, ignores_remove outside]
  congr 1
  rw [Bool.eq_iff_iff, List.all_eq_true, List.all_eq_true]
  have each : ∀ dir ∈ (Path.ancestors path).filter fun dir =>
      dir ≠ root && (Path.below? root dir).isSome,
        (t.remove cacheDirectory).ignores dir true = t.ignores dir true := by
    intro dir hdir
    exact ignores_remove (above dir (List.mem_filter.mp hdir).1) true
  constructor
  · intro all dir hdir
    rw [← each dir hdir]
    exact all dir hdir
  · intro all dir hdir
    rw [each dir hdir]
    exact all dir hdir

theorem files_remove (t : SourceTree) (dir : String) :
    (t.remove dir).files = t.files.filter fun file => !Path.isWithin dir file.1 := by
  rw [files, files, List.filter_filterMap]
  simp only [remove, TextMap.restrict, List.filterMap_filter]
  apply List.filterMap_congr
  rintro ⟨path, entry⟩ _
  have within : (decide (path ≠ dir) && (Path.below? dir path).isNone) = !Path.isWithin dir path := by
    rw [Path.isWithin, Bool.not_or, ← Option.not_isSome, decide_not]
  rw [within]
  cases inside : Path.isWithin dir path <;> cases entry <;> simp [Option.filter, inside]

/-- From outside of the directory of the stored snapshot, the walk is the same without it. -/
theorem walk_remove (outside : Path.isWithin cacheDirectory root = false) (t : SourceTree)
    (respect : Bool) : (t.remove cacheDirectory).walk respect root = t.walk respect root := by
  rw [walk, walk, files_remove, List.filterMap_filter]
  apply List.filterMap_congr
  rintro ⟨path, bytes⟩ _
  cases inside : Path.isWithin cacheDirectory path with
  | false => simp [visits_remove inside]
  | true =>
    cases below : Path.below? root path with
    | none => simp [below]
    | some name =>
      -- A root with a name of its own that leads into the directory lies in it.
      by_cases top : root = ""
      · subst top
        simp [visits_hidden inside]
      · rw [Path.below_eq_some_iff.mp below] at inside
        rw [Path.isWithin_of_child (by decide) top inside] at outside
        cases outside

theorem isDirectory_remove (outside : Path.isWithin dir path = false) :
    (t.remove dir).isDirectory path = t.isDirectory path := by
  rw [isDirectory, isDirectory, get_remove, outside]
  rfl

theorem remove_congr (same : ∀ path, Path.isWithin dir path = false →
    t'.entries.get? path = t.entries.get? path) : t'.remove dir = t.remove dir := by
  have entries : (t'.remove dir).entries = (t.remove dir).entries := by
    apply TextMap.ext_get
    intro path
    rw [get_remove, get_remove]
    cases inside : Path.isWithin dir path with
    | true => rfl
    | false => exact same path inside
  cases t'
  cases t
  exact congrArg SourceTree.mk entries

theorem remove_insert (inside : Path.isWithin dir path = true) (entry : TreeEntry) :
    (⟨t.entries.insert path entry⟩ : SourceTree).remove dir = t.remove dir := by
  apply remove_congr
  intro other outside
  have differs : path ≠ other := by
    rintro rfl
    rw [inside] at outside
    cases outside
  exact TextMap.get_insert_of_ne differs _ _

theorem remove_within {between : String} (inside : Path.isWithin dir between = true)
    (inner : dir ≠ "") : (t.remove between).remove dir = t.remove dir := by
  apply remove_congr
  intro path outside
  have apart : Path.isWithin between path = false := by
    rw [Bool.eq_false_iff] at outside ⊢
    exact fun below => outside (Path.isWithin_trans inside inner below)
  rw [get_remove, apart]
  rfl

end Remove

end SourceTree

end SourceAtlas
