import SourceAtlas.Proofs.Path

/-! Joining a relative path to a directory. Each of its segments goes down to a name, up by one directory or
nowhere, so the depth on the way is that of the directory and of the names less the steps up, and the way
leaves the root where that would fall below zero. What is left are names with no slash in them, which the
text of the path gives back, so that going on from there is going on from the text. -/
namespace SourceAtlas.Path

variable {dir path : String} {part : List Char} {parts stack last : List (List Char)} {depth : Nat}

/-- The segment that leads to the directory above. -/
def up : List Char := ['.', '.']

/-- A name: neither empty nor one of the two that are made of dots alone. -/
def Ordinary (part : List Char) : Prop := part ≠ [] ∧ part ≠ ['.'] ∧ part ≠ up

instance (part : List Char) : Decidable (Ordinary part) := inferInstanceAs (Decidable (_ ∧ _ ∧ _))

/-- What stands between the slashes of a path. The root, which is the empty text, has no segments. -/
def segments (path : String) : List (List Char) :=
  if path = "" then [] else Text.split '/' path.toList

/-- Some way along there are more steps up than there are directories to leave. -/
def LeavesRoot (depth : Nat) (parts : List (List Char)) : Prop :=
  ∃ before, before <+: parts ∧ depth + before.countP Ordinary < before.count up

theorem cases_of_part (part : List Char) : (part = [] ∨ part = ['.']) ∨ part = up ∨ Ordinary part := by
  by_cases here : part = [] ∨ part = ['.']
  · exact .inl here
  · rw [not_or] at here
    by_cases above : part = up
    · exact .inr (.inl above)
    · exact .inr (.inr ⟨here.1, here.2, above⟩)

theorem follow_here (here : part = [] ∨ part = ['.']) : follow stack part = some stack := by
  simp [follow, here]

theorem follow_up (stack : List (List Char)) :
    follow stack up = if stack = [] then none else some stack.dropLast := by
  simp [follow, up]

theorem follow_ordinary (name : Ordinary part) : follow stack part = some (stack ++ [part]) := by
  obtain ⟨full, dot, above⟩ := name
  rw [up] at above
  simp [follow, full, dot, above]

section Depth

theorem not_leavesRoot_nil : ¬ LeavesRoot depth [] := by
  rintro ⟨before, front, above⟩
  rw [List.prefix_nil] at front
  subst front
  simp at above

theorem leavesRoot_cons : LeavesRoot depth (part :: parts) ↔
    ∃ before, before <+: parts ∧
      depth + (part :: before).countP Ordinary < (part :: before).count up := by
  constructor
  · rintro ⟨before, front, above⟩
    rcases List.prefix_cons_iff.mp front with rfl | ⟨rest, rfl, later⟩
    · simp at above
    · exact ⟨rest, later, above⟩
  · rintro ⟨before, front, above⟩
    exact ⟨part :: before, List.prefix_cons_iff.mpr (.inr ⟨before, rfl, front⟩), above⟩

theorem leavesRoot_here (here : part = [] ∨ part = ['.']) :
    LeavesRoot depth (part :: parts) ↔ LeavesRoot depth parts := by
  have noName : ¬ Ordinary part := fun name => here.elim name.1 name.2.1
  have stays : part ≠ up := by rcases here with rfl | rfl <;> decide
  rw [leavesRoot_cons, LeavesRoot]
  apply exists_congr
  intro before
  rw [List.countP_cons_of_neg (by simpa using noName), List.count_cons_of_ne stays]

theorem leavesRoot_ordinary (name : Ordinary part) :
    LeavesRoot depth (part :: parts) ↔ LeavesRoot (depth + 1) parts := by
  have stays : part ≠ up := name.2.2
  rw [leavesRoot_cons, LeavesRoot]
  apply exists_congr
  intro before
  apply and_congr_right
  intro _
  rw [List.countP_cons_of_pos (by simpa using name), List.count_cons_of_ne stays]
  omega

theorem leavesRoot_up : LeavesRoot depth (up :: parts) ↔ depth = 0 ∨ LeavesRoot (depth - 1) parts := by
  have noName : ¬ Ordinary up := fun name => name.2.2 rfl
  simp only [leavesRoot_cons, List.count_cons_self, List.countP_cons_of_neg, noName, decide_false,
    Bool.false_eq_true, not_false_eq_true]
  constructor
  · rintro ⟨before, front, above⟩
    by_cases top : depth = 0
    · exact .inl top
    · exact .inr ⟨before, front, by omega⟩
  · rintro (top | ⟨before, front, above⟩)
    · exact ⟨[], List.nil_prefix, by simp [top]⟩
    · exact ⟨before, front, by omega⟩

theorem foldlM_follow_eq_none_iff :
    parts.foldlM follow stack = none ↔ LeavesRoot stack.length parts := by
  induction parts generalizing stack with
  | nil => simp [not_leavesRoot_nil]
  | cons part rest ih =>
    rw [List.foldlM_cons]
    rcases cases_of_part part with here | rfl | name
    · rw [follow_here here, leavesRoot_here here]
      exact ih
    · rw [follow_up, leavesRoot_up]
      by_cases top : stack = []
      · simp [top]
      · have inner : stack.length ≠ 0 := by simpa using top
        simp [top, inner, ih]
    · rw [follow_ordinary name, leavesRoot_ordinary name]
      have deeper : rest.foldlM follow (stack ++ [part]) = none ↔
          LeavesRoot (stack ++ [part]).length rest := ih
      simpa using deeper

end Depth

theorem mem_follow (step : follow stack part = some last) {q : List Char} (hq : q ∈ last) :
    q ∈ stack ∨ q = part ∧ Ordinary q := by
  rcases cases_of_part part with here | rfl | name
  · rw [follow_here here] at step
    cases step
    exact .inl hq
  · rw [follow_up] at step
    split at step
    · cases step
    · cases step
      exact .inl (List.dropLast_subset _ hq)
  · rw [follow_ordinary name] at step
    cases step
    rcases List.mem_append.mp hq with hq | hq
    · exact .inl hq
    · rw [List.mem_singleton.mp hq]
      exact .inr ⟨rfl, name⟩

theorem mem_foldlM_follow (run : parts.foldlM follow stack = some last) {q : List Char}
    (hq : q ∈ last) : q ∈ stack ∨ q ∈ parts ∧ Ordinary q := by
  induction parts generalizing stack with
  | nil =>
    cases run
    exact .inl hq
  | cons part rest ih =>
    rw [List.foldlM_cons] at run
    obtain ⟨next, step, run⟩ := Option.bind_eq_some_iff.mp run
    rcases ih run with hq | ⟨hq, name⟩
    · rcases mem_follow step hq with hq | ⟨rfl, name⟩
      · exact .inl hq
      · exact .inr ⟨List.mem_cons_self, name⟩
    · exact .inr ⟨List.mem_cons_of_mem _ hq, name⟩

theorem foldlM_follow_ordinary (names : ∀ part ∈ parts, Ordinary part) :
    parts.foldlM follow stack = some (stack ++ parts) := by
  induction parts generalizing stack with
  | nil => simp
  | cons part rest ih =>
    rw [List.foldlM_cons, follow_ordinary (names part List.mem_cons_self)]
    have later : rest.foldlM follow (stack ++ [part]) = some (stack ++ [part] ++ rest) :=
      ih fun q hq => names q (List.mem_cons_of_mem _ hq)
    simpa using later

section Text

theorem foldlM_follow_split (path : String) (stack : List (List Char)) :
    (Text.split '/' path.toList).foldlM follow stack = (segments path).foldlM follow stack := by
  by_cases root : path = ""
  · simp [root, segments, Text.split, follow]
  · rw [segments, if_neg root]

theorem components_eq (path : String) : components path = (segments path).filter (· ≠ []) := by
  by_cases root : path = ""
  · simp [root, components, segments, Text.split]
  · rw [components, segments, if_neg root]

theorem ofComponents_segments (path : String) : ofComponents (segments path) = path := by
  by_cases root : path = ""
  · simp [root, segments, ofComponents, Text.joinWith]
  · rw [segments, if_neg root, ofComponents, Text.joinWith_split, String.ofList_toList]

/-- None is empty and none holds a slash, so their text can be divided again. -/
def ProperParts (parts : List (List Char)) : Prop := ∀ part ∈ parts, part ≠ [] ∧ '/' ∉ part

theorem segments_ofComponents (proper : ProperParts parts) : segments (ofComponents parts) = parts := by
  cases parts with
  | nil => rfl
  | cons first rest =>
    have text : (ofComponents (first :: rest)).toList = ['/'].intercalate (first :: rest) := by
      rw [ofComponents, String.toList_ofList, Text.joinWith_eq_intercalate]
    have divided := Text.split_intercalate (List.cons_ne_nil first rest) fun part hp => (proper part hp).2
    have inner : ofComponents (first :: rest) ≠ "" := by
      intro root
      rw [← text, root] at divided
      obtain ⟨rfl, rfl⟩ := List.cons.inj divided
      exact (proper [] List.mem_cons_self).1 rfl
    rw [segments, if_neg inner, text, divided]

theorem components_ofComponents (proper : ProperParts parts) : components (ofComponents parts) = parts := by
  rw [components_eq, segments_ofComponents proper, List.filter_eq_self]
  intro part hp
  simpa using (proper part hp).1

theorem proper_components (dir : String) : ProperParts (components dir) := by
  intro part hp
  obtain ⟨inside, full⟩ := List.mem_filter.mp hp
  exact ⟨by simpa using full, Text.not_mem_of_mem_split inside⟩

theorem proper_of_follow {relative : String}
    (run : (Text.split '/' relative.toList).foldlM follow (components dir) = some last) : ProperParts last := by
  intro part hp
  rcases mem_foldlM_follow run hp with hp | ⟨hp, name⟩
  · exact proper_components dir part hp
  · exact ⟨name.1, Text.not_mem_of_mem_split hp⟩

end Text

theorem join_eq_none_iff (dir relative : String) :
    join dir relative = none ↔ LeavesRoot (components dir).length (segments relative) := by
  rw [join, foldlM_follow_split, Option.map_eq_none_iff, foldlM_follow_eq_none_iff]

/-- All that a joined path holds are parts of the directory and names. -/
theorem mem_segments_join {relative : String} (joined : join dir relative = some path)
    (hp : part ∈ segments path) : part ∈ components dir ∨ Ordinary part := by
  obtain ⟨last, run, rfl⟩ := Option.map_eq_some_iff.mp joined
  rw [segments_ofComponents (proper_of_follow run)] at hp
  exact (mem_foldlM_follow run hp).imp_right And.right

theorem join_root (names : ∀ part ∈ segments path, Ordinary part) : join "" path = some path := by
  have top : components "" = [] := by simp [components, Text.split]
  rw [join, foldlM_follow_split, top, foldlM_follow_ordinary names, List.nil_append, Option.map_some,
    ofComponents_segments]

theorem join_join (dir first second : String) :
    join dir (first ++ "/" ++ second) = (join dir first).bind fun path => join path second := by
  have text : (first ++ "/" ++ second).toList = first.toList ++ '/' :: second.toList := by simp
  rw [join, text, Text.split_append, List.foldlM_append, join]
  cases run : (Text.split '/' first.toList).foldlM follow (components dir) with
  | none => rfl
  | some last =>
    change _ = join (ofComponents last) second
    rw [join, components_ofComponents (proper_of_follow run)]
    rfl

/-- A name and the way back from it cancel out. -/
theorem join_back {name : String} (ordinary : Ordinary name.toList) (clear : '/' ∉ name.toList)
    (dir : String) : join dir (name ++ "/..") = join dir "" := by
  have text : (name ++ "/..").toList = name.toList ++ '/' :: up := by simp [up]
  have there : Text.split '/' (name ++ "/..").toList = [name.toList, up] := by
    rw [text, Text.split_append, Text.split_of_not_mem clear]
    rfl
  have stay : Text.split '/' "".toList = [[]] := rfl
  have back : follow (components dir ++ [name.toList]) up = some (components dir) := by
    rw [follow_up, if_neg (by simp), List.dropLast_concat]
  rw [join, join, there, stay]
  simp [follow_ordinary ordinary, back, follow_here]

/-- A path is joined as long as it does not climb above the root. Where it leads to is below the root and
free of empty segments and of new dots, a step up having taken back the name before it, and from there it
can be followed further. -/
theorem joined_paths_stay_and_compose :
    (∀ dir relative, join dir relative = none ↔
      ∃ before, before <+: segments relative ∧
        (components dir).length + before.countP Ordinary < before.count up) ∧
    (∀ dir relative path, join dir relative = some path →
      [] ∉ segments path ∧
      ((∀ part ∈ components dir, part ≠ ['.'] ∧ part ≠ up) →
        ∀ part ∈ segments path, part ≠ ['.'] ∧ part ≠ up)) ∧
    (∀ path, (∀ part ∈ segments path, Ordinary part) → join "" path = some path) ∧
    (∀ dir name : String, Ordinary name.toList → '/' ∉ name.toList →
      join dir (name ++ "/..") = join dir "") ∧
    ∀ dir first second, join dir (first ++ "/" ++ second) =
      (join dir first).bind fun path => join path second := by
  refine ⟨join_eq_none_iff, ?_, fun _ => join_root, ?_, join_join⟩
  · intro dir relative path joined
    constructor
    · intro inside
      rcases mem_segments_join joined inside with old | name
      · exact (proper_components dir [] old).1 rfl
      · exact name.1 rfl
    · intro clear part hp
      rcases mem_segments_join joined hp with old | name
      · exact clear part old
      · exact name.2
  · intro dir name ordinary clear
    exact join_back ordinary clear dir

theorem map_path_stays_and_composes :
    (join "src/net" "../store//./map.rs" = some "src/store/map.rs" ∧
      (∀ part ∈ components "src/net", part ≠ ['.'] ∧ part ≠ up) ∧
      ∀ part ∈ segments "src/store/map.rs", Ordinary part) ∧
    join "src/net" "../a/../../../map.rs" = none ∧
    ([] ∉ segments "src/store/map.rs" ∧
      ∀ part ∈ segments "src/store/map.rs", part ≠ ['.'] ∧ part ≠ up) ∧
    join "" "src/store/map.rs" = some "src/store/map.rs" ∧
    join "src/net" "tcp/.." = join "src/net" "" ∧
    join "src/net" "../store//./map.rs" =
      (join "src/net" "../store/").bind fun path => join path "./map.rs" := by
  have joined : join "src/net" "../store//./map.rs" = some "src/store/map.rs" := by decide
  have clear : ∀ part ∈ components "src/net", part ≠ ['.'] ∧ part ≠ up := by decide
  have names : ∀ part ∈ segments "src/store/map.rs", Ordinary part := by decide
  obtain ⟨leaves, stays, root, back, composes⟩ := joined_paths_stay_and_compose
  obtain ⟨full, noDots⟩ := stays _ _ _ joined
  refine ⟨⟨joined, clear, names⟩, ?_, ⟨full, noDots clear⟩, root _ names,
    back "src/net" "tcp" (by decide) (by decide), ?_⟩
  · exact (leaves _ _).mpr ⟨["..", "a", "..", "..", ".."].map String.toList, by decide, by decide⟩
  · exact composes "src/net" "../store/" "./map.rs"

end SourceAtlas.Path
