import SourceAtlas.Text.Blank
import SourceAtlas.Text.Brace
import SourceAtlas.Text.Split
import SourceAtlas.Text.Word

/-! The paths that the tree of a Rust `use` declaration imports, one per leaf. Aliases and white
space are dropped first; a group then contributes the leaves of its items below its prefix, `self`
in a group stands for the prefix, and a glob for the module that it is taken from. -/
namespace SourceAtlas.UseTree

/-- What follows an alias at the front: white space, `as`, white space and a word. -/
def afterAlias? (cs : List Char) : Option (List Char) :=
  if cs.head?.any Text.isBlank then
    match Text.trimStart cs with
    | 'a' :: 's' :: rest =>
      let word := Text.trimStart rest
      if rest.head?.any Text.isBlank && word.head?.any Text.isWord then
        some (word.dropWhile Text.isWord)
      else none
    | _ => none
  else none

theorem afterAlias?_length_lt {cs rest : List Char} (h : afterAlias? cs = some rest) :
    rest.length < cs.length := by
  unfold afterAlias? at h
  split at h
  · split at h
    · next more e =>
      dsimp only at h
      split at h
      · injection h with h
        subst h
        have h1 := (List.dropWhile_sublist Text.isWord (l := Text.trimStart more)).length_le
        have h2 := (List.dropWhile_sublist Text.isBlank (l := more)).length_le
        have h3 := (List.dropWhile_sublist Text.isBlank (l := cs)).length_le
        simp only [Text.trimStart] at *
        rw [e] at h3
        simp only [List.length_cons] at h3
        omega
      · cases h
    · cases h
  · cases h

def dropAliases (cs : List Char) : List Char :=
  match _h : afterAlias? cs with
  | some rest => dropAliases rest
  | none =>
    match cs with
    | [] => []
    | c :: rest => c :: dropAliases rest
termination_by cs.length
decreasing_by
  · exact afterAlias?_length_lt _h
  · simp

def compact (cs : List Char) : List Char := (dropAliases cs).filter fun c => !Text.isBlank c

/-- The parts between `::`. -/
def splitPath : List Char → List (List Char)
  | [] => [[]]
  | ':' :: ':' :: rest => [] :: splitPath rest
  | c :: rest =>
    match splitPath rest with
    | [] => [[c]]
    | part :: more => (c :: part) :: more

/-- The names of a path; the empty ones and the glob are left out. -/
def segments (cs : List Char) : List String :=
  ((splitPath cs).filter fun part => part ≠ [] && part ≠ ['*']).map String.ofList

/-- The parts between the commas that stand outside of braces. A brace that closes none is passed
over. -/
def splitItems (depth : Nat) : List Char → List (List Char)
  | [] => [[]]
  | c :: rest =>
    if c = ',' ∧ depth = 0 then [] :: splitItems 0 rest
    else
      let inner := if c = Text.openBrace then depth + 1 else if c = Text.closeBrace then depth - 1 else depth
      match splitItems inner rest with
      | [] => [[c]]
      | part :: more => (c :: part) :: more

theorem length_le_of_mem_splitItems {depth : Nat} {cs part : List Char}
    (h : part ∈ splitItems depth cs) : part.length ≤ cs.length := by
  induction cs generalizing depth part with
  | nil => simp_all [splitItems]
  | cons c rest ih =>
    unfold splitItems at h
    split at h
    · rcases List.mem_cons.mp h with h | h
      · simp [h]
      · exact Nat.le_succ_of_le (ih h)
    · simp only at h
      split at h
      · simp_all
      · next p more e =>
        rcases List.mem_cons.mp h with h | h
        · subst h
          simpa using ih (e ▸ List.mem_cons_self)
        · exact Nat.le_succ_of_le (ih (e ▸ List.mem_cons_of_mem _ h))

/-- The text before the first opening brace and the text from there to the last closing one. -/
def group? (cs : List Char) : Option (List Char × List Char) :=
  match cs.dropWhile (· ≠ Text.openBrace) with
  | [] => none
  | _ :: rest =>
    match rest.reverse.dropWhile (· ≠ Text.closeBrace) with
    | [] => none
    | _ :: inside => some (cs.takeWhile (· ≠ Text.openBrace), inside.reverse)

theorem group?_length_lt {cs before inside : List Char} (h : group? cs = some (before, inside)) :
    inside.length < cs.length := by
  unfold group? at h
  split at h
  · cases h
  · next c rest e =>
    have h1 := (List.dropWhile_sublist (· ≠ Text.openBrace) (l := cs)).length_le
    rw [e] at h1
    split at h
    · cases h
    · next d inner e2 =>
      have h2 := (List.dropWhile_sublist (· ≠ Text.closeBrace) (l := rest.reverse)).length_le
      rw [e2] at h2
      simp only [Option.some.injEq, Prod.mk.injEq] at h
      rw [← h.2]
      simp only [List.length_cons, List.length_reverse] at *
      omega

/-- A path without its final `self`, unless that is all of it. -/
def dropSelf (path : List String) : List String :=
  if path.getLast? = some "self" ∧ 1 < path.length then path.dropLast else path

/-- The leaves of a tree without white space and aliases, below the prefix. -/
def leaves (above : List String) (cs : List Char) : List (List String) :=
  match _h : group? cs with
  | some (before, inside) =>
    let base := above ++ segments before
    ((splitItems 0 inside).filter (· ≠ [])).attach.flatMap fun ⟨item, _⟩ =>
      if item = "self".toList then if base.isEmpty then [] else [base]
      else leaves base item
  | none =>
    let path := dropSelf (above ++ segments cs)
    if path.isEmpty then [] else [path]
termination_by cs.length
decreasing_by
  have hm := (List.mem_filter.mp (by assumption)).1
  exact Nat.lt_of_le_of_lt (length_le_of_mem_splitItems hm) (group?_length_lt _h)

def expand (tree : String) : List (List String) := leaves [] (compact tree.toList)

end SourceAtlas.UseTree
