import SourceAtlas.Language
import SourceAtlas.Text.Split

/-! Paths below the root of a tree: components between slashes, the root itself being the empty
text. Joining folds `.` and `..` and never leaves the root. -/
namespace SourceAtlas.Path

/-- What stands before the last slash, the root if there is none. -/
def parentChars (path : List Char) : List Char :=
  match path.reverse.dropWhile (· != '/') with
  | [] => []
  | _ :: before => before.reverse

def parent (path : String) : String := String.ofList (parentChars path.toList)

def fileName (path : String) : String := String.ofList (baseName path.toList)

def child (dir name : String) : String := if dir.isEmpty then name else dir ++ "/" ++ name

/-- One component is followed from the place that `parts` names. -/
def follow (parts : List (List Char)) (part : List Char) : Option (List (List Char)) :=
  if part = [] ∨ part = ['.'] then some parts
  else if part = ['.', '.'] then if parts.isEmpty then none else some parts.dropLast
  else some (parts ++ [part])

def components (path : String) : List (List Char) :=
  (Text.split '/' path.toList).filter (· ≠ [])

def ofComponents (parts : List (List Char)) : String := String.ofList (Text.joinWith ['/'] parts)

def join (dir relative : String) : Option String :=
  ((Text.split '/' relative.toList).foldlM follow (components dir)).map ofComponents

theorem parentChars_length_lt {path : List Char} (h : path ≠ []) :
    (parentChars path).length < path.length := by
  unfold parentChars
  have hd := (List.dropWhile_sublist (· != '/') (l := path.reverse)).length_le
  rw [List.length_reverse] at hd
  split
  · exact List.length_pos_iff.mpr h
  · next c before e =>
    rw [e] at hd
    simp only [List.length_cons, List.length_reverse] at hd ⊢
    omega

theorem parent_length_lt {path : String} (h : path ≠ "") :
    (parent path).toList.length < path.toList.length := by
  have : path.toList ≠ [] := by simpa using h
  simpa [parent] using parentChars_length_lt this

end SourceAtlas.Path
