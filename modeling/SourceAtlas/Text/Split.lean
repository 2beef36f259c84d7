/-! Splitting a text at every occurrence of a character, and joining it again. Bytes are split alike. -/
namespace SourceAtlas.Text

variable {α : Type} [DecidableEq α]

/-- The parts between separators; there is one part more than there are separators. -/
def split (sep : α) (cs : List α) : List (List α) :=
  cs.foldr
    (fun c parts =>
      if c = sep then [] :: parts
      else match parts with
        | [] => [[c]]
        | part :: rest => (c :: part) :: rest)
    [[]]

def joinWith (sep : List α) : List (List α) → List α
  | [] => []
  | [part] => part
  | part :: rest => part ++ sep ++ joinWith sep rest

/-- The rest of `cs` after `start`, if it opens so. -/
def dropPrefix? (start cs : List α) : Option (List α) :=
  match start, cs with
  | [], rest => some rest
  | _ :: _, [] => none
  | a :: start, c :: cs => if a = c then dropPrefix? start cs else none

/-- What stands before `tail`, if `cs` closes so. -/
def dropSuffix? (tail cs : List α) : Option (List α) :=
  (dropPrefix? tail.reverse cs.reverse).map List.reverse

def startsWith (start cs : List α) : Bool := (dropPrefix? start cs).isSome

theorem dropPrefix_eq_some_iff {start cs rest : List α} :
    dropPrefix? start cs = some rest ↔ cs = start ++ rest := by
  induction start generalizing cs with
  | nil => simp [dropPrefix?]
  | cons a start ih =>
    cases cs with
    | nil => simp [dropPrefix?]
    | cons c cs =>
      by_cases same : a = c
      · simp [dropPrefix?, same, ih]
      · have other : ¬ c = a := fun e => same e.symm
        simp [dropPrefix?, same, other]

theorem split_ne_nil (sep : α) (cs : List α) : split sep cs ≠ [] := by
  cases cs with
  | nil => simp [split]
  | cons c rest =>
    have h : split sep (c :: rest) = if c = sep then [] :: split sep rest
        else match split sep rest with
          | [] => [[c]]
          | part :: more => (c :: part) :: more := rfl
    rw [h]
    split
    · simp
    · split <;> simp

theorem joinWith_split (sep : α) (cs : List α) : joinWith [sep] (split sep cs) = cs := by
  induction cs with
  | nil => rfl
  | cons c rest ih =>
    have h : split sep (c :: rest) = if c = sep then [] :: split sep rest
        else match split sep rest with
          | [] => [[c]]
          | part :: more => (c :: part) :: more := rfl
    rw [h]
    cases hs : split sep rest with
    | nil => exact absurd hs (split_ne_nil sep rest)
    | cons part more =>
      rw [hs] at ih
      by_cases hc : c = sep
      · subst hc; simp [joinWith, ih]
      · cases more with
        | nil => simp_all [joinWith]
        | cons q qs => simp_all [joinWith]

end SourceAtlas.Text
