import Mathlib.Algebra.Group.Nat.Defs
import SourceAtlas.Proofs.Path
import SourceAtlas.Text.Lines

/-! Lines of a text that is put together of two: those of the first part, and behind them those of the
second part with numbers that go on. -/
namespace SourceAtlas.Text

/-- The lines of a text with their numbers. -/
def numberedLines (cs : List Char) : List (List Char × UInt32) :=
  (split '\n' cs).zipIdx.map fun (line, i) => (line, lineNumber i)

theorem length_split {α : Type} [DecidableEq α] (sep : α) (cs : List α) :
    (split sep cs).length = cs.count sep + 1 := by
  induction cs with
  | nil => rfl
  | cons c rest ih =>
    obtain ⟨first, more, parts⟩ := List.exists_cons_of_ne_nil (split_ne_nil sep rest)
    rw [parts] at ih
    by_cases here : c = sep
    · rw [split_cons, if_pos here, here, List.count_cons_self, parts, List.length_cons, ih]
    · rw [split_cons, if_neg here, parts, List.count_cons_of_ne here, ← ih]
      rfl

theorem lineNumber_add (breaks more : Nat) :
    lineNumber (breaks + more) = lineNumber more + UInt32.ofNat breaks := by
  rw [lineNumber, lineNumber, ← UInt32.ofNat_add]
  congr 1
  omega

theorem lineNumber_toNat {breaks : Nat} (small : breaks + 1 < 2 ^ 32) :
    (lineNumber breaks).toNat = breaks + 1 :=
  UInt32.toNat_ofNat_of_lt' small

theorem numberedLines_append (before after : List Char) :
    numberedLines (before ++ '\n' :: after) = numberedLines before ++
      (numberedLines after).map fun line => (line.1, line.2 + UInt32.ofNat (before.count '\n' + 1)) := by
  unfold numberedLines
  rw [split_append, List.zipIdx_append, List.map_append, length_split, Nat.zero_add,
    List.zipIdx_eq_map_add (l := split '\n' after), List.map_map, List.map_map]
  congr 1
  apply List.map_congr_left
  intro line _
  exact congrArg (Prod.mk line.1) (lineNumber_add _ _)

theorem mem_numberedLines_iff {cs line : List Char} {n : UInt32} : (line, n) ∈ numberedLines cs ↔
    ∃ i, (split '\n' cs)[i]? = some line ∧ n = lineNumber i := by
  simp only [numberedLines, List.mem_map, Prod.exists, Prod.mk.injEq, List.mem_zipIdx_iff_getElem?]
  constructor
  · rintro ⟨_, i, listed, rfl, rfl⟩
    exact ⟨i, listed, rfl⟩
  · rintro ⟨i, listed, rfl⟩
    exact ⟨line, i, listed, rfl, rfl⟩

end SourceAtlas.Text
