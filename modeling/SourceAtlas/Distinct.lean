/-! Lists without repeats: the first entry of each key is kept, in the order of the list. -/
namespace SourceAtlas

variable {α β : Type} [DecidableEq β]

/-- The entries whose key does not occur before them. -/
def distinctBy (key : α → β) : List α → List α
  | [] => []
  | x :: rest => x :: (distinctBy key rest).filter fun y => key y ≠ key x

theorem mem_of_mem_distinctBy {key : α → β} {xs : List α} {x : α}
    (h : x ∈ distinctBy key xs) : x ∈ xs := by
  induction xs with
  | nil => simp [distinctBy] at h
  | cons y rest ih =>
    rcases List.mem_cons.mp h with h | h
    · exact h ▸ List.mem_cons_self
    · exact List.mem_cons_of_mem _ (ih (List.mem_filter.mp h).1)

/-- No key is lost. -/
theorem exists_mem_distinctBy {key : α → β} {xs : List α} {x : α} (h : x ∈ xs) :
    ∃ y ∈ distinctBy key xs, key y = key x := by
  induction xs with
  | nil => simp at h
  | cons y rest ih =>
    by_cases e : key y = key x
    · exact ⟨y, List.mem_cons_self, e⟩
    · rcases List.mem_cons.mp h with h | h
      · exact absurd (congrArg key h.symm) e
      · obtain ⟨z, hz, hk⟩ := ih h
        refine ⟨z, List.mem_cons_of_mem _ (List.mem_filter.mpr ⟨hz, ?_⟩), hk⟩
        simpa [hk] using fun c => e c.symm

theorem distinctBy_pairwise (key : α → β) (xs : List α) :
    (distinctBy key xs).Pairwise (fun a b => key a ≠ key b) := by
  induction xs with
  | nil => exact List.Pairwise.nil
  | cons x rest ih =>
    refine List.pairwise_cons.mpr ⟨fun y hy => ?_, ih.filter _⟩
    have := (List.mem_filter.mp hy).2
    simpa using fun c => (by simpa using this : key y ≠ key x) c.symm

end SourceAtlas
