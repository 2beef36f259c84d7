import SourceAtlas.Extraction
import SourceAtlas.Proofs.Distinct

/-! What stays of an extraction that is put in order. A sort that keeps tied entries in their order brings
the first entry of the smallest line of every key to the front of its key, and dropping the later entries
of a key leaves that one. A list that is sorted and has no key twice is not changed any more. -/
namespace SourceAtlas

section Earliest

variable {α β : Type} [DecidableEq β] {key : α → β} {line : α → UInt32} {le : α → α → Bool}

/-- For every key of `xs`, and no other, `kept` has the first of the entries on its smallest line. -/
structure KeepsEarliest (key : α → β) (line : α → UInt32) (xs kept : List α) : Prop where
  once : (kept.map key).Nodup
  keys : ∀ k, k ∈ kept.map key ↔ k ∈ xs.map key
  smallest : ∀ x ∈ kept, ∀ y ∈ xs, key y = key x → line x ≤ line y
  first : ∀ x ∈ kept, xs.find? (fun y => key y = key x && line y = line x) = some x

theorem distinctBy_mergeSort_of_ordered {xs : List α} (ordered : xs.Pairwise fun a b => le a b = true)
    (once : (xs.map key).Nodup) : distinctBy key (xs.mergeSort le) = xs := by
  rw [List.mergeSort_of_pairwise ordered, distinctBy_of_nodup once]

variable (trans : ∀ a b c, le a b = true → le b c = true → le a c = true)
  (total : ∀ a b, (le a b || le b a) = true)
include trans total

theorem le_of_mem_distinctBy_mergeSort {xs : List α} {x y : α}
    (hx : x ∈ distinctBy key (xs.mergeSort le)) (hy : y ∈ xs) (same : key y = key x) :
    le x y = true := by
  have ordered : (xs.mergeSort le).Pairwise fun a b => key a = key b → le a b = true := by
    apply (List.pairwise_mergeSort trans total xs).imp
    intro a b before _
    exact before
  have self : ∀ a, le a a = true := fun a => by simpa using total a a
  exact before_of_mem_distinctBy (r := fun a b => le a b = true) ordered self hx
    (List.mem_mergeSort.mpr hy) same

/-- Tied entries stand in one order before and after, so the first of them that has the key is the same. -/
theorem find_of_mem_distinctBy_mergeSort {p : α → Bool} {xs : List α} {x : α}
    (tied : ∀ a ∈ xs, ∀ b ∈ xs, p a = true → p b = true → le a b = true)
    (hx : x ∈ distinctBy key (xs.mergeSort le)) (hp : p x = true)
    (within : ∀ y, p y = true → key y = key x) : xs.find? p = some x := by
  obtain ⟨_, before, after, split, passed⟩ :=
    List.find?_eq_some_iff_append.mp (find_of_mem_distinctBy hx)
  rw [← List.head?_filter, ← filter_mergeSort trans total tied, List.head?_filter,
    List.find?_eq_some_iff_append]
  refine ⟨hp, before, after, split, ?_⟩
  intro a ha
  have other : ¬ key a = key x := by simpa using passed a ha
  simpa using mt (within a) other

theorem keepsEarliest_distinctBy (agree : ∀ a b, key a = key b → (le a b = true ↔ line a ≤ line b))
    (xs : List α) : KeepsEarliest key line xs (distinctBy key (xs.mergeSort le)) := by
  refine ⟨distinctBy_keys_nodup _ _, ?_, ?_, ?_⟩
  · intro k
    rw [mem_distinctBy_keys]
    exact ((List.mergeSort_perm xs le).map key).mem_iff
  · intro x hx y hy same
    have before := le_of_mem_distinctBy_mergeSort trans total hx hy same
    exact (agree x y same.symm).mp before
  · intro x hx
    apply find_of_mem_distinctBy_mergeSort trans total _ hx (by simp)
    · intro y hy
      simp only [Bool.and_eq_true, decide_eq_true_eq] at hy
      exact hy.1
    · intro a _ b _ ha hb
      simp only [Bool.and_eq_true, decide_eq_true_eq] at ha hb
      apply (agree a b (ha.1.trans hb.1.symm)).mpr
      rw [ha.2, hb.2]
      exact UInt32.le_refl _

theorem distinctBy_mergeSort_ordered (key : α → β) (xs : List α) :
    (distinctBy key (xs.mergeSort le)).Pairwise fun a b => le a b = true ∧ key a ≠ key b :=
  ((List.pairwise_mergeSort trans total xs).sublist (distinctBy_sublist key _)).and
    (distinctBy_pairwise key _)

/-- Tied entries that are kept stay in the order of the list. -/
theorem distinctBy_mergeSort_stable [DecidableEq α] (key : α → β) (xs : List α) :
    (distinctBy key (xs.mergeSort le)).Pairwise fun a b =>
      le b a = true → xs.idxOf a < xs.idxOf b := by
  have sorted := distinctBy_mergeSort_ordered trans total key xs
  refine (sorted.and (distinctBy_in_order key _)).imp ?_
  intro a b ⟨⟨ab, _⟩, before⟩ ba
  have self : le a a = true := by simpa using total a a
  have tied : ∀ c ∈ xs, ∀ d ∈ xs, (le c a && le a c) = true → (le d a && le a d) = true →
      le c d = true := by
    intro c _ d _ hc hd
    rw [Bool.and_eq_true] at hc hd
    exact trans c a d hc.1 hd.2
  have same := filter_mergeSort trans total tied
  rw [← idxOf_filter_lt_iff (p := fun c => le c a && le a c) (by simp [self]) (by simp [ab, ba])]
    at before ⊢
  rwa [same] at before

end Earliest

theorem Dependency.le_iff {a b : Dependency} : a.le b = true ↔ a.line ≤ b.line := by simp [Dependency.le]

theorem Dependency.le_trans (a b c : Dependency) (ab : a.le b = true) (bc : b.le c = true) :
    a.le c = true :=
  le_iff.mpr (UInt32.le_trans (le_iff.mp ab) (le_iff.mp bc))

theorem Dependency.le_total (a b : Dependency) : (a.le b || b.le a) = true := by
  rw [Bool.or_eq_true, le_iff, le_iff]
  exact UInt32.le_total _ _

theorem Symbol.le_iff {a b : Symbol} :
    a.le b = true ↔ a.line < b.line ∨ a.line = b.line ∧ a.name ≤ b.name := by
  simp [Symbol.le]

theorem Symbol.le_trans (a b c : Symbol) (ab : a.le b = true) (bc : b.le c = true) :
    a.le c = true := by
  rw [le_iff] at *
  grind

theorem Symbol.le_total (a b : Symbol) : (a.le b || b.le a) = true := by
  rw [Bool.or_eq_true, le_iff, le_iff]
  grind

namespace Extraction

theorem dependencies_sorted (e : Extraction) :
    e.normalize.dependencies.Pairwise fun a b => a.le b = true ∧ a.spec ≠ b.spec :=
  distinctBy_mergeSort_ordered Dependency.le_trans Dependency.le_total (·.spec) e.dependencies

theorem symbols_sorted (e : Extraction) :
    e.normalize.symbols.Pairwise fun a b => a.le b = true ∧ a.name ≠ b.name :=
  distinctBy_mergeSort_ordered Symbol.le_trans Symbol.le_total (·.name) e.symbols

theorem dependencies_ordered (e : Extraction) : e.normalize.dependencies.Pairwise fun a b =>
    a.line < b.line ∨ a.line = b.line ∧ e.dependencies.idxOf a < e.dependencies.idxOf b := by
  have stable := distinctBy_mergeSort_stable Dependency.le_trans Dependency.le_total (·.spec)
    e.dependencies
  apply (e.dependencies_sorted.and stable).imp
  intro a b ⟨⟨ab, _⟩, tied⟩
  rw [Dependency.le_iff] at ab tied
  rcases UInt32.le_iff_lt_or_eq.mp ab with below | same
  · exact .inl below
  · exact .inr ⟨same, tied (UInt32.le_of_eq same.symm)⟩

theorem symbols_ordered (e : Extraction) : e.normalize.symbols.Pairwise fun a b =>
    a.line < b.line ∨ a.line = b.line ∧ a.name < b.name := by
  apply e.symbols_sorted.imp
  intro a b ⟨ab, other⟩
  rcases Symbol.le_iff.mp ab with below | ⟨same, before⟩
  · exact .inl below
  · have strict : a.name < b.name := by grind
    exact .inr ⟨same, strict⟩

theorem keepsEarliest_dependencies (e : Extraction) :
    KeepsEarliest (·.spec) (·.line) e.dependencies e.normalize.dependencies := by
  apply keepsEarliest_distinctBy Dependency.le_trans Dependency.le_total
  intro a b _
  exact Dependency.le_iff

/-- Among the declarations of one name the order is that of their lines. -/
theorem keepsEarliest_symbols (e : Extraction) :
    KeepsEarliest (·.name) (·.line) e.symbols e.normalize.symbols := by
  apply keepsEarliest_distinctBy Symbol.le_trans Symbol.le_total
  intro a b same
  rw [Symbol.le_iff, same, UInt32.le_iff_lt_or_eq]
  simp

theorem normalize_normalize (e : Extraction) : e.normalize.normalize = e.normalize := by
  have dependencies := distinctBy_mergeSort_of_ordered (e.dependencies_sorted.imp And.left)
    e.keepsEarliest_dependencies.once
  have symbols := distinctBy_mergeSort_of_ordered (e.symbols_sorted.imp And.left)
    e.keepsEarliest_symbols.once
  rw [normalize, dependencies, symbols]

/-- Of every dependency and of every declared name the earliest mention is kept, in order of lines; on one
line dependencies follow these mentions, and declarations their names. -/
theorem normalize_keeps_earliest (e : Extraction) :
    KeepsEarliest (·.spec) (·.line) e.dependencies e.normalize.dependencies ∧
    (e.normalize.dependencies.Pairwise fun a b =>
      a.line < b.line ∨ a.line = b.line ∧ e.dependencies.idxOf a < e.dependencies.idxOf b) ∧
    KeepsEarliest (·.name) (·.line) e.symbols e.normalize.symbols ∧
    (e.normalize.symbols.Pairwise fun a b =>
      a.line < b.line ∨ a.line = b.line ∧ a.name < b.name) ∧
    e.normalize.docTerms = e.docTerms ∧ e.normalize.parseErrors = e.parseErrors ∧
    e.normalize.normalize = e.normalize :=
  ⟨e.keepsEarliest_dependencies, e.dependencies_ordered, e.keepsEarliest_symbols, e.symbols_ordered,
    rfl, rfl, e.normalize_normalize⟩

example : (normalize ⟨[⟨"f", .function, 4⟩, ⟨"f", .constant, 2⟩, ⟨"f", .struct, 2⟩, ⟨"e", .enum, 2⟩],
    [], [], false⟩).symbols = [⟨"e", .enum, 2⟩, ⟨"f", .constant, 2⟩] := by cbv

end Extraction

end SourceAtlas
