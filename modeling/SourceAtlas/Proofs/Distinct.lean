import Mathlib.Data.List.Nodup
import SourceAtlas.Distinct

/-! Which entries of a list stand for their keys. The first entry of a key is kept, so it is the one that
any order of the list puts in front of the others, and leaving out some of the keys before or after
makes no difference. If no two entries share a place, there is one way to sort them, and entries that are
tied stay in their order. -/
namespace SourceAtlas

variable {α β : Type} [DecidableEq β]

theorem mergeSort_eq_of_pairwise {le : α → α → Bool} {xs sorted : List α}
    (trans : ∀ a b c, le a b = true → le b c = true → le a c = true)
    (total : ∀ a b, (le a b || le b a) = true)
    (antisymm : ∀ a ∈ sorted, ∀ b ∈ sorted, le a b = true → le b a = true → a = b)
    (ordered : sorted.Pairwise fun a b => le a b = true) (perm : xs.Perm sorted) :
    xs.mergeSort le = sorted := by
  have same : (xs.mergeSort le).Perm sorted := (List.mergeSort_perm xs le).trans perm
  apply same.eq_of_pairwise _ (List.pairwise_mergeSort trans total xs) ordered
  intro a b ha hb
  exact antisymm a (same.mem_iff.mp ha) b hb

section Texts

variable {key : α → String}

theorem eq_of_ascending {xs : List α} (ordered : xs.Pairwise fun a b => key a < key b) {a b : α}
    (ha : a ∈ xs) (hb : b ∈ xs) (same : key a = key b) : a = b := by
  have distinct : (xs.map key).Nodup := by
    refine List.pairwise_map.mpr (ordered.imp ?_)
    intro x y below equal
    exact String.lt_irrefl _ (equal ▸ below)
  exact List.inj_on_of_nodup_map distinct ha hb same

theorem textLE_trans (a b c : α) (ab : decide (key a ≤ key b) = true)
    (bc : decide (key b ≤ key c) = true) : decide (key a ≤ key c) = true :=
  decide_eq_true (String.le_trans (of_decide_eq_true ab) (of_decide_eq_true bc))

theorem textLE_total (a b : α) : (decide (key a ≤ key b) || decide (key b ≤ key a)) = true := by
  rw [Bool.or_eq_true]
  exact (String.le_total (key a) (key b)).imp decide_eq_true decide_eq_true

theorem mergeSort_eq_of_ascending {xs sorted : List α}
    (ordered : sorted.Pairwise fun a b => key a < key b) (perm : xs.Perm sorted) :
    xs.mergeSort (fun a b => decide (key a ≤ key b)) = sorted := by
  apply mergeSort_eq_of_pairwise textLE_trans textLE_total _ _ perm
  · intro a ha b hb ab ba
    exact eq_of_ascending ordered ha hb
      (String.le_antisymm (of_decide_eq_true ab) (of_decide_eq_true ba))
  · exact ordered.imp fun below => decide_eq_true (String.not_lt.mp (String.lt_asymm below))

/-- Sorting by texts that no two entries share leaves nothing of the order before. -/
theorem mergeSort_eq_of_perm_keys {xs ys : List α} (once : (ys.map key).Nodup) (perm : xs.Perm ys) :
    xs.mergeSort (fun a b => decide (key a ≤ key b)) =
      ys.mergeSort fun a b => decide (key a ≤ key b) := by
  have sorted : (ys.mergeSort fun a b => decide (key a ≤ key b)).Perm ys := List.mergeSort_perm ys _
  apply mergeSort_eq_of_pairwise textLE_trans textLE_total _
    (List.pairwise_mergeSort textLE_trans textLE_total ys) (perm.trans sorted.symm)
  intro a ha b hb ab ba
  exact List.inj_on_of_nodup_map once (sorted.mem_iff.mp ha) (sorted.mem_iff.mp hb)
    (String.le_antisymm (of_decide_eq_true ab) (of_decide_eq_true ba))

end Texts

/-- An entry that is kept comes before all others of its key. -/
theorem before_of_mem_distinctBy {key : α → β} {r : α → α → Prop} {xs : List α} {x y : α}
    (ordered : xs.Pairwise fun a b => key a = key b → r a b) (self : ∀ a, r a a)
    (hx : x ∈ distinctBy key xs) (hy : y ∈ xs) (same : key y = key x) : r x y := by
  induction xs with
  | nil => cases hy
  | cons first rest ih =>
    obtain ⟨before, ordered⟩ := List.pairwise_cons.mp ordered
    rw [distinctBy, List.mem_cons, List.mem_filter] at hx
    rcases hx with rfl | ⟨hx, other⟩
    · rcases List.mem_cons.mp hy with rfl | hy
      · exact self y
      · exact before y hy same.symm
    · rcases List.mem_cons.mp hy with rfl | hy
      · exact absurd same.symm (by simpa using other)
      · exact ih ordered hx hy

/-- Of entries with different keys a search for a key finds the only one. -/
theorem find_key_iff {key : α → β} {xs : List α} (distinct : (xs.map key).Nodup) {k : β} {x : α} :
    xs.find? (fun y => key y = k) = some x ↔ x ∈ xs ∧ key x = k := by
  constructor
  · intro found
    exact ⟨List.mem_of_find?_eq_some found, by simpa using List.find?_some found⟩
  · rintro ⟨hx, rfl⟩
    have found : (xs.find? fun y => key y = key x).isSome := by
      rw [List.find?_isSome]
      exact ⟨x, hx, by simp⟩
    obtain ⟨y, hy⟩ := Option.isSome_iff_exists.mp found
    have same : key y = key x := by simpa using List.find?_some hy
    rw [hy, List.inj_on_of_nodup_map distinct (List.mem_of_find?_eq_some hy) hx same]

theorem distinctBy_filter (key : α → β) (p : β → Bool) (xs : List α) :
    (distinctBy key xs).filter (fun x => p (key x)) =
      distinctBy key (xs.filter fun x => p (key x)) := by
  induction xs with
  | nil => rfl
  | cons x rest ih =>
    rw [distinctBy, List.filter_cons, List.filter_cons]
    split
    · rw [distinctBy, ← ih, List.filter_filter, List.filter_filter]
      simp only [Bool.and_comm]
    · next out =>
      rw [← ih, List.filter_filter]
      apply List.filter_congr
      intro y _
      by_cases same : key y = key x
      · simp [same, out]
      · simp [same]

theorem distinctBy_sublist (key : α → β) (xs : List α) : (distinctBy key xs).Sublist xs := by
  induction xs with
  | nil => exact .slnil
  | cons x rest ih => exact .cons_cons x (List.filter_sublist.trans ih)

theorem distinctBy_keys_nodup (key : α → β) (xs : List α) : ((distinctBy key xs).map key).Nodup :=
  List.pairwise_map.mpr (distinctBy_pairwise key xs)

theorem mem_distinctBy_keys {key : α → β} {xs : List α} {k : β} :
    k ∈ (distinctBy key xs).map key ↔ k ∈ xs.map key := by
  constructor
  · intro h
    exact ((distinctBy_sublist key xs).map key).subset h
  · intro h
    obtain ⟨x, hx, rfl⟩ := List.mem_map.mp h
    obtain ⟨y, hy, same⟩ : ∃ y ∈ distinctBy key xs, key y = key x := exists_mem_distinctBy hx
    exact List.mem_map.mpr ⟨y, hy, same⟩

theorem distinctBy_of_nodup {key : α → β} {xs : List α} (once : (xs.map key).Nodup) :
    distinctBy key xs = xs := by
  induction xs with
  | nil => rfl
  | cons x rest ih =>
    obtain ⟨new, once⟩ := List.nodup_cons.mp once
    rw [distinctBy, ih once, List.filter_eq_self.mpr]
    intro y hy
    have other : key y ≠ key x := fun same => new (List.mem_map.mpr ⟨y, hy, same⟩)
    simpa using other

theorem distinctBy_append (key : α → β) (xs ys : List α) : distinctBy key (xs ++ ys) =
    distinctBy key xs ++ (distinctBy key ys).filter fun y => key y ∉ xs.map key := by
  induction xs with
  | nil => simp [distinctBy]
  | cons x rest ih =>
    rw [List.cons_append, distinctBy, ih, List.filter_append, distinctBy, List.cons_append,
      List.filter_filter]
    congr 2
    apply List.filter_congr
    intro y _
    simp only [List.map_cons, List.mem_cons, not_or, decide_not, Bool.decide_and]

theorem distinctBy_map {f : α → α} {key : α → β} (same : ∀ x, key (f x) = key x) (xs : List α) :
    distinctBy key (xs.map f) = (distinctBy key xs).map f := by
  induction xs with
  | nil => rfl
  | cons x rest ih =>
    rw [List.map_cons, distinctBy, ih, distinctBy, List.map_cons, List.filter_map]
    simp only [Function.comp_def, same]

/-- An entry that comes last stays if its key is new. -/
theorem distinctBy_concat (key : α → β) (xs : List α) (x : α) : distinctBy key (xs ++ [x]) =
    if key x ∈ xs.map key then distinctBy key xs else distinctBy key xs ++ [x] := by
  rw [distinctBy_append]
  by_cases known : key x ∈ xs.map key
  · rw [if_pos known]
    simpa [distinctBy] using known
  · rw [if_neg known]
    simpa [distinctBy] using known

/-- What is kept for a key is what a search for the key finds. -/
theorem find_of_mem_distinctBy {key : α → β} {xs : List α} {x : α} (h : x ∈ distinctBy key xs) :
    xs.find? (fun y => key y = key x) = some x := by
  induction xs with
  | nil => cases h
  | cons first rest ih =>
    rw [distinctBy, List.mem_cons, List.mem_filter] at h
    rcases h with rfl | ⟨h, other⟩
    · simp
    · have passed : ¬ key first = key x := fun same => by simp [same] at other
      rw [List.find?_cons_of_neg (by simpa using passed), ih h]

theorem distinctBy_in_order [DecidableEq α] (key : α → β) (xs : List α) :
    (distinctBy key xs).Pairwise fun a b => xs.idxOf a < xs.idxOf b := by
  induction xs with
  | nil => exact .nil
  | cons x rest ih =>
    have others : ∀ y ∈ (distinctBy key rest).filter fun y => key y ≠ key x, ¬ x = y := by
      rintro _ hy rfl
      simpa using (List.mem_filter.mp hy).2
    refine List.pairwise_cons.mpr ⟨?_, (ih.filter _).imp_of_mem ?_⟩
    · intro y hy
      simp [others y hy]
    · intro a b ha hb before
      simpa [List.idxOf_cons, others a ha, others b hb] using before

section Stable

variable {le : α → α → Bool} {key : α → Nat}

/-- Entries of a class that are all tied stay in their order when the list is sorted. -/
theorem filter_mergeSort (trans : ∀ a b c, le a b = true → le b c = true → le a c = true)
    (total : ∀ a b, (le a b || le b a) = true) {p : α → Bool} {xs : List α}
    (tied : ∀ a ∈ xs, ∀ b ∈ xs, p a = true → p b = true → le a b = true) :
    (xs.mergeSort le).filter p = xs.filter p := by
  have ordered : (xs.filter p).Pairwise fun a b => le a b = true := by
    apply List.pairwise_of_forall_mem_list
    intro a ha b hb
    obtain ⟨ha, pa⟩ := List.mem_filter.mp ha
    obtain ⟨hb, pb⟩ := List.mem_filter.mp hb
    exact tied a ha b hb pa pb
  have kept : (xs.filter p).Sublist (xs.mergeSort le) :=
    List.sublist_mergeSort trans total ordered List.filter_sublist
  have inside : (xs.filter p).Sublist ((xs.mergeSort le).filter p) := by
    simpa using kept.filter p
  exact (inside.eq_of_length ((List.mergeSort_perm xs le).filter p).length_eq.symm).symm

/-- Sorted lists with the same entries under every key, in the same order, are the same. -/
theorem eq_of_filter_eq {xs ys : List α} (hx : xs.Pairwise fun a b => key a ≤ key b)
    (hy : ys.Pairwise fun a b => key a ≤ key b)
    (same : ∀ k, xs.filter (key · = k) = ys.filter (key · = k)) : xs = ys := by
  induction xs generalizing ys with
  | nil =>
    cases ys with
    | nil => rfl
    | cons y more => simpa using same (key y)
  | cons x rest ih =>
    cases ys with
    | nil => simpa using same (key x)
    | cons y more =>
      have least : ∀ {z w : α} {zs : List α}, ((z :: zs).Pairwise fun a b => key a ≤ key b) →
          w ∈ z :: zs → key z ≤ key w := by
        intro z w zs sorted hw
        rcases List.mem_cons.mp hw with rfl | hw
        · exact Nat.le_refl _
        · exact (List.pairwise_cons.mp sorted).1 w hw
      have inside : ∀ {zs : List α} {z : α}, z ∈ zs → z ∈ zs.filter (key · = key z) :=
        fun h => List.mem_filter.mpr ⟨h, by simp⟩
      have down : key y ≤ key x :=
        least hy (List.mem_filter.mp (same (key x) ▸ inside List.mem_cons_self)).1
      have up : key x ≤ key y :=
        least hx (List.mem_filter.mp ((same (key y)).symm ▸ inside List.mem_cons_self)).1
      have tied : key x = key y := Nat.le_antisymm up down
      have heads := same (key x)
      rw [List.filter_cons_of_pos (by simp), List.filter_cons_of_pos (by simp [tied])] at heads
      obtain ⟨rfl, _⟩ := List.cons.inj heads
      refine congrArg (x :: ·) (ih hx.of_cons hy.of_cons ?_)
      intro k
      have tails := same k
      by_cases here : key x = k
      · rw [List.filter_cons_of_pos (by simp [here]), List.filter_cons_of_pos (by simp [here])] at tails
        exact (List.cons.inj tails).2
      · rwa [List.filter_cons_of_neg (by simp [here]), List.filter_cons_of_neg (by simp [here])] at tails

theorem idxOf_filter_lt_iff [DecidableEq α] {p : α → Bool} {xs : List α} {a b : α} (ha : p a = true)
    (hb : p b = true) : (xs.filter p).idxOf a < (xs.filter p).idxOf b ↔ xs.idxOf a < xs.idxOf b := by
  induction xs with
  | nil => rfl
  | cons x rest ih =>
    by_cases keep : p x = true
    · rw [List.filter_cons_of_pos keep]
      by_cases xb : x = b
      · simp [xb]
      · rw [List.idxOf_cons_ne _ xb, List.idxOf_cons_ne _ xb]
        by_cases xa : x = a
        · simp [xa]
        · rw [List.idxOf_cons_ne _ xa, List.idxOf_cons_ne _ xa]
          omega
    · have xa : x ≠ a := fun same => keep (same ▸ ha)
      have xb : x ≠ b := fun same => keep (same ▸ hb)
      rw [List.filter_cons_of_neg keep, List.idxOf_cons_ne _ xa, List.idxOf_cons_ne _ xb]
      omega

end Stable

end SourceAtlas
