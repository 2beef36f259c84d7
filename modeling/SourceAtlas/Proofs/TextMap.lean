import SourceAtlas.TextMap
import Mathlib.Data.List.Nodup

/-! What a finite map from texts answers to its keys. A map is determined by these answers, and it is
the map of its own entries, in whatever larger list they end. -/
namespace SourceAtlas

variable {α : Type}

theorem find_insertEntry (key k : String) (value : α) (entries : List (String × α)) :
    (insertEntry key value entries).find? (·.1 = k) =
      if key = k then some (key, value) else entries.find? (·.1 = k) := by
  induction entries with
  | nil => by_cases h : key = k <;> simp [insertEntry, h]
  | cons entry rest ih =>
    obtain ⟨name, v⟩ := entry
    by_cases h : key = k
    · subst h
      unfold insertEntry
      split
      · simp
      · split
        · simp
        · next hne =>
          have other : ¬ name = key := fun e => hne e.symm
          simp [ih, other]
    · unfold insertEntry
      split
      · simp [h]
      · split
        · next heq => subst heq; simp [h]
        · simp only [List.find?_cons, ih, if_neg h]

theorem insertEntry_last (key : String) (value : α) {entries : List (String × α)}
    (below : ∀ e ∈ entries, e.1 < key) :
    insertEntry key value entries = entries ++ [(key, value)] := by
  induction entries with
  | nil => rfl
  | cons entry rest ih =>
    obtain ⟨name, v⟩ := entry
    have first : name < key := below (name, v) List.mem_cons_self
    have notBelow : ¬ key < name := fun h => String.lt_irrefl key (String.lt_trans h first)
    have differs : ¬ key = name := fun e => String.lt_irrefl name (e ▸ first)
    have tail := ih fun e he => below e (List.mem_cons_of_mem _ he)
    simp only [insertEntry, if_neg notBelow, if_neg differs, tail, List.cons_append]

theorem perm_insertEntry {key : String} (value : α) {entries : List (String × α)}
    (fresh : key ∉ entries.map (·.1)) :
    (insertEntry key value entries).Perm ((key, value) :: entries) := by
  induction entries with
  | nil => exact .refl _
  | cons entry rest ih =>
    obtain ⟨name, v⟩ := entry
    rw [List.map_cons, List.mem_cons, not_or] at fresh
    unfold insertEntry
    split
    · exact .refl _
    · rw [if_neg fresh.1]
      exact ((ih fresh.2).cons _).trans (.swap _ _ _)

namespace TextMap

@[simp] theorem get_empty (key : String) : (empty : TextMap α).get? key = none := rfl

theorem get_insert (m : TextMap α) (key k : String) (value : α) :
    (m.insert key value).get? k = if key = k then some value else m.get? k := by
  simp only [get?, insert, find_insertEntry]
  split <;> rfl

@[simp] theorem get_insert_self (m : TextMap α) (key : String) (value : α) :
    (m.insert key value).get? key = some value := by
  rw [get_insert, if_pos rfl]

theorem get_insert_of_ne {key k : String} (differs : key ≠ k) (m : TextMap α) (value : α) :
    (m.insert key value).get? k = m.get? k := by
  rw [get_insert, if_neg differs]

theorem get_erase (m : TextMap α) (key k : String) :
    (m.erase key).get? k = if key = k then none else m.get? k := by
  simp only [get?, erase, List.find?_filter]
  by_cases h : key = k
  · subst h
    simp
  · have same : (fun e : String × α => !decide (e.1 = key) && decide (e.1 = k)) =
        fun e => decide (e.1 = k) := by
      funext e
      by_cases he : e.1 = k
      · have other : ¬ k = key := fun c => h c.symm
        simp [he, other]
      · simp [he]
    simp [h, same]

theorem get_restrict (m : TextMap α) (keep : String → Bool) (key : String) :
    (m.restrict keep).get? key = if keep key then m.get? key else none := by
  simp only [get?, restrict, List.find?_filter]
  cases kept : keep key with
  | true =>
    have same : (fun e : String × α => keep e.1 && decide (e.1 = key)) = fun e => decide (e.1 = key) := by
      funext e
      by_cases he : e.1 = key
      · simp [he, kept]
      · simp [he]
    simp [same]
  | false =>
    have never : (fun e : String × α => keep e.1 && decide (e.1 = key)) = fun _ => false := by
      funext e
      by_cases he : e.1 = key
      · simp [he, kept]
      · simp [he]
    simp [never]

theorem contains_eq_isSome (m : TextMap α) (key : String) :
    m.contains key = (m.get? key).isSome := by
  rw [get?, Option.isSome_map, Bool.eq_iff_iff, List.find?_isSome, contains, List.any_eq_true]

theorem keys_nodup (m : TextMap α) : (m.entries.map (·.1)).Nodup := by
  refine (List.pairwise_map.mpr m.ascending).imp ?_
  intro a b below same
  exact String.lt_irrefl b (same ▸ below)

theorem entry_unique {m : TextMap α} {a b : String × α} (ha : a ∈ m.entries)
    (hb : b ∈ m.entries) (same : a.1 = b.1) : a = b :=
  List.inj_on_of_nodup_map m.keys_nodup ha hb same

theorem mem_entries_iff {m : TextMap α} {key : String} {value : α} :
    (key, value) ∈ m.entries ↔ m.get? key = some value := by
  constructor
  · intro h
    have found : (m.entries.find? (·.1 = key)).isSome := by
      rw [List.find?_isSome]
      exact ⟨(key, value), h, by simp⟩
    obtain ⟨⟨k, v⟩, he⟩ := Option.isSome_iff_exists.mp found
    have hk : k = key := by simpa using List.find?_some he
    subst hk
    have same : (k, v) = (k, value) := entry_unique (List.mem_of_find?_eq_some he) h rfl
    rw [get?, he, same]
    rfl
  · intro h
    obtain ⟨⟨k, v⟩, he, hv⟩ := Option.map_eq_some_iff.mp h
    have hk : k = key := by simpa using List.find?_some he
    have member := List.mem_of_find?_eq_some he
    subst hk hv
    exact member

theorem ext_perm {m n : TextMap α} (perm : m.entries.Perm n.entries) : m = n := by
  apply ext_entries
  have order : ∀ a b, a ∈ m.entries → b ∈ n.entries → a.1 < b.1 → b.1 < a.1 → a = b := by
    intro a b _ _ hab hba
    exact absurd (String.lt_trans hab hba) (String.lt_irrefl _)
  exact perm.eq_of_pairwise order m.ascending n.ascending

theorem ext_get {m n : TextMap α} (same : ∀ key, m.get? key = n.get? key) : m = n := by
  apply ext_perm
  apply (List.perm_ext_iff_of_nodup m.keys_nodup.of_map n.keys_nodup.of_map).mpr
  rintro ⟨key, value⟩
  rw [mem_entries_iff, mem_entries_iff, same]

theorem mem_of_mem_foldl {entries : List (String × α)} {e : String × α} (m : TextMap α)
    (h : e ∈ (entries.foldl (fun m e => m.insert e.1 e.2) m).entries) :
    e ∈ m.entries ∨ e ∈ entries := by
  induction entries generalizing m with
  | nil => exact .inl h
  | cons first rest ih =>
    rcases ih (m.insert first.1 first.2) h with h | h
    · rcases mem_insertEntry h with h | h
      · exact .inr (h ▸ List.mem_cons_self)
      · exact .inl h
    · exact .inr (List.mem_cons_of_mem _ h)

theorem mem_of_mem_ofList {entries : List (String × α)} {e : String × α}
    (h : e ∈ (ofList entries).entries) : e ∈ entries :=
  (mem_of_mem_foldl empty h).resolve_left List.not_mem_nil

theorem perm_foldl {entries : List (String × α)} (m : TextMap α)
    (once : ((m.entries ++ entries).map (·.1)).Nodup) :
    (entries.foldl (fun m e => m.insert e.1 e.2) m).entries.Perm (m.entries ++ entries) := by
  induction entries generalizing m with
  | nil => simp
  | cons first rest ih =>
    have shuffle : (m.entries ++ first :: rest).Perm ((m.insert first.1 first.2).entries ++ rest) := by
      have fresh : first.1 ∉ m.entries.map (·.1) := by
        rw [List.map_append, List.nodup_append] at once
        intro known
        exact once.2.2 _ known _ List.mem_cons_self rfl
      exact List.perm_middle.trans ((perm_insertEntry first.2 fresh).symm.append_right rest)
    exact (ih _ ((shuffle.map _).nodup_iff.mp once)).trans shuffle.symm

/-- Entries with different keys make one map in whatever order they come. -/
theorem perm_ofList {entries : List (String × α)} (once : (entries.map (·.1)).Nodup) :
    (ofList entries).entries.Perm entries :=
  perm_foldl empty once

theorem ofList_eq_of_perm {one other : List (String × α)} (once : (other.map (·.1)).Nodup)
    (same : one.Perm other) : ofList one = ofList other := by
  have once' : (one.map (·.1)).Nodup := (same.map _).nodup_iff.mpr once
  exact ext_perm ((perm_ofList once').trans (same.trans (perm_ofList once).symm))

theorem entries_foldl {entries : List (String × α)} (m : TextMap α)
    (ordered : (m.entries ++ entries).Pairwise fun a b => a.1 < b.1) :
    (entries.foldl (fun m e => m.insert e.1 e.2) m).entries = m.entries ++ entries := by
  induction entries generalizing m with
  | nil => simp
  | cons first rest ih =>
    have below : ∀ e ∈ m.entries, e.1 < first.1 := fun e he =>
      (List.pairwise_append.mp ordered).2.2 e he first List.mem_cons_self
    have last : (m.insert first.1 first.2).entries = m.entries ++ [first] :=
      insertEntry_last first.1 first.2 below
    have split : m.entries ++ first :: rest = (m.insert first.1 first.2).entries ++ rest := by
      rw [last, List.append_assoc, List.singleton_append]
    rw [List.foldl_cons, ih _ (split ▸ ordered), split]

theorem entries_ofList {entries : List (String × α)}
    (ordered : entries.Pairwise fun a b => a.1 < b.1) : (ofList entries).entries = entries :=
  entries_foldl empty ordered

@[simp] theorem ofList_entries (m : TextMap α) : ofList m.entries = m :=
  ext_entries (entries_ofList m.ascending)

section Alter

variable {β : Type}

/-- Every value is made anew from its key and what it was. -/
def alter (change : String → α → β) (m : TextMap α) : TextMap β :=
  ⟨m.entries.map fun e => (e.1, change e.1 e.2), List.pairwise_map.mpr m.ascending⟩

theorem entries_alter (change : String → α → β) (m : TextMap α) :
    (m.alter change).entries = m.entries.map fun e => (e.1, change e.1 e.2) := rfl

theorem alter_insert (change : String → α → β) (m : TextMap α) (key : String) (value : α) :
    (m.insert key value).alter change = (m.alter change).insert key (change key value) := by
  apply ext_entries
  simp only [alter, insert]
  induction m.entries with
  | nil => rfl
  | cons entry rest ih =>
    simp only [insertEntry, List.map_cons]
    split
    · rfl
    · split
      · rfl
      · rw [List.map_cons, ih]

theorem alter_ofList (change : String → α → β) (entries : List (String × α)) :
    (ofList entries).alter change = ofList (entries.map fun e => (e.1, change e.1 e.2)) := by
  have each : ∀ m : TextMap α, (entries.foldl (fun m e => m.insert e.1 e.2) m).alter change =
      (entries.map fun e => (e.1, change e.1 e.2)).foldl (fun m e => m.insert e.1 e.2)
        (m.alter change) := by
    induction entries with
    | nil => intro m; rfl
    | cons entry rest ih =>
      intro m
      rw [List.foldl_cons, ih, alter_insert, List.map_cons, List.foldl_cons]
  exact each empty

theorem get_alter (change : String → α → β) (m : TextMap α) (key : String) :
    (m.alter change).get? key = (m.get? key).map (change key) := by
  have search : (m.alter change).entries.find? (·.1 = key) =
      (m.entries.find? (·.1 = key)).map fun e => (e.1, change e.1 e.2) := List.find?_map
  rw [get?, get?, search]
  cases found : m.entries.find? (·.1 = key) with
  | none => rfl
  | some e =>
    have same : e.1 = key := by simpa using List.find?_some found
    simp [same]

theorem contains_alter (change : String → α → β) (m : TextMap α) (key : String) :
    (m.alter change).contains key = m.contains key := by
  rw [contains_eq_isSome, contains_eq_isSome, get_alter, Option.isSome_map]

end Alter

/-- Putting a key that is there again changes its value and nothing else. -/
theorem insert_known {m : TextMap α} {key : String} {old : α} (known : m.get? key = some old)
    (value : α) : m.insert key value = m.alter fun k v => if k = key then value else v := by
  apply ext_get
  intro k
  rw [get_insert, get_alter]
  by_cases here : key = k
  · subst here
    simp [known]
  · have other : ¬ k = key := fun e => here e.symm
    simp [here, other]

end TextMap

end SourceAtlas
