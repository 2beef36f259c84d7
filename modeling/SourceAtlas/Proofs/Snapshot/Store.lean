import SourceAtlas.Proofs.Snapshot.RoundTrip
import SourceAtlas.Proofs.SourceTree.Hidden

/-! What storing a snapshot does to the tree. It writes into the directory of stored snapshots only, so no
walk from outside sees any of it, and it succeeds unless something else has taken one of its places. -/
namespace SourceAtlas.SourceTree

variable {t t' : SourceTree} {s : Snapshot} {root dir path : String} {data : FileData}

theorem put_eq_some_iff : t.put? path data = some t' ↔ t.isDirectory path = false ∧
    t.isDirectory (Path.parent path) = true ∧ t' = ⟨t.entries.insert path (.file data)⟩ := by
  unfold put?
  cases t.isDirectory path <;> cases t.isDirectory (Path.parent path) <;> simp [eq_comm]

theorem exists_put_iff (data : FileData) : (∃ t', t.put? path data = some t') ↔
    t.isDirectory path = false ∧ t.isDirectory (Path.parent path) = true := by
  simp [put_eq_some_iff]

theorem remove_put (inside : Path.isWithin dir path = true) (h : t.put? path data = some t') :
    t'.remove dir = t.remove dir := by
  obtain ⟨_, _, rfl⟩ := put_eq_some_iff.mp h
  exact remove_insert inside _

theorem isDirectory_put (h : t.put? path data = some t') {place : String} (other : path ≠ place) :
    t'.isDirectory place = t.isDirectory place := by
  obtain ⟨_, _, rfl⟩ := put_eq_some_iff.mp h
  rw [isDirectory, isDirectory, TextMap.get_insert_of_ne other]

theorem makeDirectory_cache (t : SourceTree) : t.makeDirectory? cacheDirectory =
    if t.isDirectory cacheDirectory then some t
    else if t.entries.contains cacheDirectory then none
    else some ⟨t.entries.insert cacheDirectory .directory⟩ := by
  have top : Path.ancestors cacheDirectory = [] := by
    rw [Path.ancestors, if_neg (by decide), if_pos (by decide)]
  rw [makeDirectory?, top]
  simp

theorem remove_makeDirectory (h : t.makeDirectory? cacheDirectory = some t') :
    t'.remove cacheDirectory = t.remove cacheDirectory := by
  have self : Path.isWithin cacheDirectory cacheDirectory = true := by decide
  rw [makeDirectory_cache] at h
  split at h
  · cases h
    rfl
  · split at h
    · cases h
    · cases h
      exact remove_insert self _

theorem exists_makeDirectory (free : t.data? cacheDirectory = none) :
    ∃ t', t.makeDirectory? cacheDirectory = some t' ∧ t'.isDirectory cacheDirectory = true ∧
      ∀ path, cacheDirectory ≠ path → t'.isDirectory path = t.isDirectory path := by
  rw [makeDirectory_cache]
  cases there : t.isDirectory cacheDirectory with
  | true => exact ⟨t, rfl, there, fun _ _ => rfl⟩
  | false =>
    have absent : t.entries.get? cacheDirectory = none := by
      cases entry : t.entries.get? cacheDirectory with
      | none => rfl
      | some kind =>
        cases kind with
        | file data => simp [data?, entry] at free
        | directory => simp [isDirectory, entry] at there
    have unknown : t.entries.contains cacheDirectory = false := by
      rw [TextMap.contains_eq_isSome, absent]
      rfl
    refine ⟨⟨t.entries.insert cacheDirectory .directory⟩, by simp [unknown], ?_, ?_⟩
    · simp [isDirectory]
    · intro path other
      rw [isDirectory, isDirectory, TextMap.get_insert_of_ne other]

theorem staging_within : Path.isWithin cacheDirectory stagingPath = true := by decide

theorem snapshot_within : Path.isWithin cacheDirectory snapshotPath = true := by decide

/-- Storing a snapshot, even if that fails halfway, changes nothing outside of its directory. -/
theorem remove_save (t : SourceTree) (s : Snapshot) :
    (t.save s).1.remove cacheDirectory = t.remove cacheDirectory := by
  unfold save
  split
  · rfl
  · next t₁ made =>
    split
    · exact remove_makeDirectory made
    · next t₂ written =>
      have second : t₂.remove cacheDirectory = t.remove cacheDirectory :=
        (remove_put staging_within written).trans (remove_makeDirectory made)
      split
      · exact second
      · next t₃ renamed =>
        obtain ⟨bytes, _, moved⟩ := Option.bind_eq_some_iff.mp renamed
        calc t₃.remove cacheDirectory
            = (t₂.remove stagingPath).remove cacheDirectory := remove_put snapshot_within moved
          _ = t₂.remove cacheDirectory := remove_within staging_within (by decide)
          _ = t.remove cacheDirectory := second

theorem exists_rename_iff {target : String} (held : t.data? path = some data)
    (apart : Path.isWithin path target = false)
    (beside : Path.isWithin path (Path.parent target) = false) :
    (∃ t', t.rename? path target = some t') ↔
      t.isDirectory target = false ∧ t.isDirectory (Path.parent target) = true := by
  rw [← isDirectory_remove apart, ← isDirectory_remove beside, ← exists_put_iff data]
  simp [rename?, held]

/-- A snapshot can be stored unless a file or a directory is in the way. -/
theorem save_ok_iff : (t.save s).2 = none ↔ t.data? cacheDirectory = none ∧
    t.isDirectory stagingPath = false ∧ t.isDirectory snapshotPath = false := by
  cases free : t.data? cacheDirectory with
  | some data =>
    have entry := get_of_data free
    have file : t.isDirectory cacheDirectory = false := by
      have inner : cacheDirectory ≠ "" := by decide
      simp [isDirectory, entry, inner]
    have blocked : t.makeDirectory? cacheDirectory = none := by
      rw [makeDirectory_cache, file, TextMap.contains_eq_isSome, entry]
      rfl
    simp [save, blocked]
  | none =>
    obtain ⟨t₁, made, directory, others⟩ := exists_makeDirectory free
    have parents : Path.parent stagingPath = cacheDirectory ∧ Path.parent snapshotPath = cacheDirectory := by
      decide
    have staging : (∃ t₂, t₁.put? stagingPath (.readable s.toBytes) = some t₂) ↔
        t.isDirectory stagingPath = false := by
      rw [exists_put_iff, parents.1, directory, others _ (by decide)]
      simp
    cases written : t₁.put? stagingPath (.readable s.toBytes) with
    | none =>
      rw [written] at staging
      simp [save, made, written, ← staging]
    | some t₂ =>
      have moved : (∃ t₃, t₂.rename? stagingPath snapshotPath = some t₃) ↔
          t.isDirectory snapshotPath = false := by
        rw [exists_rename_iff (data_of_put written) (by decide) (by decide), parents.2,
          isDirectory_put written (by decide), isDirectory_put written (by decide), directory,
          others _ (by decide)]
        simp
      have clear : t.isDirectory stagingPath = false := staging.mp ⟨t₂, written⟩
      cases renamed : t₂.rename? stagingPath snapshotPath with
      | none =>
        rw [renamed] at moved
        simp [save, made, written, renamed, ← moved]
      | some t₃ => simp [save, made, written, renamed, clear, moved.mp ⟨t₃, renamed⟩]

theorem walk_save (saved : (t.save s).1 = t') (outside : Path.isWithin cacheDirectory root = false)
    (respect : Bool) : t'.walk respect root = t.walk respect root := by
  rw [← saved, ← walk_remove outside, remove_save, walk_remove outside]

theorem isDirectory_save (saved : (t.save s).1 = t')
    (outside : Path.isWithin cacheDirectory path = false) : t'.isDirectory path = t.isDirectory path := by
  rw [← saved, ← isDirectory_remove outside, remove_save, isDirectory_remove outside]

end SourceAtlas.SourceTree
