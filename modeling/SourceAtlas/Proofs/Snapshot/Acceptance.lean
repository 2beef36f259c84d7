import SourceAtlas.Proofs.Graph.Contents
import SourceAtlas.Proofs.Snapshot.RoundTrip
import SourceAtlas.Proofs.SourceTree.Edit

/-! Which stored bytes are read without a fault. Bytes of another shape or format number are no snapshot,
and that is no fault. Bytes of the right shape are read if their nodes and links fit together; if a
file takes a path while another file has it, or a link leads out of the stored nodes, reading them
ends in the fault of the graph that they do not form. -/
namespace SourceAtlas

namespace Graph

variable {g h : Graph} {batch : List Node}

/-- A batch is refused at the first node whose path is taken when its turn comes. -/
theorem putNodes_ok_iff : (∃ h, g.putNodes batch = (h, none)) ↔
    ∀ before n after, batch = before ++ n :: after →
      ∀ h, g.putNodes before = (h, none) → h.pathTaken n = false := by
  induction batch generalizing g with
  | nil =>
    constructor
    · rintro _ before n after split
      exact absurd split (by simp)
    · exact fun _ => ⟨g, rfl⟩
  | cons node rest ih =>
    cases taken : g.pathTaken node with
    | true =>
      constructor
      · rintro ⟨h, put⟩
        simp [putNodes, putEach, Graph.put, taken] at put
      · intro free
        rw [free [] node rest rfl g rfl] at taken
        cases taken
    | false =>
      rw [putNodes_cons taken, ih]
      constructor
      · intro free before n after split h put
        cases before with
        | nil =>
          cases split
          cases put
          exact taken
        | cons first more =>
          cases split
          rw [putNodes_cons taken] at put
          exact free more n after rfl h put
      · intro free before n after split h put
        have whole : node :: rest = (node :: before) ++ n :: after := by rw [split, List.cons_append]
        exact free (node :: before) n after whole h ((putNodes_cons taken).trans put)

/-- In a graph that a batch made of nothing, every node is the last of its id in the batch. -/
theorem mem_of_putNodes (put : empty.putNodes batch = (h, none)) {m : Node} :
    m ∈ h.nodes ↔ batch.reverse.find? (·.id = m.id) = some m := by
  have reached := Reached.start.putNodes batch
  rw [accepted_of_no_fault put, put] at reached
  exact reached.mem_nodes_iff

end Graph

/-- The stored nodes and links fit together. -/
structure Stored.Consistent (s : Stored) : Prop where
  /-- No file takes a path that another file has when its turn comes. -/
  files : ∀ before n after, s.nodes = before ++ n :: after → n.kind = .file →
    ∀ m, before.reverse.find? (·.id = m.id) = some m → m.kind = .file → m.path = n.path → m.id = n.id
  ends : ∀ l ∈ s.links, l.source ∈ s.nodes.map (·.id) ∧ l.target ∈ s.nodes.map (·.id)

namespace Snapshot

variable {s : Stored}

theorem nodes_accepted_iff : (∃ h, Graph.empty.putNodes s.nodes = (h, none)) ↔
    ∀ before n after, s.nodes = before ++ n :: after → n.kind = .file →
      ∀ m, before.reverse.find? (·.id = m.id) = some m → m.kind = .file → m.path = n.path →
        m.id = n.id := by
  have taken_iff : ∀ {before h} {n : Node}, Graph.empty.putNodes before = (h, none) →
      (h.pathTaken n = true ↔ n.kind = .file ∧ ∃ m, before.reverse.find? (·.id = m.id) = some m ∧
        m.kind = .file ∧ m.path = n.path ∧ m.id ≠ n.id) := by
    intro before h n put
    have reached := Graph.Reached.start.putNodes before
    rw [put] at reached
    simp only [reached.wellFormed.pathTaken_iff, Graph.mem_of_putNodes put]
  rw [Graph.putNodes_ok_iff]
  constructor
  · intro free before n after split file m last mfile path
    -- What stands in front of a node is accepted as well, so there is a graph to look at.
    obtain ⟨h, put⟩ : ∃ h, Graph.empty.putNodes before = (h, none) := by
      rw [Graph.putNodes_ok_iff]
      intro before' n' after' split'
      apply free before' n' (after' ++ n :: after)
      rw [split, split', List.append_assoc, List.cons_append]
    by_contra other
    have taken := (taken_iff put).mpr ⟨file, m, last, mfile, path, other⟩
    rw [free before n after split h put] at taken
    cases taken
  · intro files before n after split h put
    rw [Bool.eq_false_iff]
    intro taken
    obtain ⟨file, m, last, mfile, path, other⟩ := (taken_iff put).mp taken
    exact other (files before n after split file m last mfile path)

theorem ofStored_ok_iff : (∃ r, ofStored s = .ok r) ↔ s.Consistent := by
  unfold ofStored
  constructor
  · rintro ⟨r, ok⟩
    split at ok
    · cases ok
    · next g first =>
      split at ok
      · cases ok
      · next _ second =>
        refine ⟨nodes_accepted_iff.mp ⟨g, first⟩, ?_⟩
        intro l hl
        have ends := Graph.putLinks_ok_iff.mp ⟨_, second⟩ l hl
        rw [Graph.contains_of_putNodes first, Graph.contains_of_putNodes first] at ends
        exact ends
  · intro consistent
    obtain ⟨g, first⟩ := nodes_accepted_iff.mpr consistent.files
    have ends : ∀ l ∈ s.links, g.contains l.source = true ∧ g.contains l.target = true := by
      intro l hl
      rw [Graph.contains_of_putNodes first, Graph.contains_of_putNodes first]
      exact consistent.ends l hl
    obtain ⟨h, second⟩ := Graph.putLinks_ok_iff.mpr ends
    simp only [first, second]
    exact ⟨_, rfl⟩

end Snapshot

/-- Whatever bytes stand in the place of the stored snapshot, they are read without a fault unless they
store nodes and links that do not fit together. -/
theorem stored_bytes_load_iff (t : SourceTree) (bytes : Bytes) :
    (∃ r, (t.overwrite SourceTree.snapshotPath (.readable bytes)).load = .ok r) ↔
      ∀ s rest, Format.stored.decode bytes = some (s, rest) → s.format = storedFormat →
        s.Consistent := by
  have content : (t.overwrite SourceTree.snapshotPath (.readable bytes)).content?
      SourceTree.snapshotPath = some bytes := by
    simp [SourceTree.content?, SourceTree.data?, SourceTree.overwrite, FileData.content?]
  rw [SourceTree.load_of_content content, Snapshot.ofBytes?]
  cases decoded : Format.stored.decode bytes with
  | none => simp
  | some result =>
    obtain ⟨s, rest⟩ := result
    by_cases format : s.format = storedFormat
    · have only : (∀ s' rest', some (s, rest) = some (s', rest') → s'.format = storedFormat →
          s'.Consistent) ↔ s.Consistent := by
        constructor
        · exact fun all => all s rest rfl format
        · rintro consistent _ _ ⟨⟩ _
          exact consistent
      rw [only, ← Snapshot.ofStored_ok_iff]
      simp only [format, if_true]
      cases Snapshot.ofStored s <;> simp [Except.map]
    · constructor
      · rintro _ _ _ ⟨⟩ same
        exact absurd same format
      · intro _
        simp [format]

/-- One link between two nodes that are not stored. -/
def danglingBytes : Bytes :=
  Format.stored.encode
    ⟨storedFormat, 1, [], [⟨⟨1⟩, ⟨2⟩, .imports, none⟩], [], [], .zero⟩

theorem dangling_bytes_are_reported : ∃ t,
    SourceTree.empty.write? SourceTree.snapshotPath (.readable danglingBytes) = some t ∧
      t.load = .error (.danglingLink ⟨1⟩ ⟨2⟩) := by
  have written : (SourceTree.empty.write? SourceTree.snapshotPath
      (.readable danglingBytes)).isSome = true := by
    decide +kernel
  obtain ⟨t, made⟩ := Option.isSome_iff_exists.mp written
  have loaded : (SourceTree.empty.write? SourceTree.snapshotPath
      (.readable danglingBytes)).map SourceTree.load = some (.error (.danglingLink ⟨1⟩ ⟨2⟩)) := by
    decide +kernel
  rw [made] at loaded
  exact ⟨t, made, Option.some.inj loaded⟩

end SourceAtlas
