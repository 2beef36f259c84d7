import SourceAtlas.Proofs.Snapshot.RoundTrip

/-! Stored snapshots that are cut off. A reader that answers never looks at what follows the value, so if it
answered on the front of what is written for a value, it would answer on the whole the same and leave
bytes over; but the whole is read to its end. -/
namespace SourceAtlas

namespace Format.Faithful

variable {α : Type} {f : Format α} {cut : Bytes}

/-- What is written for a value cannot be read from any shorter front of it. -/
theorem decode_cut (hf : Faithful f) {a : α} (short : (f.encode a).length < 2 ^ 64)
    (front : cut <+: f.encode a) (strict : cut ≠ f.encode a) : f.decode cut = none := by
  obtain ⟨more, whole⟩ := front
  cases read : f.decode cut with
  | none => rfl
  | some result =>
    obtain ⟨b, rest⟩ := result
    have longer := hf.decode_append cut b rest more read
    have exactly := hf.decode_encode a [] short
    rw [List.append_nil, ← whole, longer] at exactly
    have nothing : rest ++ more = [] := congrArg Prod.snd (Option.some.inj exactly)
    have left := (List.append_eq_nil_iff.mp nothing).2
    rw [left, List.append_nil] at whole
    exact absurd whole strict

end Format.Faithful

theorem Snapshot.ofBytes_cut {s : Snapshot} {cut : Bytes} (short : s.toBytes.length < 2 ^ 64)
    (front : cut <+: s.toBytes) (strict : cut ≠ s.toBytes) : ofBytes? cut = .ok none := by
  have unread : Format.stored.decode cut = none := Format.Faithful.stored.decode_cut short front strict
  rw [ofBytes?, unread]

/-- A stored snapshot is read if it is whole; cut off somewhere, or gone to the first byte, it is no
snapshot and no fault. -/
theorem truncated_snapshot_is_ignored (s : Snapshot) (short : s.toBytes.length < 2 ^ 64) :
    (∀ t t' : SourceTree, t.save s = (t', none) →
      t'.content? SourceTree.snapshotPath = some s.toBytes) ∧
    (s.graph.WellFormed → s.Keyed → ∀ t : SourceTree,
      t.content? SourceTree.snapshotPath = some s.toBytes →
      ∃ r : Snapshot, t.load = .ok (some r) ∧ r.SameStored s) ∧
    ∀ cut, cut <+: s.toBytes → cut ≠ s.toBytes →
      ∀ t : SourceTree, t.content? SourceTree.snapshotPath = some cut → t.load = .ok none := by
  refine ⟨fun _ _ => SourceTree.content_of_save, ?_, ?_⟩
  · intro wf keyed t content
    obtain ⟨r, read, same, _, _⟩ := Snapshot.ofBytes_toBytes wf keyed short
    have whole := read []
    rw [List.append_nil, ← SourceTree.load_of_content content] at whole
    exact ⟨r, whole, same⟩
  · intro cut front strict t content
    rw [SourceTree.load_of_content content]
    exact Snapshot.ofBytes_cut short front strict

/-- The stored sample up to the middle of its first node. -/
def truncatedTree : SourceTree :=
  ⟨TextMap.empty.insert SourceTree.snapshotPath (.file (.readable (storedSample.toBytes.take 40)))⟩

theorem truncated_sample_is_ignored :
    (storedSample.toBytes.length < 2 ^ 64 ∧ (SourceTree.empty.save storedSample).2 = none ∧
      storedSample.graph.WellFormed ∧ storedSample.Keyed ∧
      storedSample.toBytes.take 40 <+: storedSample.toBytes ∧
      storedSample.toBytes.take 40 ≠ storedSample.toBytes ∧
      truncatedTree.content? SourceTree.snapshotPath = some (storedSample.toBytes.take 40)) ∧
    (∃ r, (SourceTree.empty.save storedSample).1.load = .ok (some r) ∧ r.SameStored storedSample) ∧
    truncatedTree.load = .ok none := by
  have short : storedSample.toBytes.length < 2 ^ 64 := by decide +kernel
  have written : (SourceTree.empty.save storedSample).2 = none := by decide +kernel
  have wf : storedSample.graph.WellFormed := Graph.after_wellFormed storedCalls
  have keyed : storedSample.Keyed := Snapshot.new_keyed _ _ _ _ _
  have front : storedSample.toBytes.take 40 <+: storedSample.toBytes := List.take_prefix 40 _
  have strict : storedSample.toBytes.take 40 ≠ storedSample.toBytes := by decide +kernel
  have content : truncatedTree.content? SourceTree.snapshotPath =
      some (storedSample.toBytes.take 40) := by decide +kernel
  obtain ⟨stored, whole, ignored⟩ := truncated_snapshot_is_ignored storedSample short
  exact ⟨⟨short, written, wf, keyed, front, strict, content⟩,
    whole wf keyed _ (stored .empty _ (Prod.ext rfl written)),
    ignored _ front strict truncatedTree content⟩

end SourceAtlas
