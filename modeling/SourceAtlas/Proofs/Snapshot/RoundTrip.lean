import SourceAtlas.Proofs.Format.Faithful
import SourceAtlas.Proofs.Graph.Restore
import SourceAtlas.Proofs.Text.Hex
import SourceAtlas.Snapshot.Store

/-! A stored snapshot is read back as it was, in every part that a query or a later build looks at,
and is written again as the same bytes. -/
namespace SourceAtlas

namespace Format.Faithful

theorem nodeId : Faithful Format.nodeId := text.through NodeId.ofText_toText

theorem fingerprint : Faithful Format.fingerprint := u64.through fun _ => rfl

theorem language : Faithful Format.language := choice (by intro l; cases l <;> decide) (by decide)

theorem symbolKind : Faithful Format.symbolKind := choice (by intro k; cases k <;> decide) (by decide)

theorem relation : Faithful Format.relation := choice (by intro r; cases r <;> decide) (by decide)

theorem nodeKind : Faithful (Format.choice NodeKind.all) :=
  choice (by intro k; cases k <;> decide) (by decide)

theorem metadata : Faithful Format.metadata :=
  (language.option.pair (u64.option.pair (fingerprint.option.pair (symbolKind.option.pair
    (u32.option.pair (bool.pair text.map)))))).through fun _ => rfl

theorem node : Faithful Format.node :=
  (nodeId.pair (text.pair (nodeKind.pair (u32.map.pair metadata)))).through fun _ => rfl

theorem link : Faithful Format.link :=
  (nodeId.pair (nodeId.pair (relation.pair u32.option))).through fun _ => rfl

theorem symbol : Faithful Format.symbol := (text.pair (symbolKind.pair u32)).through fun _ => rfl

section Form

variable {α : Type} {f : Format α} {give : α × Bytes → Option (Spec × Bytes)}

/-- The parts of a form are read by a format of their own and then put together. -/
theorem form_append {form : α → Spec} (parts : Faithful f)
    (gives : ∀ a rest, give (a, rest) = some (form a, rest)) {bytes : Bytes} {s : Spec}
    {rest : Bytes} (more : Bytes) (h : (f.decode bytes).bind give = some (s, rest)) :
    (f.decode (bytes ++ more)).bind give = some (s, rest ++ more) := by
  obtain ⟨⟨a, left⟩, read, result⟩ := Option.bind_eq_some_iff.mp h
  rw [gives] at result
  cases result
  rw [parts.decode_append _ _ _ _ read, Option.bind_some, gives]

theorem form_encode (parts : Faithful f) {a : α} {s : Spec} {rest : Bytes}
    (short : (f.encode a).length < 2 ^ 64) (gives : give (a, rest) = some (s, rest)) :
    (f.decode (f.encode a ++ rest)).bind give = some (s, rest) := by
  rw [parts.decode_encode a rest short, Option.bind_some, gives]

end Form

theorem specBody_append (form : UInt32) (bytes : Bytes) (s : Spec) (rest more : Bytes)
    (h : specBody form bytes = some (s, rest)) :
    specBody form (bytes ++ more) = some (s, rest ++ more) := by
  unfold specBody at h ⊢
  split at h
  · exact form_append (text.pair text.list) (fun _ _ => rfl) more h
  · exact form_append text.list (fun _ _ => rfl) more h
  · exact form_append (text.pair (text.list.pair u32)) (fun _ _ => rfl) more h
  · exact form_append text (fun _ _ => rfl) more h
  · exact form_append (text.pair bool) (fun _ _ => rfl) more h
  · exact form_append text (fun _ _ => rfl) more h
  · cases h

theorem spec_decode (form : UInt32) (body rest : Bytes) :
    Format.spec.decode (Format.u32.encode form ++ body ++ rest) = specBody form (body ++ rest) := by
  have read := u32_decode_encode form (body ++ rest)
  simp [Format.spec, read]

theorem spec : Faithful Format.spec where
  nonempty s := by cases s <;> simp [Format.spec, u32.nonempty]
  decode_encode s rest short := by
    cases s with
    | rustMod name inline =>
      simp only [Format.spec, List.length_append] at short
      exact (spec_decode 0 _ rest).trans (form_encode (text.pair text.list) (by omega) rfl)
    | rustUse segments =>
      simp only [Format.spec, List.length_append] at short
      exact (spec_decode 1 _ rest).trans (form_encode text.list (by omega) rfl)
    | pythonImport module names level =>
      simp only [Format.spec, List.length_append] at short
      exact (spec_decode 2 _ rest).trans (form_encode (text.pair (text.list.pair u32)) (by omega) rfl)
    | jsImport specifier =>
      simp only [Format.spec, List.length_append] at short
      exact (spec_decode 3 _ rest).trans (form_encode text (by omega) rfl)
    | cInclude header system =>
      simp only [Format.spec, List.length_append] at short
      exact (spec_decode 4 _ rest).trans (form_encode (text.pair bool) (by omega) rfl)
    | docLink target =>
      simp only [Format.spec, List.length_append] at short
      exact (spec_decode 5 _ rest).trans (form_encode text (by omega) rfl)
  decode_append := by
    intro bytes s rest more h
    simp only [Format.spec, Option.bind_eq_bind, Option.bind_eq_some_iff] at h ⊢
    obtain ⟨⟨form, left⟩, read, body⟩ := h
    exact ⟨_, u32.decode_append _ _ _ _ read, specBody_append form left s rest more body⟩

theorem dependency : Faithful Format.dependency := (spec.pair u32).through fun _ => rfl

theorem record : Faithful Format.record :=
  (text.pair (language.pair (u64.pair (fingerprint.pair (symbol.list.pair (dependency.list.pair
    (text.list.pair bool))))))).through fun _ => rfl

theorem warning : Faithful Format.warning := (text.pair text).through fun _ => rfl

theorem stats : Faithful Format.stats :=
  (u64.pair (u64.pair (u64.pair (u64.pair (u64.pair u64))))).through fun _ => rfl

theorem stored : Faithful Format.stored :=
  (u32.pair (u64.pair (node.list.pair (link.list.pair (record.list.pair
    (warning.list.pair stats)))))).through fun _ => rfl

end Format.Faithful

namespace Snapshot

/-- Every record stands under its own path. -/
def Keyed (s : Snapshot) : Prop := ∀ e ∈ s.records.entries, e.1 = e.2.path

theorem new_keyed (version : UInt64) (graph : Graph) (records : List Record)
    (warnings : List Warning) (stats : Stats) : (new version graph records warnings stats).Keyed := by
  intro e he
  obtain ⟨r, _, rfl⟩ := List.mem_map.mp (TextMap.mem_of_mem_ofList he)
  rfl

theorem records_listed {s : Snapshot} (keyed : s.Keyed) :
    TextMap.ofList (s.records.values.map fun r => (r.path, r)) = s.records := by
  have entries : s.records.values.map (fun r => (r.path, r)) = s.records.entries := by
    rw [TextMap.values, List.map_map]
    calc s.records.entries.map ((fun r => (r.path, r)) ∘ fun e => e.2)
        = s.records.entries.map id := by
          apply List.map_congr_left
          intro e he
          exact Prod.ext (keyed e he).symm rfl
      _ = s.records.entries := List.map_id _
  rw [entries, TextMap.ofList_entries]

structure SameStored (r s : Snapshot) : Prop where
  version : r.version = s.version
  nodes : r.graph.nodes = s.graph.nodes
  links : r.graph.links = s.graph.links
  records : r.records = s.records
  warnings : r.warnings = s.warnings
  stats : r.stats = s.stats

theorem SameStored.toBytes_eq {r s : Snapshot} (same : r.SameStored s) : r.toBytes = s.toBytes := by
  simp only [toBytes, toStored, same.version, same.nodes, same.links, same.records, same.warnings,
    same.stats]

/-- Bytes behind those of a snapshot are not looked at. -/
theorem ofBytes_toBytes {s : Snapshot} (wf : s.graph.WellFormed) (keyed : s.Keyed)
    (short : s.toBytes.length < 2 ^ 64) :
    ∃ r, (∀ suffix, ofBytes? (s.toBytes ++ suffix) = .ok (some r)) ∧ r.SameStored s ∧
      r.Keyed ∧ Graph.Reached s.graph.nodes s.graph.links r.graph := by
  obtain ⟨g₁, g, first, second, nodes, links, reached⟩ := Graph.restored wf
  refine ⟨new s.version g s.records.values s.warnings s.stats, ?_, ?_, new_keyed _ _ _ _ _, reached⟩
  · intro suffix
    have read := Format.Faithful.stored.decode_encode s.toStored suffix short
    have made : ofStored s.toStored = .ok (new s.version g s.records.values s.warnings s.stats) := by
      simp only [ofStored, toStored, first, second]
    unfold ofBytes? toBytes
    rw [read]
    simp only [made]
    rfl
  · exact ⟨rfl, nodes, links, records_listed keyed, rfl, rfl⟩

end Snapshot

namespace SourceTree

theorem data_of_put {t t' : SourceTree} {path : String} {data : FileData}
    (h : t.put? path data = some t') : t'.data? path = some data := by
  unfold put? at h
  split at h
  · cases h
  · split at h
    · cases h
      simp [data?]
    · cases h

/-- What is written beside its place arrives there. -/
theorem content_of_save {t t' : SourceTree} {s : Snapshot} (h : t.save s = (t', none)) :
    t'.content? snapshotPath = some s.toBytes := by
  unfold save at h
  split at h
  · cases h
  · next t₁ _ =>
    split at h
    · cases h
    · next t₂ written =>
      split at h
      · cases h
      · next t₃ renamed =>
        cases h
        simp only [rename?, data_of_put written, Option.bind_eq_bind, Option.bind_some] at renamed
        rw [content?, data_of_put renamed]
        rfl

theorem load_of_content {t : SourceTree} {bytes : Bytes} (h : t.content? snapshotPath = some bytes) :
    t.load = Snapshot.ofBytes? bytes := by
  simp only [load, h]

end SourceTree

/-- Whatever calls made the graph and whatever else the snapshot holds, storing it and reading it back
changes no answer, and bytes behind the stored ones change nothing. Paths are answered as before if
no node ever changed its place. -/
theorem stored_snapshot_returns (calls : List Call) (version : UInt64) (records : List Record)
    (warnings : List Warning) (stats : Stats) (suffix : Bytes) :
    let s := Snapshot.new version (Graph.after calls) records warnings stats
    s.toBytes.length < 2 ^ 64 →
    (∀ t t' : SourceTree, t.save s = (t', none) →
      t'.content? SourceTree.snapshotPath = some s.toBytes) ∧
    ∃ r : Snapshot,
      (∀ t : SourceTree, t.content? SourceTree.snapshotPath = some (s.toBytes ++ suffix) →
        t.load = .ok (some r)) ∧
      r.version = s.version ∧ r.graph.nodes = s.graph.nodes ∧ r.graph.links = s.graph.links ∧
      r.records = s.records ∧ r.warnings = s.warnings ∧ r.stats = s.stats ∧
      (∀ id, r.graph.getNode id = s.graph.getNode id) ∧
      (∀ id direction relations,
        r.graph.neighbors id direction relations = s.graph.neighbors id direction relations) ∧
      (∀ text limit offset, r.graph.search text limit offset = s.graph.search text limit offset) ∧
      (∀ origin query cap, r.graph.impact origin query cap = s.graph.impact origin query cap) ∧
      (Graph.KeepsPlaces (Graph.empty.placedNodes calls) →
        ∀ path, r.graph.getNodeByPath path = s.graph.getNodeByPath path) ∧
      r.toBytes = s.toBytes := by
  intro s short
  have reached := Graph.reached_after calls
  have keyed : s.Keyed := Snapshot.new_keyed _ _ _ _ _
  obtain ⟨r, read, same, _, again⟩ := Snapshot.ofBytes_toBytes (s := s) reached.wellFormed keyed short
  refine ⟨fun t t' saved => SourceTree.content_of_save saved, r, ?_, same.version, same.nodes,
    same.links, same.records, same.warnings, same.stats, ?_, ?_, ?_, ?_, ?_, same.toBytes_eq⟩
  · intro t content
    rw [SourceTree.load_of_content content, read]
  · exact Graph.getNode_eq_of_lists same.nodes
  · exact Graph.neighbors_eq_of_lists same.nodes same.links
  · exact Graph.search_eq_of_lists same.nodes
  · exact Graph.impact_eq_of_lists same.nodes same.links
  · intro keeps path
    have index : r.graph.paths = s.graph.paths :=
      Graph.paths_eq_of_keepsPlaces reached keeps again same.nodes
    simp only [Graph.getNodeByPath, index, Graph.node?_eq_of_lists same.nodes]

/-- A file with all that can be said about a file, and a symbol with nothing. -/
def storedCalls : List Call :=
  [.nodes [⟨⟨1⟩, "a.rs", .file, .ofList [("alpha", 2), ("beta", 1)],
      ⟨some .rust, some 12, some ⟨3⟩, some .module, some 4, true, .ofList [("owner", "core")]⟩⟩,
      ⟨⟨2⟩, "a.rs#f", .symbol, .empty, .none⟩],
    .links [⟨⟨1⟩, ⟨2⟩, .defines, some 4⟩, ⟨⟨2⟩, ⟨1⟩, .references, none⟩]]

/-- A record with a dependency of every form. -/
def storedRecord : Record where
  path := "a.rs"
  language := .rust
  size := 12
  fingerprint := ⟨3⟩
  symbols := [⟨"f", .function, 4⟩]
  dependencies := [⟨.rustMod "m" ["inner"], 1⟩, ⟨.rustUse ["crate", "m"], 2⟩,
    ⟨.pythonImport "pkg" ["x", "y"] 1, 3⟩, ⟨.jsImport "./b", 4⟩, ⟨.cInclude "stdio.h" true, 5⟩,
    ⟨.docLink "../guide.md", 6⟩]
  docTerms := ["term"]
  parseErrors := false

def storedSample : Snapshot :=
  .new 7 (Graph.after storedCalls) [storedRecord] [⟨"b.py", "file is not valid UTF-8"⟩]
    ⟨2, 1, 0, 1, 3, 9⟩

def storedTree : SourceTree :=
  ⟨TextMap.empty.insert SourceTree.snapshotPath (.file (.readable (storedSample.toBytes ++ [0, 255])))⟩

theorem stored_sample_returns :
    (storedSample.toBytes.length < 2 ^ 64 ∧
      Graph.KeepsPlaces (Graph.empty.placedNodes storedCalls)) ∧
    (SourceTree.empty.save storedSample).1.content? SourceTree.snapshotPath =
      some storedSample.toBytes ∧
    ∃ r, storedTree.load = .ok (some r) ∧ r.records = storedSample.records ∧
      (∀ path, r.graph.getNodeByPath path = storedSample.graph.getNodeByPath path) ∧
      r.toBytes = storedSample.toBytes := by
  have short : storedSample.toBytes.length < 2 ^ 64 := by decide +kernel
  have keeps : Graph.KeepsPlaces (Graph.empty.placedNodes storedCalls) := by
    unfold Graph.KeepsPlaces
    decide +kernel
  have written : (SourceTree.empty.save storedSample).2 = none := by decide +kernel
  have content : storedTree.content? SourceTree.snapshotPath =
      some (storedSample.toBytes ++ [0, 255]) := by decide +kernel
  obtain ⟨saved, r, read, _, _, _, records, _, _, _, _, _, _, paths, again⟩ :=
    stored_snapshot_returns storedCalls 7 [storedRecord] [⟨"b.py", "file is not valid UTF-8"⟩]
      ⟨2, 1, 0, 1, 3, 9⟩ [0, 255] short
  exact ⟨⟨short, keeps⟩, saved .empty _ (Prod.ext rfl written), r, read storedTree content, records,
    paths keeps, again⟩

end SourceAtlas
