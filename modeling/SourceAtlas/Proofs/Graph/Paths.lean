import Mathlib.Logic.Function.Iterate
import SourceAtlas.Proofs.Graph.Contents

/-! What a path leads to. The node that answers to a path has it, and is its file if there is one. A path
that nodes have leads nowhere in one case: the node that answered to it was put again under another path,
and no node was put at the path since. Nodes that were there beside it are not asked then. -/
namespace SourceAtlas.Graph

variable {placed : List Node} {linked : List Link} {g : Graph} {node : Node} {path : String}

section Leading

theorem dropDotSlash_of_plain {cs : List Char} (plain : ¬ "./".toList <+: cs) : dropDotSlash cs = cs := by
  unfold dropDotSlash
  split
  · exact absurd ⟨_, rfl⟩ plain
  · rfl

/-- Nothing is left to drop. -/
theorem dropDotSlash_plain (path : String) :
    ¬ "./".toList <+: (String.ofList (dropDotSlash path.toList)).toList := by
  have plain : ∀ cs, ¬ "./".toList <+: dropDotSlash cs := by
    intro cs
    fun_induction dropDotSlash cs with
    | case1 rest ih => exact ih
    | case2 cs other =>
      rintro ⟨rest, rfl⟩
      exact other rest rfl
  simpa only [String.toList_ofList] using plain path.toList

theorem ofList_dropDotSlash (plain : ¬ "./".toList <+: path.toList) :
    String.ofList (dropDotSlash path.toList) = path := by
  rw [dropDotSlash_of_plain plain, String.ofList_toList]

theorem getNodeByPath_dotSlash (g : Graph) (path : String) :
    g.getNodeByPath ("./" ++ path) = g.getNodeByPath path := by
  have chars : dropDotSlash ("./" ++ path).toList = dropDotSlash path.toList := by
    rw [String.toList_append]
    rfl
  rw [getNodeByPath, getNodeByPath, chars]

theorem getNodeByPath_iterate (g : Graph) (times : Nat) (path : String) :
    g.getNodeByPath (("./" ++ ·)^[times] path) = g.getNodeByPath path := by
  induction times with
  | zero => rfl
  | succ times ih => rw [Function.iterate_succ_apply', getNodeByPath_dotSlash, ih]

end Leading

section Answer

theorem getNodeByPath_eq_ok_iff (wf : g.WellFormed) {n : Node} : g.getNodeByPath path = .ok n ↔
    n ∈ g.nodes ∧ g.paths.get? (String.ofList (dropDotSlash path.toList)) = some n.id := by
  simp only [getNodeByPath]
  constructor
  · intro answer
    split at answer
    · next known =>
      cases answer
      obtain ⟨id, entry, known⟩ := Option.bind_eq_some_iff.mp known
      obtain ⟨hn, rfl⟩ := mem_of_node known
      exact ⟨hn, entry⟩
    · cases answer
  · rintro ⟨hn, entry⟩
    rw [entry, Option.bind_some, node_of_mem wf.ids_distinct hn]

theorem getNodeByPath_eq_error_iff (wf : g.WellFormed) {fault : Fault} :
    g.getNodeByPath path = .error fault ↔
      fault = .pathNotFound (String.ofList (dropDotSlash path.toList)) ∧
        g.paths.get? (String.ofList (dropDotSlash path.toList)) = none := by
  cases entry : g.paths.get? (String.ofList (dropDotSlash path.toList)) with
  | none => simp [getNodeByPath, entry, eq_comm]
  | some id =>
    obtain ⟨n, hn, rfl, _⟩ := wf.index_sound _ _ entry
    simp [(getNodeByPath_eq_ok_iff wf).mpr ⟨hn, entry⟩]

theorem path_of_getNodeByPath (wf : g.WellFormed) {n : Node} (answer : g.getNodeByPath path = .ok n) :
    n.path = String.ofList (dropDotSlash path.toList) := by
  obtain ⟨hn, entry⟩ := (getNodeByPath_eq_ok_iff wf).mp answer
  obtain ⟨m, hm, same, hpath⟩ := wf.index_sound _ _ entry
  rw [← wf.node_unique hm hn same, hpath]

end Answer

section History

/-- The node that answered to the path was put again under another one, and no node was put at the path
since. -/
def GivenUp (placed : List Node) (path : String) : Prop :=
  ∃ before moved since, placed = before ++ moved :: since ∧
    (∃ owner, (after [.nodes before]).getNodeByPath path = .ok owner ∧ owner.id = moved.id) ∧
    moved.path ≠ path ∧ ∀ n ∈ since, n.path ≠ path

/-- No node is put again under another path. -/
def KeepsPaths (placed : List Node) : Prop :=
  ∀ a ∈ placed, ∀ b ∈ placed, a.id = b.id → a.path = b.path

theorem givenUp_concat : GivenUp (placed ++ [node]) path ↔ node.path ≠ path ∧
    ((∃ owner, (after [.nodes placed]).getNodeByPath path = .ok owner ∧ owner.id = node.id) ∨
      GivenUp placed path) := by
  constructor
  · rintro ⟨before, moved, since, same, answered, away, others⟩
    rcases List.eq_nil_or_concat' since with rfl | ⟨since, last, rfl⟩
    · obtain ⟨rfl, one⟩ := List.append_inj' same rfl
      obtain rfl := List.singleton_inj.mp one
      exact ⟨away, .inl answered⟩
    · rw [← List.cons_append, ← List.append_assoc] at same
      obtain ⟨rfl, one⟩ := List.append_inj' same rfl
      obtain rfl := List.singleton_inj.mp one
      obtain ⟨others, elsewhere⟩ := List.forall_mem_append.mp others
      exact ⟨elsewhere node List.mem_cons_self, .inr ⟨before, moved, since, rfl, answered, away, others⟩⟩
  · rintro ⟨elsewhere, answered | ⟨before, moved, since, rfl, answered, away, others⟩⟩
    · exact ⟨placed, node, [], rfl, answered, elsewhere, fun _ h => absurd h List.not_mem_nil⟩
    · refine ⟨before, moved, since ++ [node], by simp, answered, away, ?_⟩
      exact List.forall_mem_append.mpr ⟨others, List.forall_mem_singleton.mpr elsewhere⟩

/-- Links have no part in which nodes there are and what paths answer. -/
theorem Reached.putNodes_placed (reached : Reached placed linked g) :
    empty.putNodes placed = ({ g with links := [] }, none) := by
  induction reached with
  | start => rfl
  | @node placed linked g g' node _ ok ih =>
    obtain ⟨free, rfl⟩ := put_eq_ok_iff.mp ok
    rw [putNodes_append ih]
    exact putNodes_cons (g := { g with links := [] }) free
  | link _ ok ih =>
    obtain ⟨_, _, ⟨_, rfl⟩ | ⟨_, rfl⟩⟩ := putLink_cases ok
    · exact ih
    · exact ih

theorem Reached.answers_iff (reached : Reached placed linked g)
    (plain : ¬ "./".toList <+: path.toList) (id : NodeId) :
    (∃ owner, (after [.nodes placed]).getNodeByPath path = .ok owner ∧ owner.id = id) ↔
      g.paths.get? path = some id := by
  have paths : (after [.nodes placed]).paths = g.paths :=
    congrArg (fun result => result.1.paths) reached.putNodes_placed
  have wf := after_wellFormed [.nodes placed]
  rw [← paths]
  simp only [getNodeByPath_eq_ok_iff wf, ofList_dropDotSlash plain]
  constructor
  · rintro ⟨owner, ⟨_, entry⟩, rfl⟩
    exact entry
  · intro entry
    obtain ⟨owner, hn, rfl, _⟩ := wf.index_sound _ _ entry
    exact ⟨owner, ⟨hn, entry⟩, rfl⟩

theorem Reached.get_paths_eq_none_iff (reached : Reached placed linked g)
    (plain : ¬ "./".toList <+: path.toList) :
    g.paths.get? path = none ↔ (∀ n ∈ placed, n.path ≠ path) ∨ GivenUp placed path := by
  induction reached with
  | start => simp [Graph.empty]
  | @node placed linked g g' node before ok ih =>
    obtain ⟨_, rfl⟩ := put_eq_ok_iff.mp ok
    have wf := before.wellFormed
    have all : (∀ n ∈ placed ++ [node], n.path ≠ path) ↔
        (∀ n ∈ placed, n.path ≠ path) ∧ node.path ≠ path := by
      rw [List.forall_mem_append, List.forall_mem_singleton]
    rw [get_paths_withNode wf.ids_distinct wf.index_sound, givenUp_concat, before.answers_iff plain, all]
    by_cases here : path = node.path
    · simp [here]
    · have elsewhere : node.path ≠ path := fun same => here same.symm
      rw [if_neg here]
      by_cases left : g.paths.get? path = some node.id
      · simp [left, elsewhere]
      · simp [left, elsewhere, ih]
  | link _ ok ih =>
    obtain ⟨_, _, ⟨_, rfl⟩ | ⟨_, rfl⟩⟩ := putLink_cases ok
    · exact ih
    · exact ih

theorem Reached.nowhere_iff (reached : Reached placed linked g) (plain : ¬ "./".toList <+: path.toList) :
    g.paths.get? path = none ↔ (∀ n ∈ g.nodes, n.path ≠ path) ∨ GivenUp placed path := by
  rw [reached.get_paths_eq_none_iff plain]
  constructor
  · exact Or.imp_left fun never n hn => never n (reached.mem_placed hn)
  · rintro (absent | left)
    · rw [← reached.get_paths_eq_none_iff plain, Option.eq_none_iff_forall_ne_some]
      intro id entry
      obtain ⟨n, hn, _, here⟩ := reached.wellFormed.index_sound _ _ entry
      exact absent n hn here
    · exact .inr left

theorem mem_of_mem_accepted {α : Type} {put : Graph → α → Except Fault Graph} {xs : List α} {x : α}
    (h : x ∈ g.accepted put xs) : x ∈ xs := by
  rcases takes_accepted put g xs with ⟨all, _⟩ | ⟨_, _, _, split, _⟩
  · exact all ▸ h
  · rw [split]
    exact List.mem_append_left _ h

theorem not_givenUp_of_keepsPaths (keeps : KeepsPaths placed) (plain : ¬ "./".toList <+: path.toList) :
    ¬ GivenUp placed path := by
  rintro ⟨before, moved, since, rfl, ⟨owner, answer, same⟩, away, _⟩
  have reached := reached_after [.nodes before]
  have here := path_of_getNodeByPath reached.wellFormed answer
  have present := ((getNodeByPath_eq_ok_iff reached.wellFormed).mp answer).1
  have taken : owner ∈ empty.accepted put before := by
    simpa [placedNodes] using reached.mem_placed present
  have stays := keeps owner (List.mem_append_left _ (mem_of_mem_accepted taken)) moved
    (List.mem_append_right _ List.mem_cons_self) same
  rw [ofList_dropDotSlash plain] at here
  exact away (stays.symm.trans here)

end History

/-- In every store a path leads to a node that has it, and to its file if there is one, however many `./` stand
in front. It leads nowhere if no node has it or the path was given up, and it was not as long as no node was
put again under another path. -/
theorem paths_lead_to_nodes (calls : List Call) (path : String) (plain : ¬ "./".toList <+: path.toList) :
    let g := after calls
    let placed := empty.placedNodes calls
    (∀ n, g.getNodeByPath path = .ok n → n ∈ g.nodes ∧ n.path = path) ∧
    (∀ n ∈ g.nodes, n.kind = .file → n.path = path → g.getNodeByPath path = .ok n) ∧
    (∀ fault, g.getNodeByPath path = .error fault ↔ fault = .pathNotFound path ∧
      ((∀ n ∈ g.nodes, n.path ≠ path) ∨ GivenUp placed path)) ∧
    (KeepsPaths placed → ((∃ n, g.getNodeByPath path = .ok n) ↔ ∃ n ∈ g.nodes, n.path = path)) ∧
    ∀ times : Nat, g.getNodeByPath (("./" ++ ·)^[times] path) = g.getNodeByPath path := by
  intro g placed
  have reached : Reached placed _ g := reached_after calls
  have wf := reached.wellFormed
  have found : ∀ n, g.getNodeByPath path = .ok n → n ∈ g.nodes ∧ n.path = path := by
    intro n answer
    exact ⟨((getNodeByPath_eq_ok_iff wf).mp answer).1,
      (path_of_getNodeByPath wf answer).trans (ofList_dropDotSlash plain)⟩
  have missed : ∀ fault, g.getNodeByPath path = .error fault ↔ fault = .pathNotFound path ∧
      ((∀ n ∈ g.nodes, n.path ≠ path) ∨ GivenUp placed path) := by
    intro fault
    rw [getNodeByPath_eq_error_iff wf, ofList_dropDotSlash plain, reached.nowhere_iff plain]
  refine ⟨found, ?_, missed, ?_, fun times => getNodeByPath_iterate g times path⟩
  · intro n hn file here
    rw [getNodeByPath_eq_ok_iff wf, ofList_dropDotSlash plain, ← here]
    exact ⟨hn, wf.files_indexed n hn file⟩
  · intro keeps
    constructor
    · rintro ⟨n, answer⟩
      exact ⟨n, found n answer⟩
    · rintro ⟨n, hn, here⟩
      cases answer : g.getNodeByPath path with
      | ok owner => exact ⟨owner, rfl⟩
      | error fault =>
        obtain ⟨_, absent | left⟩ := (missed fault).mp answer
        · exact absurd here (absent n hn)
        · exact absurd left (not_givenUp_of_keepsPaths keeps plain)

def symbolAt (id : UInt64) (path : String) : Node := ⟨⟨id⟩, path, .symbol, .empty, .none⟩

/-- Two symbols of one path, the first of which gets another name. -/
def renamingCalls : List Call :=
  [.nodes ([symbolAt 1 "lib.rs#run", symbolAt 2 "lib.rs#run"] ++ [symbolAt 1 "lib.rs#start"])]

/-- The second symbol still has the path that the first one gave up, and the path leads nowhere. -/
theorem second_symbol_is_lost : ¬ "./".toList <+: "lib.rs#run".toList ∧
    (∃ n ∈ (after renamingCalls).nodes, n.path = "lib.rs#run") ∧
    (after renamingCalls).getNodeByPath "lib.rs#run" = .error (.pathNotFound "lib.rs#run") := by
  decide +kernel

/-- Nodes that change their kinds and stay where they are. -/
def retypingCalls : List Call :=
  [.nodes [{ symbolAt 1 "map" with kind := .file }, symbolAt 2 "map", symbolAt 1 "map",
    { symbolAt 2 "map" with kind := .file }]]

theorem retyped_paths_lead_to_nodes :
    (¬ "./".toList <+: "map".toList ∧ KeepsPaths (empty.placedNodes retypingCalls) ∧
      (∃ n, (after retypingCalls).getNodeByPath "map" = .ok n) ∧
      ∃ n ∈ (after retypingCalls).nodes, n.id = ⟨2⟩ ∧ n.kind = .file ∧ n.path = "map" ∧
        (after retypingCalls).getNodeByPath (("./" ++ ·)^[3] "map") = .ok n) ∧
    (¬ "./".toList <+: "lib.rs#run".toList ∧ GivenUp (empty.placedNodes renamingCalls) "lib.rs#run" ∧
      (after renamingCalls).getNodeByPath "lib.rs#run" = .error (.pathNotFound "lib.rs#run")) := by
  have plain : ¬ "./".toList <+: "map".toList := by decide
  have keeps : KeepsPaths (empty.placedNodes retypingCalls) := by
    unfold KeepsPaths
    decide +kernel
  obtain ⟨n, hn, id, file, here⟩ : ∃ n ∈ (after retypingCalls).nodes,
      n.id = ⟨2⟩ ∧ n.kind = .file ∧ n.path = "map" := by decide +kernel
  obtain ⟨_, files, _, kept, leading⟩ := paths_lead_to_nodes retypingCalls "map" plain
  have plain' : ¬ "./".toList <+: "lib.rs#run".toList := by decide
  have left : GivenUp (empty.placedNodes renamingCalls) "lib.rs#run" :=
    ⟨_, symbolAt 1 "lib.rs#start", [], (by decide +kernel :
      empty.placedNodes renamingCalls = [symbolAt 1 "lib.rs#run", symbolAt 2 "lib.rs#run"] ++ [_]),
      ⟨symbolAt 1 "lib.rs#run", by decide +kernel, rfl⟩, by decide, by decide⟩
  obtain ⟨_, _, nowhere, _⟩ := paths_lead_to_nodes renamingCalls "lib.rs#run" plain'
  exact ⟨⟨plain, keeps, (kept keeps).mpr ⟨n, hn, here⟩, n, hn, id, file, here,
    (leading 3).trans (files n hn file here)⟩, plain', left, (nowhere _).mpr ⟨rfl, .inr left⟩⟩

end SourceAtlas.Graph
