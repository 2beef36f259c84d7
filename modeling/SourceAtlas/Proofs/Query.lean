import SourceAtlas.Http.Router
import SourceAtlas.Proofs.Graph.Neighbors
import SourceAtlas.Proofs.Graph.Paths
import SourceAtlas.Proofs.Search.Ranking

/-! Queries fail for what the caller asked for and for nothing else. Whatever the ranking, the walk or the
links mention is a node of the same graph, so no look-up behind the first can miss; the first one misses
for a reference that leads nowhere. A caller over HTTP is therefore never told of an internal error. -/
namespace SourceAtlas

/-- The node has the id or the path that is asked for; a `./` in front of a path does not matter. -/
def NodeRef.Names (target : NodeRef) (n : Node) : Prop :=
  match target with
  | .id wanted => n.id = wanted
  | .path wanted => n.path = String.ofList (Graph.dropDotSlash wanted.toList)

instance (target : NodeRef) (n : Node) : Decidable (target.Names n) :=
  match target with
  | .id wanted => inferInstanceAs (Decidable (n.id = wanted))
  | .path wanted => inferInstanceAs (Decidable (n.path = String.ofList (Graph.dropDotSlash wanted.toList)))

/-- What is told of a reference that leads nowhere. -/
def NodeRef.absent : NodeRef → Fault
  | .id wanted => .nodeNotFound wanted
  | .path wanted => .pathNotFound (String.ofList (Graph.dropDotSlash wanted.toList))

def Node.foundBy (terms : Finset String) (n : Node) : FoundNode :=
  ⟨n.summary, UInt32.ofNat (n.score terms)⟩

section Results

variable {α β δ ε : Type}

/-- If there is no result, then for an error of this sort. -/
def FailsOnly (p : ε → Prop) (x : Except ε α) : Prop := ∀ e, x = .error e → p e

namespace FailsOnly

variable {p : ε → Prop} {q : δ → Prop}

theorem ok (a : α) : FailsOnly p (.ok a) := by
  intro e failed
  cases failed

theorem error {e : ε} (h : p e) : FailsOnly p (.error e : Except ε α) := by
  intro e' failed
  cases failed
  exact h

theorem bind {x : Except ε α} {f : α → Except ε β} (first : FailsOnly p x)
    (next : ∀ a, FailsOnly p (f a)) : FailsOnly p (x >>= f) := by
  cases x with
  | ok a => exact next a
  | error e => exact error (first e rfl)

theorem map {x : Except ε α} {f : α → β} (h : FailsOnly p x) : FailsOnly p (x.map f) := by
  cases x with
  | ok a => exact ok (f a)
  | error e => exact error (h e rfl)

theorem mapM {f : α → Except ε β} (each : ∀ a, FailsOnly p (f a)) (xs : List α) :
    FailsOnly p (xs.mapM f) := by
  induction xs with
  | nil => exact ok []
  | cons x rest ih =>
    rw [List.mapM_cons]
    exact bind (each x) fun _ => bind ih fun _ => ok _

theorem mapError {x : Except ε α} {f : ε → δ} (h : FailsOnly p x) (told : ∀ e, p e → q (f e)) :
    FailsOnly q (x.mapError f) := by
  cases x with
  | ok a => exact ok a
  | error e => exact error (told e (h e rfl))

end FailsOnly

end Results

namespace Graph

variable {g : Graph}

/-- Whatever a reference leads to is a node of the graph that it names. -/
theorem find_sound (wf : g.WellFormed) {target : NodeRef} {n : Node} (found : g.find target = .ok n) :
    n ∈ g.nodes ∧ target.Names n := by
  cases target with
  | id id =>
    rw [find, getNode] at found
    split at found
    · next known =>
      cases found
      exact mem_of_node known
    · cases found
  | path path => exact ⟨((getNodeByPath_eq_ok_iff wf).mp found).1, path_of_getNodeByPath wf found⟩

theorem absent_of_find {target : NodeRef} {fault : Fault} (missed : g.find target = .error fault) :
    fault = target.absent := by
  cases target with
  | id id =>
    rw [find, getNode] at missed
    split at missed <;> cases missed
    rfl
  | path path =>
    rw [find, getNodeByPath] at missed
    split at missed <;> cases missed
    rfl

theorem find_of_id (wf : g.WellFormed) {id : NodeId} {n : Node} (hn : n ∈ g.nodes)
    (named : (NodeRef.id id).Names n) : g.find (.id id) = .ok n :=
  named ▸ getNode_of_mem wf hn

theorem find_of_entry (wf : g.WellFormed) {path : String} {n : Node} (hn : n ∈ g.nodes)
    (entry : g.paths.get? (String.ofList (dropDotSlash path.toList)) = some n.id) :
    g.find (.path path) = .ok n :=
  (getNodeByPath_eq_ok_iff wf).mpr ⟨hn, entry⟩

theorem find_of_file (wf : g.WellFormed) {path : String} {n : Node} (hn : n ∈ g.nodes)
    (file : n.kind = .file) (named : (NodeRef.path path).Names n) : g.find (.path path) = .ok n :=
  find_of_entry wf hn (named ▸ wf.files_indexed n hn file)

theorem find_id_eq_absent_iff (wf : g.WellFormed) {id : NodeId} :
    g.find (.id id) = .error (.nodeNotFound id) ↔ ∀ n ∈ g.nodes, n.id ≠ id := by
  constructor
  · intro missed n hn named
    rw [find_of_id wf hn named] at missed
    cases missed
  · intro none
    cases found : g.find (.id id) with
    | ok n =>
      have ⟨hn, named⟩ := find_sound wf found
      exact absurd named (none n hn)
    | error fault => rw [absent_of_find found, NodeRef.absent]

/-- A reference by path was left behind by the node that answered to it. -/
def LeftBehind (placed : List Node) : NodeRef → Prop
  | .id _ => False
  | .path wanted => GivenUp placed (String.ofList (dropDotSlash wanted.toList))

theorem find_eq_absent_iff {placed : List Node} {linked : List Link} (reached : Reached placed linked g)
    (target : NodeRef) : g.find target = .error target.absent ↔
      (∀ n ∈ g.nodes, ¬ target.Names n) ∨ LeftBehind placed target := by
  have wf := reached.wellFormed
  cases target with
  | id id => exact (find_id_eq_absent_iff wf).trans (or_iff_left not_false).symm
  | path path =>
    rw [find, NodeRef.absent, getNodeByPath_eq_error_iff wf, reached.nowhere_iff (dropDotSlash_plain path)]
    exact and_iff_right rfl

theorem not_leftBehind {placed : List Node} (keeps : KeepsPaths placed) (target : NodeRef) :
    ¬ LeftBehind placed target := by
  cases target with
  | id id => exact not_false
  | path path => exact not_givenUp_of_keepsPaths keeps (dropDotSlash_plain path)

end Graph

/-- What the queries on a snapshot answer with. The only faults are a reference that leads nowhere and a
limit or a depth out of range; what is told of other nodes is told of nodes of the snapshot, and in the
order of the search, of the walk, or of the ids. -/
structure Snapshot.AnswersQueries (s : Snapshot) : Prop where
  search : ∀ text, ∃ ranked, RankingOf s.graph.nodes (Term.tokenize text).toFinset ranked ∧
    ∀ limit offset, s.search text limit offset =
      if limit = 0 then .error (.invalidArgument .zeroLimit)
      else if 1000 < limit then .error (.invalidArgument (.limitAbove 1000))
      else .ok ((((ranked.map (Node.foundBy (Term.tokenize text).toFinset)).drop offset).take limit))
  found : ∀ target n, s.graph.find target = .ok n → n ∈ s.graph.nodes ∧ target.Names n
  ids : ∀ id, s.graph.find (.id id) = .error (.nodeNotFound id) ↔ ∀ n ∈ s.graph.nodes, n.id ≠ id
  files : ∀ n ∈ s.graph.nodes, n.kind = .file → ∀ path, (NodeRef.path path).Names n →
    s.graph.find (.path path) = .ok n
  absent : ∀ target fault, s.graph.find target = .error fault →
    fault = target.absent ∧ s.detail target = .error fault ∧
      ∀ query cap, s.impact target query cap = .error fault
  impact : ∀ target origin, s.graph.find target = .ok origin → ∀ query cap,
    (query.maxDepth = some 0 → s.impact target query cap = .error (.invalidArgument .zeroDepth)) ∧
    (query.maxDepth ≠ some 0 → ∃ reached : List (Node × Reach),
      s.graph.impact origin.id query cap = .ok (reached.map (·.2)) ∧
      s.impact target query cap = .ok (reached.map fun p => ⟨p.1.summary, p.2.distance⟩) ∧
      (∀ p ∈ reached, p.1 ∈ s.graph.nodes ∧ p.1.id = p.2.id) ∧
      (reached.map (·.2)).Pairwise Reach.Before)
  detail : ∀ target origin, s.graph.find target = .ok origin →
    ∃ outgoing incoming : List Node,
      s.detail target = .ok ⟨origin, outgoing.map Node.summary, incoming.map Node.summary⟩ ∧
      (∀ n ∈ outgoing ++ incoming, n ∈ s.graph.nodes) ∧
      outgoing.map (·.id) = s.graph.adjacent .outgoing none origin.id ∧
      incoming.map (·.id) = s.graph.adjacent .incoming none origin.id

namespace Snapshot

variable {s : Snapshot}

theorem search_eq (wf : s.graph.WellFormed) (counted : ∀ n ∈ s.graph.nodes, n.total < 2 ^ 32)
    (text : String) : ∃ ranked, RankingOf s.graph.nodes (Term.tokenize text).toFinset ranked ∧
      ∀ limit offset, s.search text limit offset =
        if limit = 0 then .error (.invalidArgument .zeroLimit)
        else if 1000 < limit then .error (.invalidArgument (.limitAbove 1000))
        else .ok ((((ranked.map (Node.foundBy (Term.tokenize text).toFinset)).drop offset).take limit)) := by
  obtain ⟨ranked, ranking, hits⟩ := ranking_eq_ok wf.ids_distinct counted text
  have known : ∀ n ∈ ranked, s.graph.getNode n.id = .ok n := fun n hn =>
    Graph.getNode_of_mem wf (List.mem_filter.mp (ranking.perm.mem_iff.mp hn)).1
  refine ⟨ranked, ranking, ?_⟩
  intro limit offset
  rw [Snapshot.search, Graph.search, SearchIndex.query_eq hits]
  by_cases zero : limit = 0
  · simp only [zero, if_true]
    rfl
  · by_cases above : 1000 < limit
    · simp only [if_neg zero, if_pos above]
      rfl
    · simp only [if_neg zero, if_neg above, ← List.map_drop, ← List.map_take]
      apply mapM_map_eq_ok
      intro n hn
      have listed : n ∈ ranked := List.mem_of_mem_drop (List.mem_of_mem_take hn)
      simp only [Node.hit, known n listed]
      rfl

theorem impact_eq (wf : s.graph.WellFormed) {target : NodeRef} {origin : Node}
    (found : s.graph.find target = .ok origin) (query : ImpactQuery) (cap : Nat) :
    (query.maxDepth = some 0 → s.impact target query cap = .error (.invalidArgument .zeroDepth)) ∧
    (query.maxDepth ≠ some 0 → ∃ reached : List (Node × Reach),
      s.graph.impact origin.id query cap = .ok (reached.map (·.2)) ∧
      s.impact target query cap = .ok (reached.map fun p => ⟨p.1.summary, p.2.distance⟩) ∧
      (∀ p ∈ reached, p.1 ∈ s.graph.nodes ∧ p.1.id = p.2.id) ∧
      (reached.map (·.2)).Pairwise Reach.Before) := by
  have present : s.graph.contains origin.id = true :=
    Graph.contains_iff.mpr ⟨origin, (Graph.find_sound wf found).1, rfl⟩
  constructor
  · intro zero
    rw [Snapshot.impact, found]
    simp only [Graph.impact, present, zero, bind, Except.bind, Bool.not_true, Bool.false_eq_true,
      if_true, if_false]
  · intro positive
    have walked : s.graph.impact origin.id query cap = .ok (s.graph.spread query.direction
        query.relations (Graph.effectiveDepth query.maxDepth cap) 0 [origin.id] [origin.id]) :=
      Graph.impact_eq_spread wf present positive cap
    have ordered : (s.graph.spread query.direction query.relations
        (Graph.effectiveDepth query.maxDepth cap) 0 [origin.id] [origin.id]).Pairwise Reach.Before :=
      Graph.spread_ordered _ 0 _ _
    have known : ∀ r ∈ s.graph.spread query.direction query.relations
        (Graph.effectiveDepth query.maxDepth cap) 0 [origin.id] [origin.id],
        s.graph.contains r.id = true := by
      intro r hr
      obtain ⟨other, far, _⟩ := (Graph.mem_spread_origin _ r).mp hr
      exact Graph.contains_of_distance wf other far
    obtain ⟨reached, same, nodes⟩ := Graph.exists_mentioned Reach.id known
    rw [← same] at walked ordered
    refine ⟨reached, walked, ?_, nodes, ordered⟩
    rw [Snapshot.impact, found]
    simp only [bind, Except.bind, walked]
    apply mapM_map_eq_ok
    intro p hp
    obtain ⟨hn, hid⟩ := nodes p hp
    rw [← hid, Graph.getNode_of_mem wf hn]
    rfl

theorem neighborSummaries_eq (wf : s.graph.WellFormed) {origin : Node} (here : origin ∈ s.graph.nodes)
    (direction : Direction) : ∃ neighbors : List Node,
      s.neighborSummaries origin.id direction = .ok (neighbors.map Node.summary) ∧
      (∀ n ∈ neighbors, n ∈ s.graph.nodes) ∧
      neighbors.map (·.id) = s.graph.adjacent direction none origin.id := by
  have present : s.graph.contains origin.id = true := Graph.contains_iff.mpr ⟨origin, here, rfl⟩
  obtain ⟨neighbors, answer, nodes, same⟩ := Graph.neighbors_of_contains wf present direction none
  refine ⟨neighbors, ?_, nodes, same⟩
  rw [neighborSummaries, answer]
  rfl

theorem detail_eq (wf : s.graph.WellFormed) {target : NodeRef} {origin : Node}
    (found : s.graph.find target = .ok origin) : ∃ outgoing incoming : List Node,
      s.detail target = .ok ⟨origin, outgoing.map Node.summary, incoming.map Node.summary⟩ ∧
      (∀ n ∈ outgoing ++ incoming, n ∈ s.graph.nodes) ∧
      outgoing.map (·.id) = s.graph.adjacent .outgoing none origin.id ∧
      incoming.map (·.id) = s.graph.adjacent .incoming none origin.id := by
  have here := (Graph.find_sound wf found).1
  obtain ⟨outgoing, forward, outgoingKnown, outgoingIds⟩ := neighborSummaries_eq wf here .outgoing
  obtain ⟨incoming, backward, incomingKnown, incomingIds⟩ := neighborSummaries_eq wf here .incoming
  refine ⟨outgoing, incoming, ?_, ?_, outgoingIds, incomingIds⟩
  · rw [detail, found]
    simp only [bind, Except.bind, forward, backward]
    rfl
  · intro n hn
    rcases List.mem_append.mp hn with hn | hn
    · exact outgoingKnown n hn
    · exact incomingKnown n hn

theorem answersQueries_of_wellFormed (wf : s.graph.WellFormed)
    (counted : ∀ n ∈ s.graph.nodes, n.total < 2 ^ 32) : s.AnswersQueries where
  search := search_eq wf counted
  found _ _ found := Graph.find_sound wf found
  ids _ := Graph.find_id_eq_absent_iff wf
  files _ hn file _ named := Graph.find_of_file wf hn file named
  absent target fault missed := by
    refine ⟨Graph.absent_of_find missed, ?_, ?_⟩
    · rw [detail, missed]
      rfl
    · intro query cap
      rw [Snapshot.impact, missed]
      rfl
  impact _ _ found query cap := impact_eq wf found query cap
  detail _ _ found := detail_eq wf found

end Snapshot

/-- The fault lies with the request. -/
def Fault.OfCaller (fault : Fault) : Prop := fault.kind = .notFound ∨ fault.kind = .invalidArgument

theorem NodeRef.absent_ofCaller (target : NodeRef) : target.absent.OfCaller := by
  cases target <;> exact .inl rfl

namespace Snapshot.AnswersQueries

variable {s : Snapshot}

theorem search_failsOnly (answers : s.AnswersQueries) (text : String) (limit offset : Nat) :
    FailsOnly Fault.OfCaller (s.search text limit offset) := by
  obtain ⟨ranked, _, pages⟩ := answers.search text
  rw [pages]
  split
  · exact .error (.inr rfl)
  · split
    · exact .error (.inr rfl)
    · exact .ok _

theorem impact_failsOnly (answers : s.AnswersQueries) (target : NodeRef) (query : ImpactQuery)
    (cap : Nat) : FailsOnly Fault.OfCaller (s.impact target query cap) := by
  cases found : s.graph.find target with
  | error fault =>
    obtain ⟨rfl, _, missed⟩ := answers.absent target fault found
    rw [missed]
    exact .error target.absent_ofCaller
  | ok origin =>
    obtain ⟨refused, answered⟩ := answers.impact target origin found query cap
    by_cases zero : query.maxDepth = some 0
    · rw [refused zero]
      exact .error (.inr rfl)
    · obtain ⟨reached, _, answer, _⟩ := answered zero
      rw [answer]
      exact .ok _

theorem detail_failsOnly (answers : s.AnswersQueries) (target : NodeRef) :
    FailsOnly Fault.OfCaller (s.detail target) := by
  cases found : s.graph.find target with
  | error fault =>
    obtain ⟨rfl, missed, _⟩ := answers.absent target fault found
    rw [missed]
    exact .error target.absent_ofCaller
  | ok origin =>
    obtain ⟨outgoing, incoming, answer, _⟩ := answers.detail target origin found
    rw [answer]
    exact .ok _

end Snapshot.AnswersQueries

theorem NodeRef.ofParts_failsOnly (path id : Option String) :
    FailsOnly Fault.OfCaller (NodeRef.ofParts path id) := by
  cases path with
  | some path => cases id <;> first | exact .ok _ | exact .error (.inr rfl)
  | none =>
    cases id with
    | none => exact .error (.inr rfl)
    | some text =>
      have parsed : FailsOnly Fault.OfCaller (NodeId.parse text) := by
        unfold NodeId.parse
        split
        · exact .ok _
        · exact .error (.inr rfl)
      exact parsed.map

namespace Http

def ErrorReply.OfCaller (e : ErrorReply) : Prop := e.kind = .notFound ∨ e.kind = .invalidArgument

theorem orArgument_failsOnly {α : Type} (x : Except ArgumentFault α) :
    FailsOnly ErrorReply.OfCaller (orArgument x) :=
  FailsOnly.mapError (fun _ _ => trivial : FailsOnly (fun _ => True) x) fun _ _ => .inr rfl

theorem orFault_failsOnly {α : Type} {x : Except Fault α} (h : FailsOnly Fault.OfCaller x) :
    FailsOnly ErrorReply.OfCaller (orFault x) := by
  refine h.mapError ?_
  intro fault kind
  unfold ErrorReply.ofFault
  rcases kind with kind | kind
  · rw [kind]
    exact .inl rfl
  · rw [kind]
    exact .inr rfl

theorem query_failsOnly (p : ImpactParameters) : FailsOnly Fault.OfCaller p.query := by
  have direction : ∀ name, FailsOnly Fault.OfCaller (Direction.parse name) := by
    intro name
    unfold Direction.parse
    split
    · exact .ok _
    · exact .error (.inr rfl)
  have relation : ∀ name, FailsOnly Fault.OfCaller (Relation.parse name) := by
    intro name
    unfold Relation.parse
    split
    · exact .ok _
    · exact .error (.inr rfl)
  unfold ImpactParameters.query
  cases p.direction with
  | none => exact .bind (.ok _) fun _ => .bind (.mapM relation _) fun _ => .ok _
  | some name => exact .bind (direction name) fun _ => .bind (.mapM relation _) fun _ => .ok _

/-- The endpoints that are read fail for what the caller asked for alone. -/
theorem read_failsOnly {s : Scheduler} (answers : s.served.AnswersQueries) {cap : Nat} {r : Request}
    {handled : Handled} (known : read? s cap r = some handled) :
    FailsOnly ErrorReply.OfCaller handled := by
  unfold read? at known
  split at known
  · cases known
    exact .ok _
  · split at known
    · cases known
      refine .bind (orArgument_failsOnly _) fun parameters => ?_
      cases parameters.text with
      | none => exact .error (.inr rfl)
      | some text => exact .bind (orFault_failsOnly (answers.search_failsOnly _ _ _)) fun _ => .ok _
    · split at known
      · cases known
        refine .bind (orArgument_failsOnly _) fun parameters => ?_
        refine .bind (orFault_failsOnly (NodeRef.ofParts_failsOnly _ _)) fun target => ?_
        refine .bind (orFault_failsOnly (query_failsOnly _)) fun query => ?_
        exact .bind (orFault_failsOnly (answers.impact_failsOnly _ _ _)) fun _ => .ok _
      · split at known
        · cases known
          refine .bind (orArgument_failsOnly _) fun parameters => ?_
          refine .bind (orFault_failsOnly (NodeRef.ofParts_failsOnly _ _)) fun target => ?_
          exact .bind (orFault_failsOnly (answers.detail_failsOnly _)) fun _ => .ok _
        · cases known

theorem status_of_failsOnly {handled : Handled} (h : FailsOnly ErrorReply.OfCaller handled) :
    (Reply.of 200 handled).status ≠ 500 := by
  cases handled with
  | ok body => exact (by decide : 200 ≠ 500)
  | error e =>
    have kind := h e rfl
    rw [Reply.of, ErrorReply.reply, ErrorReply.status]
    rcases kind with kind | kind <;> simp [kind]

theorem dispatch_status {s : Scheduler} (answers : s.served.AnswersQueries) (cap : Nat) {r : Request}
    (reads : r.path ≠ "/rebuild") : (dispatch s cap r).2.status ≠ 500 := by
  rw [dispatch, if_neg reads]
  split
  · next handled known =>
    split
    · exact status_of_failsOnly (read_failsOnly answers known)
    · exact (by decide : 405 ≠ 500)
  · exact (by decide : 404 ≠ 500)

theorem answer_status {s : Scheduler} (answers : s.served.AnswersQueries) (cap : Nat) {r : Request}
    (reads : r.path ≠ "/rebuild") : (answer s cap r).2.status ≠ 500 := by
  unfold answer
  split
  · exact (by decide : 200 ≠ 500)
  · split
    · exact dispatch_status answers cap reads
    · exact dispatch_status answers cap reads

end Http

/-- Of every snapshot that can be made, whatever calls made its graph: its queries fail for the request
alone, and no request but one for a rebuild is answered with an internal error. A reference leads nowhere
if it names no node or its path was given up, and the latter never happens as long as no node is put again
under another path. -/
theorem queries_fail_for_requests (calls : List Call) (version : UInt64) (records : List Record)
    (warnings : List Warning) (stats : Stats)
    (counted : ∀ n ∈ (Graph.after calls).nodes, n.total < 2 ^ 32) :
    let s := Snapshot.new version (Graph.after calls) records warnings stats
    s.AnswersQueries ∧
    (∀ target, s.graph.find target = .error target.absent ↔
      (∀ n ∈ s.graph.nodes, ¬ target.Names n) ∨
        Graph.LeftBehind (Graph.empty.placedNodes calls) target) ∧
    (Graph.KeepsPaths (Graph.empty.placedNodes calls) → ∀ target,
      s.graph.find target = .error target.absent ↔ ∀ n ∈ s.graph.nodes, ¬ target.Names n) ∧
    ∀ (scheduler : Scheduler) (cap : Nat) (r : Http.Request), scheduler.served = s →
      r.path ≠ "/rebuild" → (Http.answer scheduler cap r).2.status ≠ 500 := by
  intro s
  have wf : s.graph.WellFormed := Graph.after_wellFormed calls
  have answers : s.AnswersQueries := Snapshot.answersQueries_of_wellFormed wf counted
  have absent : ∀ target, s.graph.find target = .error target.absent ↔ _ ∨ _ :=
    Graph.find_eq_absent_iff (Graph.reached_after calls)
  refine ⟨answers, absent, ?_, ?_⟩
  · intro keeps target
    rw [absent, or_iff_left (Graph.not_leftBehind keeps target)]
  · intro scheduler cap r serves reads
    exact Http.answer_status (serves ▸ answers) cap reads

theorem ranked_queries_fail_for_requests :
    let s := Snapshot.ofGraph 1 (Graph.after rankedCalls)
    (∀ n ∈ s.graph.nodes, n.total < 2 ^ 32) ∧ s.AnswersQueries ∧
    s.graph.find (.path "./leaf.rs") = .error (.pathNotFound "leaf.rs") ∧
    (∃ n, s.graph.find (.path "./tree.rs") = .ok n ∧ n.id = NodeId.of .file "tree.rs") ∧
    ∀ cap, (Http.answer (.start s) cap ⟨"GET", "/node", "id=0"⟩).2.status ≠ 500 := by
  have counted : ∀ n ∈ (Graph.after rankedCalls).nodes, n.total < 2 ^ 32 := by decide +kernel
  have keeps : Graph.KeepsPaths (Graph.empty.placedNodes rankedCalls) := by
    unfold Graph.KeepsPaths
    decide +kernel
  obtain ⟨answers, _, paths, statuses⟩ := queries_fail_for_requests rankedCalls 1 [] [] .zero counted
  have nowhere := (paths keeps (.path "./leaf.rs")).mpr (by decide +kernel)
  obtain ⟨n, hn, file, named, id⟩ : ∃ n ∈ (Graph.after rankedCalls).nodes, n.kind = .file ∧
      (NodeRef.path "./tree.rs").Names n ∧ n.id = NodeId.of .file "tree.rs" := by decide +kernel
  exact ⟨counted, answers, nowhere, ⟨n, answers.files n hn file _ named, id⟩,
    fun cap => statuses _ cap _ rfl (by decide)⟩

/-- A file that moves away from a path, which a symbol has as well. -/
def movedCalls : List Call :=
  [.nodes [{ Node.new .file "a.rs" with id := ⟨1⟩ }, { Node.new .symbol "a.rs" with id := ⟨2⟩ }],
    .nodes [{ Node.new .file "b.rs" with id := ⟨1⟩ }]]

/-- The file gives the path up, and the symbol is not asked for by it from then on. -/
theorem moved_file_hides_symbol :
    let s := Snapshot.ofGraph 1 (Graph.after movedCalls)
    (∀ n ∈ s.graph.nodes, n.total < 2 ^ 32) ∧
    (∃ n ∈ s.graph.nodes, (NodeRef.path "a.rs").Names n) ∧
    s.detail (.path "a.rs") = .error (.pathNotFound "a.rs") ∧
    s.impact (.path "a.rs") ⟨.both, none, none⟩ defaultDepthCap = .error (.pathNotFound "a.rs") := by
  decide +kernel

end SourceAtlas
