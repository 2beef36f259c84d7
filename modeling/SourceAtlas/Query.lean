import SourceAtlas.Impact
import SourceAtlas.JsonValue
import SourceAtlas.Search
import SourceAtlas.Snapshot

/-! Queries. Each is answered from one snapshot alone, and names the nodes it finds by id, path and
kind. -/
namespace SourceAtlas

/-- How a node is asked for. -/
inductive NodeRef where
  | path (path : String)
  | id (id : NodeId)
  deriving DecidableEq, Repr

/-- Exactly one of path and id is given. -/
def NodeRef.ofParts (path id : Option String) : Except Fault NodeRef :=
  match path, id with
  | some path, none => .ok (.path path)
  | none, some id => (NodeId.parse id).map .id
  | some _, some _ => .error (.invalidArgument .twoReferences)
  | none, none => .error (.invalidArgument .noReference)

def Graph.find (g : Graph) : NodeRef → Except Fault Node
  | .path path => g.getNodeByPath path
  | .id id => g.getNode id

structure NodeSummary where
  id : NodeId
  path : String
  kind : NodeKind
  deriving DecidableEq, Repr

def Node.summary (n : Node) : NodeSummary := ⟨n.id, n.path, n.kind⟩

structure FoundNode where
  node : NodeSummary
  score : UInt32
  deriving DecidableEq, Repr

structure ReachedNode where
  node : NodeSummary
  distance : Nat
  deriving DecidableEq, Repr

structure NodeDetail where
  node : Node
  outgoing : List NodeSummary
  incoming : List NodeSummary
  deriving DecidableEq

structure SnapshotSummary where
  nodeCount : Nat
  linkCount : Nat
  version : UInt64
  warningCount : Nat
  deriving DecidableEq, Repr

namespace Snapshot

def summary (s : Snapshot) : SnapshotSummary :=
  ⟨s.graph.nodes.length, s.graph.links.length, s.version, s.warnings.length⟩

def search (s : Snapshot) (text : String) (limit offset : Nat) : Except Fault (List FoundNode) := do
  (← s.graph.search text limit offset).mapM fun hit => do
    return ⟨(← s.graph.getNode hit.id).summary, hit.score⟩

def impact (s : Snapshot) (target : NodeRef) (query : ImpactQuery) (cap : Nat) :
    Except Fault (List ReachedNode) := do
  (← s.graph.impact (← s.graph.find target).id query cap).mapM fun hit => do
    return ⟨(← s.graph.getNode hit.id).summary, hit.distance⟩

def neighborSummaries (s : Snapshot) (id : NodeId) (direction : Direction) :
    Except Fault (List NodeSummary) := do
  return (← s.graph.neighbors id direction none).map Node.summary

def detail (s : Snapshot) (target : NodeRef) : Except Fault NodeDetail := do
  let node ← s.graph.find target
  return ⟨node, ← s.neighborSummaries node.id .outgoing, ← s.neighborSummaries node.id .incoming⟩

end Snapshot

def NodeSummary.fields (n : NodeSummary) : List (String × JsonValue) :=
  [("node_id", .text n.id.toText), ("path", .text n.path), ("kind", .text n.kind.name)]

def NodeSummary.toJson (n : NodeSummary) : JsonValue := .object n.fields

def FoundNode.toJson (f : FoundNode) : JsonValue :=
  .object (f.node.fields ++ [("score", .number f.score.toNat)])

def ReachedNode.toJson (r : ReachedNode) : JsonValue :=
  .object (r.node.fields ++ [("distance", .number r.distance)])

def Metadata.toJson (m : Metadata) : JsonValue :=
  .object
    [("language", .ofOption (.text ·.name) m.language),
      ("size", .ofOption (.number ·.toNat) m.size),
      ("fingerprint", .ofOption (.number ·.val.toNat) m.fingerprint),
      ("symbol_kind", .ofOption (.text ·.name) m.symbolKind),
      ("line", .ofOption (.number ·.toNat) m.line),
      ("parse_errors", .flag m.parseErrors),
      ("extra", .object (m.extra.entries.map fun (key, value) => (key, .text value)))]

def Node.toJson (n : Node) : JsonValue :=
  .object
    [("id", .text n.id.toText), ("path", .text n.path), ("kind", .text n.kind.name),
      ("tokens", .object (n.tokens.entries.map fun (term, count) => (term, .number count.toNat))),
      ("metadata", n.metadata.toJson)]

def NodeDetail.toJson (d : NodeDetail) : JsonValue :=
  .object
    [("node", d.node.toJson), ("outgoing", .ofList NodeSummary.toJson d.outgoing),
      ("incoming", .ofList NodeSummary.toJson d.incoming)]

end SourceAtlas
