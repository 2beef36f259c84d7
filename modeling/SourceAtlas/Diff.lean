import SourceAtlas.Graph.Neighbor
import SourceAtlas.Snapshot

/-! What changed between two snapshots. Nodes are compared by id and links by their keys; the ids
are listed in ascending order, the links in the order of their graph. -/
namespace SourceAtlas

structure Diff where
  fromVersion : UInt64
  toVersion : UInt64
  addedNodes : List NodeId
  removedNodes : List NodeId
  modifiedNodes : List NodeId
  addedLinks : List Link
  removedLinks : List Link
  deriving DecidableEq

/-- The links of `g` whose key is not one of `other`. -/
def Graph.linksMissingFrom (g other : Graph) : List Link :=
  g.links.filter fun l => !other.hasLink l.key

/-- The ids in ascending order, each as often as it is listed. -/
def sortedIds (ids : List NodeId) : List NodeId := ids.mergeSort fun a b => a.val ≤ b.val

namespace Diff

def between (old new : Snapshot) : Diff where
  fromVersion := old.version
  toVersion := new.version
  addedNodes := sortedIds
    ((new.graph.nodes.filter fun n => (old.graph.node? n.id).isNone).map (·.id))
  removedNodes := sortedIds
    ((old.graph.nodes.filter fun n => (new.graph.node? n.id).isNone).map (·.id))
  modifiedNodes := sortedIds
    ((new.graph.nodes.filter fun n =>
      match old.graph.node? n.id with
      | some previous => previous ≠ n
      | none => false).map (·.id))
  addedLinks := new.graph.linksMissingFrom old.graph
  removedLinks := old.graph.linksMissingFrom new.graph

def isEmpty (d : Diff) : Bool :=
  d.addedNodes.isEmpty && d.removedNodes.isEmpty && d.modifiedNodes.isEmpty &&
    d.addedLinks.isEmpty && d.removedLinks.isEmpty

/-- The changed nodes and the nodes that changed links start from. -/
def touchedNodes (d : Diff) : List NodeId :=
  ascendingIds (d.addedNodes ++ d.removedNodes ++ d.modifiedNodes ++
    (d.addedLinks ++ d.removedLinks).map (·.source))

end Diff

end SourceAtlas
