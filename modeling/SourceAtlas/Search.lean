import SourceAtlas.Graph.Basic

/-! Ranked search. An index tells for every term which nodes have it and how often. A query adds up, node
by node, what the index says of the distinct terms of its text; nodes with none of the terms are not
found. Higher scores come first, then shorter paths, then lower ids. -/
namespace SourceAtlas

structure Hit where
  id : NodeId
  score : UInt32
  deriving DecidableEq, Repr

def mostHits : Nat := 1000

/-- A node that has a term, and how often it does. -/
structure Posting where
  id : NodeId
  count : UInt32
  deriving DecidableEq, Repr

structure SearchIndex where
  /-- The nodes that have a term, in the order of the graph. -/
  postings : TextMap (List Posting)
  /-- The bytes of every node's path, the latest entry of a node first. -/
  pathLengths : List (NodeId × Nat)
  deriving DecidableEq

namespace SearchIndex

def empty : SearchIndex := ⟨.empty, []⟩

def listing (index : SearchIndex) (term : String) : List Posting :=
  (index.postings.get? term).getD []

def addPosting (id : NodeId) (postings : TextMap (List Posting)) (entry : String × UInt32) :
    TextMap (List Posting) :=
  postings.insert entry.1 ((postings.get? entry.1).getD [] ++ [⟨id, entry.2⟩])

def addNode (index : SearchIndex) (node : Node) : SearchIndex where
  postings := node.tokens.entries.foldl (addPosting node.id) index.postings
  pathLengths := (node.id, node.path.utf8ByteSize) :: index.pathLengths

def ofNodes (nodes : List Node) : SearchIndex := nodes.foldl addNode empty

/-- A node that is not in the index comes behind all others. -/
def pathLength (index : SearchIndex) (id : NodeId) : Nat :=
  ((index.pathLengths.find? (·.1 = id)).map (·.2)).getD (UInt64.size - 1)

/-- The sum of two counts, if it is a word. -/
def addCounts (a b : UInt32) : Except Fault UInt32 :=
  if a.toNat + b.toNat < UInt32.size then .ok (a + b) else .error .overflow

/-- Adds a count to the score of its node, which is found by it if it was not before. -/
def credit (posting : Posting) : List Hit → Except Fault (List Hit)
  | [] => .ok [⟨posting.id, posting.count⟩]
  | hit :: rest =>
    if hit.id = posting.id then do return ⟨hit.id, ← addCounts hit.score posting.count⟩ :: rest
    else do return hit :: (← credit posting rest)

def creditAll (hits : List Hit) (postings : List Posting) : Except Fault (List Hit) :=
  postings.foldlM (fun hits posting => credit posting hits) hits

/-- The nodes that have one of the terms, in no order that matters. -/
def found (index : SearchIndex) (terms : List String) : Except Fault (List Hit) :=
  terms.foldlM (fun hits term => creditAll hits (index.listing term)) []

def ranksBefore (index : SearchIndex) (a b : Hit) : Bool :=
  b.score < a.score ||
    (a.score == b.score &&
      (index.pathLength a.id < index.pathLength b.id ||
        (index.pathLength a.id == index.pathLength b.id && a.id.val ≤ b.id.val)))

def ranking (index : SearchIndex) (text : String) : Except Fault (List Hit) := do
  return (← index.found (Term.distinct text)).mergeSort index.ranksBefore

/-- One page of the ranking. -/
def query (index : SearchIndex) (text : String) (limit offset : Nat) : Except Fault (List Hit) :=
  if limit = 0 then .error (.invalidArgument .zeroLimit)
  else if limit > mostHits then .error (.invalidArgument (.limitAbove mostHits))
  else do return ((← index.ranking text).drop offset).take limit

end SearchIndex

def Graph.search (g : Graph) (text : String) (limit offset : Nat) : Except Fault (List Hit) :=
  (SearchIndex.ofNodes g.nodes).query text limit offset

end SourceAtlas
