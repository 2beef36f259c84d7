import SourceAtlas.Extraction
import SourceAtlas.Fault
import SourceAtlas.Language
import SourceAtlas.Term
import SourceAtlas.TextMap

/-! The graph of a source tree. Nodes and links are listed in the order in which they were first
put; a link's ends are always present, and an index tells which node answers to a path.

Nodes are told apart by their ids, so putting a node again replaces it where it stands. Links are
told apart by their ends and relation, and the first of several stays. -/
namespace SourceAtlas

/-- Attributes that are shown but never followed. -/
structure Metadata where
  language : Option Language
  size : Option UInt64
  fingerprint : Option Fingerprint
  symbolKind : Option SymbolKind
  line : Option UInt32
  parseErrors : Bool
  extra : TextMap String
  deriving DecidableEq

def Metadata.none : Metadata := ⟨.none, .none, .none, .none, .none, false, .empty⟩

structure Node where
  id : NodeId
  path : String
  kind : NodeKind
  /-- How often each search term occurs. -/
  tokens : TextMap UInt32
  metadata : Metadata
  deriving DecidableEq

namespace Node

def new (kind : NodeKind) (path : String) : Node :=
  ⟨NodeId.of kind path, path, kind, .empty, .none⟩

def addTerm (node : Node) (term : String) : Node :=
  { node with tokens := node.tokens.insert term ((node.tokens.get? term).getD 0 + 1) }

/-- Counts every term of the text. -/
def addTerms (node : Node) (text : String) : Node := (Term.tokenize text).foldl addTerm node

end Node

structure Link where
  source : NodeId
  target : NodeId
  relation : Relation
  line : Option UInt32
  deriving DecidableEq, Repr

/-- What tells links apart. -/
def Link.key (l : Link) : NodeId × NodeId × Relation := (l.source, l.target, l.relation)

structure Graph where
  nodes : List Node
  links : List Link
  /-- For every path the node that answers to it. -/
  paths : TextMap NodeId
  deriving DecidableEq

namespace Graph

def empty : Graph := ⟨[], [], .empty⟩

instance : Inhabited Graph := ⟨empty⟩

def node? (g : Graph) (id : NodeId) : Option Node := g.nodes.find? (·.id = id)

def contains (g : Graph) (id : NodeId) : Bool := g.nodes.any (·.id = id)

def getNode (g : Graph) (id : NodeId) : Except Fault Node :=
  match g.node? id with
  | some node => .ok node
  | none => .error (.nodeNotFound id)

def kind? (g : Graph) (id : NodeId) : Option NodeKind := (g.node? id).map (·.kind)

/-- Replaces the node of the same id where it stands, or adds the node at the end. -/
def placeNode (node : Node) : List Node → List Node
  | [] => [node]
  | n :: rest => if n.id = node.id then node :: rest else n :: placeNode node rest

/-- Another file already answers to the path of this file. -/
def pathTaken (g : Graph) (node : Node) : Bool :=
  match g.paths.get? node.path with
  | some owner => owner ≠ node.id && node.kind = .file && g.kind? owner = some .file
  | none => false

/-- The index after the path that a replaced node answered to has been given up. -/
def releasedPaths (g : Graph) (node : Node) : TextMap NodeId :=
  match g.node? node.id with
  | some old =>
    if old.path ≠ node.path ∧ g.paths.get? old.path = some node.id then g.paths.erase old.path
    else g.paths
  | none => g.paths

/-- A file always takes its path; another node only a path that is free. -/
def claimPath (paths : TextMap NodeId) (node : Node) : TextMap NodeId :=
  if node.kind = .file || !paths.contains node.path then paths.insert node.path node.id else paths

def put (g : Graph) (node : Node) : Except Fault Graph :=
  if g.pathTaken node then .error (.duplicatePath node.path)
  else .ok
    { nodes := placeNode node g.nodes
      links := g.links
      paths := claimPath (g.releasedPaths node) node }

def hasLink (g : Graph) (key : NodeId × NodeId × Relation) : Bool := g.links.any (·.key = key)

def putLink (g : Graph) (link : Link) : Except Fault Graph :=
  if g.contains link.source && g.contains link.target then
    .ok (if g.hasLink link.key then g else { g with links := g.links ++ [link] })
  else .error (.danglingLink link.source link.target)

/-- Puts items one by one. At the first fault the rest is left out and what came before stays. -/
def putEach {α : Type} (put : Graph → α → Except Fault Graph) (g : Graph) :
    List α → Graph × Option Fault
  | [] => (g, none)
  | x :: rest =>
    match put g x with
    | .ok g => putEach put g rest
    | .error fault => (g, some fault)

def putNodes (g : Graph) (nodes : List Node) : Graph × Option Fault := g.putEach put nodes

def putLinks (g : Graph) (links : List Link) : Graph × Option Fault := g.putEach putLink links

/-- The text without the `./` that it may open with, any number of times. -/
def dropDotSlash : List Char → List Char
  | '.' :: '/' :: rest => dropDotSlash rest
  | cs => cs

def getNodeByPath (g : Graph) (path : String) : Except Fault Node :=
  let path := String.ofList (dropDotSlash path.toList)
  match (g.paths.get? path).bind g.node? with
  | some node => .ok node
  | none => .error (.pathNotFound path)

end Graph

end SourceAtlas
