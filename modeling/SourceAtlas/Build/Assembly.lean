import SourceAtlas.Resolve
import SourceAtlas.Snapshot

/-! The graph of a set of records: a node for every file and every symbol, a node for every outside
name, and a link for every symbol and every dependency that leads somewhere. -/
namespace SourceAtlas

/-- What one answer of a resolution is for the graph. -/
inductive Reference where
  /-- Another file of the graph. -/
  | file (path : String)
  | outside (name : String)
  /-- The file refers to itself. -/
  | itself
  /-- Nothing, or a file that is not in the graph. -/
  | unresolved
  deriving DecidableEq, Repr

def Reference.ofResolution (indexed : List String) (origin : String) : Resolution → Reference
  | .internal path =>
    if path = origin then .itself else if indexed.contains path then .file path else .unresolved
  | .external name => .outside name
  | .missing => .unresolved

def Reference.target? : Reference → Option NodeId
  | .file path => some (NodeId.of .file path)
  | .outside name => some (NodeId.of .external name)
  | .itself | .unresolved => none

namespace Record

def fileNode (r : Record) : Node :=
  let node := (Node.new .file r.path).addTerms r.path
  let node := (r.symbols.map (·.name)).foldl Node.addTerms node
  let node := r.docTerms.foldl Node.addTerms node
  { node with
    metadata := { Metadata.none with
      language := some r.language
      size := some r.size
      fingerprint := some r.fingerprint
      parseErrors := r.parseErrors } }

def symbolPath (r : Record) (s : Symbol) : String := r.path ++ "#" ++ s.name

def symbolNode (r : Record) (s : Symbol) : Node :=
  { (Node.new .symbol (r.symbolPath s)).addTerms s.name with
    metadata := { Metadata.none with
      language := some r.language, symbolKind := some s.kind, line := some s.line } }

def nodes (r : Record) : List Node := r.fileNode :: r.symbols.map r.symbolNode

/-- Every dependency with each of its answers. -/
def references (resolver : Resolver) (indexed : List String) (r : Record) :
    List (Dependency × Reference) :=
  r.dependencies.flatMap fun d =>
    (resolver.resolve r.path d.spec).map fun answer =>
      (d, Reference.ofResolution indexed r.path answer)

def id (r : Record) : NodeId := NodeId.of .file r.path

def symbolLink (r : Record) (s : Symbol) : Link :=
  ⟨r.id, NodeId.of .symbol (r.symbolPath s), .defines, some s.line⟩

def dependencyLink? (r : Record) (entry : Dependency × Reference) : Option Link :=
  entry.2.target?.map fun target => ⟨r.id, target, entry.1.spec.relation, some entry.1.line⟩

def links (resolver : Resolver) (indexed : List String) (r : Record) : List Link :=
  r.symbols.map r.symbolLink ++ (r.references resolver indexed).filterMap r.dependencyLink?

/-- The outside names that a record refers to. -/
def outsideNames (resolver : Resolver) (indexed : List String) (r : Record) : List String :=
  (r.references resolver indexed).filterMap fun entry =>
    match entry.2 with
    | .outside name => some name
    | _ => none

def unresolved (resolver : Resolver) (indexed : List String) (r : Record) : Nat :=
  (r.references resolver indexed).countP fun entry => entry.2 = .unresolved

end Record

/-- An outside name carries the language of the first record that refers to it. -/
def outsideNode (language : Language) (name : String) : Node :=
  { (Node.new .external name).addTerms name with
    metadata := { Metadata.none with language := some language } }

def addOutside (known : TextMap Node) (entry : Language × String) : TextMap Node :=
  if known.contains entry.2 then known else known.insert entry.2 (outsideNode entry.1 entry.2)

/-- The parts of a graph in the order in which they are put into it. -/
structure Assembly where
  nodes : List Node
  outside : TextMap Node
  links : List Link
  unresolved : Nat

namespace Assembly

def ofRecords (listing : List String) (crates : TextMap String) (records : List Record) :
    Assembly :=
  let resolver : Resolver := ⟨listing, crates⟩
  let indexed := records.map (·.path)
  { nodes := records.flatMap Record.nodes
    outside := (records.flatMap fun r =>
      (r.outsideNames resolver indexed).map fun name => (r.language, name)).foldl addOutside .empty
    links := records.flatMap (Record.links resolver indexed)
    unresolved := (records.map (Record.unresolved resolver indexed)).foldr (· + ·) 0 }

def graph (a : Assembly) : Except Fault Graph :=
  match Graph.empty.putNodes a.nodes with
  | (_, some fault) => .error fault
  | (g, none) =>
    match g.putNodes a.outside.values with
    | (_, some fault) => .error fault
    | (g, none) =>
      match g.putLinks a.links with
      | (_, some fault) => .error fault
      | (g, none) => .ok g

end Assembly

end SourceAtlas
