import SourceAtlas.Graph.Relation
import SourceAtlas.NodeId
import SourceAtlas.Text.Quoted

/-! Everything that can go wrong, by cause. Each fault belongs to one of four kinds, which is what a
caller is told besides the message. -/
namespace SourceAtlas

inductive ArgumentFault where
  | malformedId (text : String)
  | unknownRelation (name : String)
  | unknownDirection (name : String)
  | zeroLimit
  | limitAbove (most : Nat)
  | zeroDepth
  | noReference
  | twoReferences
  | noQuery
  | malformedQuery (detail : String)
  | other (message : String)
  deriving DecidableEq, Repr

inductive BuildFault where
  | notDirectory (root : String)
  | badPattern (pattern : String)
  /-- Each pattern is one, but they cannot be compiled together. -/
  | patternsTooLarge
  | nothingIndexable (root : String)
  | other (message : String)
  deriving DecidableEq, Repr

inductive Fault where
  | nodeNotFound (id : NodeId)
  | pathNotFound (path : String)
  | invalidArgument (cause : ArgumentFault)
  | buildFailure (cause : BuildFault)
  | danglingLink (source target : NodeId)
  | duplicatePath (path : String)
  | inputOutput
  /-- A sum went beyond its word; whatever was computing it goes down. -/
  | overflow
  | internal (message : String)
  deriving DecidableEq, Repr

inductive FaultKind where
  | notFound | invalidArgument | buildFailure | internal
  deriving DecidableEq, Repr

def FaultKind.name : FaultKind → String
  | .notFound => "not_found"
  | .invalidArgument => "invalid_argument"
  | .buildFailure => "build_failure"
  | .internal => "internal"

def ArgumentFault.message : ArgumentFault → String
  | .malformedId text => "malformed node id: " ++ Text.quoted text
  | .unknownRelation name => "unknown relation: " ++ Text.quoted (canonicalName name)
  | .unknownDirection name =>
    "direction must be incoming, outgoing or both, got " ++ Text.quoted (canonicalName name)
  | .zeroLimit => "limit must be positive"
  | .limitAbove most => "limit must be at most " ++ toString most
  | .zeroDepth => "max_depth must be at least 1"
  | .noReference => "missing \x60path\x60 or \x60id\x60"
  | .twoReferences => "pass either \x60path\x60 or \x60id\x60, not both"
  | .noQuery => "missing \x60q\x60"
  | .malformedQuery detail => "malformed query string: " ++ detail
  | .other message => message

def BuildFault.message : BuildFault → String
  | .notDirectory root => root ++ " is not a readable directory"
  | .badPattern pattern => "invalid exclude pattern \x60" ++ pattern ++ "\x60"
  | .patternsTooLarge => "failed to compile exclude patterns"
  | .nothingIndexable root => "no indexable files under " ++ root
  | .other message => message

namespace Fault

def message : Fault → String
  | .nodeNotFound id => "node not found: " ++ id.toText
  | .pathNotFound path => "no node at path: " ++ path
  | .invalidArgument cause => "invalid argument: " ++ cause.message
  | .buildFailure cause => "build failed: " ++ cause.message
  | .danglingLink source target =>
    "link " ++ source.toText ++ " -> " ++ target.toText ++ " references a node outside the snapshot"
  | .duplicatePath path => "two file nodes share the path " ++ path
  | .inputOutput => "I/O error"
  | .overflow => "attempt to add with overflow"
  | .internal message => "internal error: " ++ message

def kind : Fault → FaultKind
  | .nodeNotFound _ | .pathNotFound _ => .notFound
  | .invalidArgument _ => .invalidArgument
  | .buildFailure _ => .buildFailure
  | .danglingLink .. | .duplicatePath _ | .inputOutput | .overflow | .internal _ => .internal

end Fault

def NodeId.parse (text : String) : Except Fault NodeId :=
  match NodeId.ofText? text with
  | some id => .ok id
  | none => .error (.invalidArgument (.malformedId text))

def Relation.parse (name : String) : Except Fault Relation :=
  match Relation.ofName? name with
  | some r => .ok r
  | none => .error (.invalidArgument (.unknownRelation name))

def Direction.parse (name : String) : Except Fault Direction :=
  match Direction.ofName? name with
  | some d => .ok d
  | none => .error (.invalidArgument (.unknownDirection name))

end SourceAtlas
