import SourceAtlas.Graph.Basic

/-! A snapshot is the graph of one build together with what the build learned about each file. -/
namespace SourceAtlas

/-- What one build learned about one file. -/
structure Record where
  path : String
  language : Language
  size : UInt64
  fingerprint : Fingerprint
  symbols : List Symbol
  dependencies : List Dependency
  docTerms : List String
  parseErrors : Bool
  deriving DecidableEq, Repr

/-- A file that a build left out, and why. -/
structure Warning where
  path : String
  message : String
  deriving DecidableEq, Repr

structure Stats where
  filesSeen : UInt64
  parsed : UInt64
  reused : UInt64
  skipped : UInt64
  unresolved : UInt64
  elapsedMs : UInt64
  deriving DecidableEq, Repr

def Stats.zero : Stats := ⟨0, 0, 0, 0, 0, 0⟩

structure Snapshot where
  version : UInt64
  graph : Graph
  /-- By path. -/
  records : TextMap Record
  warnings : List Warning
  stats : Stats
  deriving DecidableEq

namespace Snapshot

/-- Of several records of one path the last is kept. -/
def new (version : UInt64) (graph : Graph) (records : List Record) (warnings : List Warning)
    (stats : Stats) : Snapshot :=
  ⟨version, graph, TextMap.ofList (records.map fun r => (r.path, r)), warnings, stats⟩

def ofGraph (version : UInt64) (graph : Graph) : Snapshot := new version graph [] [] .zero

def empty : Snapshot := ofGraph 0 .empty

instance : Inhabited Snapshot := ⟨empty⟩

end Snapshot

end SourceAtlas
