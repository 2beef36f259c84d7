import SourceAtlas.Build.Assembly
import SourceAtlas.Build.Discovery
import SourceAtlas.Extract

/-! Builds. Files that are unchanged since the previous snapshot keep their records; all others are
read again. The graph is then assembled from all records, so links to files that are gone are gone
with them. -/
namespace SourceAtlas

/-- What became of a candidate. -/
inductive FileOutcome where
  | reused (record : Record)
  | parsed (record : Record)
  | skipped (warning : Warning)
  deriving DecidableEq, Repr

namespace FileOutcome

def record? : FileOutcome → Option Record
  | .reused r | .parsed r => some r
  | .skipped _ => none

def warning? : FileOutcome → Option Warning
  | .skipped w => some w
  | _ => none

def isReused : FileOutcome → Bool
  | .reused _ => true
  | _ => false

def isParsed : FileOutcome → Bool
  | .parsed _ => true
  | _ => false

end FileOutcome

def Snapshot.record? (s : Snapshot) (path : String) : Option Record := s.records.get? path

namespace Candidate

/-- Whether a record was made from this content in this language. -/
def isSourceOf (c : Candidate) (r : Record) : Bool :=
  c.data.content?.any fun content =>
    r.fingerprint = Fingerprint.of content && r.language = c.language

/-- The record of the previous snapshot, if it is still good. -/
def reusable? (c : Candidate) (previous : Option Snapshot) : Option Record :=
  (previous.bind (·.record? c.path)).filter c.isSourceOf

def skip (c : Candidate) (message : String) : FileOutcome := .skipped ⟨c.path, message⟩

/-- The record of a content. -/
def record (c : Candidate) (content : Bytes) (e : Extraction) : Record :=
  ⟨c.path, c.language, .ofNat content.length, Fingerprint.of content, e.symbols, e.dependencies,
    e.docTerms, e.parseErrors⟩

variable [Tools]

def parseContent (c : Candidate) (content : Bytes) : FileOutcome :=
  match Text.ofUtf8? content with
  | none => c.skip "file is not valid UTF-8"
  | some source =>
    match Extraction.ofSource? c.language c.path source with
    | none => c.skip ("no extractor for " ++ c.language.title)
    | some (.error cause) => c.skip ("cannot parse: " ++ cause)
    | some (.ok e) => .parsed (c.record content e)

def parse (c : Candidate) : FileOutcome :=
  match c.data with
  | .readable content => c.parseContent content
  | .unreadable _ cause | .unknown cause => c.skip ("cannot read file: " ++ cause)

def process (previous : Option Snapshot) (c : Candidate) : FileOutcome :=
  match c.reusable? previous with
  | some r => .reused r
  | none => c.parse

end Candidate

def Warning.le (a b : Warning) : Bool := a.path ≤ b.path

/-- The version above the previous one, counted from 1. There is none above the last word. -/
def nextVersion (previous : Option Snapshot) : Except Fault UInt64 :=
  match previous with
  | some s => if s.version.toNat + 1 < UInt64.size then .ok (s.version + 1) else .error .overflow
  | none => .ok 1

variable [Tools]

/-- The snapshot of what was discovered. -/
def Discovery.build (d : Discovery) (previous : Option Snapshot) : Except Fault Snapshot := do
  let outcomes := d.candidates.map (Candidate.process previous)
  let records := outcomes.filterMap FileOutcome.record?
  let refused := outcomes.filterMap FileOutcome.warning?
  let assembly := Assembly.ofRecords d.listing d.crates records
  let stats : Stats :=
    { filesSeen := .ofNat (d.candidates.length + d.skipped)
      parsed := .ofNat (outcomes.countP FileOutcome.isParsed)
      reused := .ofNat (outcomes.countP FileOutcome.isReused)
      skipped := .ofNat (d.skipped + refused.length)
      unresolved := .ofNat assembly.unresolved
      elapsedMs := 0 }
  let graph ← assembly.graph
  let version ← nextVersion previous
  return Snapshot.new version graph records ((d.warnings ++ refused).mergeSort Warning.le) stats

/-- Builds a directory of a tree. It fails if there is no such directory, if a pattern is no pattern,
and if there is nothing to index. -/
def SourceTree.build (t : SourceTree) (config : BuildConfig) (root : BuildRoot)
    (previous : Option Snapshot) : Except Fault Snapshot :=
  if !t.isDirectory root.path then .error (.buildFailure (.notDirectory root.title))
  else
    match t.discover config root with
    | .error cause => .error (.buildFailure cause)
    | .ok d =>
      if d.candidates.isEmpty then .error (.buildFailure (.nothingIndexable root.title))
      else d.build previous

/-- The paths whose records a snapshot shares with the one before it. -/
def Snapshot.shared (s previous : Snapshot) : List String :=
  (s.records.values.filter fun r =>
    (previous.record? r.path).any fun old =>
      old.fingerprint = r.fingerprint && old.language = r.language).map (·.path)

end SourceAtlas
