import SourceAtlas.Snapshot
import SourceAtlas.Snapshot.Format

/-! The stored form of a snapshot: a format number, the version, nodes and links in the order of the
graph, records by path, warnings and counters. Reading ignores what follows the last field and
takes bytes of any other shape or format number for no snapshot at all; the stored nodes and links
are then put into an empty graph, which may refuse them. -/
namespace SourceAtlas

namespace Format

def nodeId : Format NodeId := text.through NodeId.toText NodeId.ofText?

def fingerprint : Format Fingerprint := u64.through (·.val) fun n => some ⟨n⟩

def language : Format Language := choice Language.all

def symbolKind : Format SymbolKind := choice SymbolKind.all

def relation : Format Relation := choice Relation.all

def metadata : Format Metadata :=
  (pair (option language) (pair (option u64) (pair (option fingerprint)
    (pair (option symbolKind) (pair (option u32) (pair bool (map text))))))).through
    (fun m => (m.language, m.size, m.fingerprint, m.symbolKind, m.line, m.parseErrors, m.extra))
    fun (language, size, fingerprint, symbolKind, line, parseErrors, extra) =>
      some ⟨language, size, fingerprint, symbolKind, line, parseErrors, extra⟩

def node : Format Node :=
  (pair nodeId (pair text (pair (choice NodeKind.all) (pair (map u32) metadata)))).through
    (fun n => (n.id, n.path, n.kind, n.tokens, n.metadata))
    fun (id, path, kind, tokens, metadata) => some ⟨id, path, kind, tokens, metadata⟩

def link : Format Link :=
  (pair nodeId (pair nodeId (pair relation (option u32)))).through
    (fun l => (l.source, l.target, l.relation, l.line))
    fun (source, target, relation, line) => some ⟨source, target, relation, line⟩

def symbol : Format Symbol :=
  (pair text (pair symbolKind u32)).through (fun s => (s.name, s.kind, s.line))
    fun (name, kind, line) => some ⟨name, kind, line⟩

def specBody : UInt32 → Bytes → Option (Spec × Bytes)
  | 0, bytes => do
    let ((name, inline), rest) ← (pair text (list text)).decode bytes
    return (.rustMod name inline, rest)
  | 1, bytes => do
    let (segments, rest) ← (list text).decode bytes
    return (.rustUse segments, rest)
  | 2, bytes => do
    let ((module, names, level), rest) ← (pair text (pair (list text) u32)).decode bytes
    return (.pythonImport module names level, rest)
  | 3, bytes => do
    let (specifier, rest) ← text.decode bytes
    return (.jsImport specifier, rest)
  | 4, bytes => do
    let ((header, system), rest) ← (pair text bool).decode bytes
    return (.cInclude header system, rest)
  | 5, bytes => do
    let (target, rest) ← text.decode bytes
    return (.docLink target, rest)
  | _, _ => none

/-- A word tells the form of the dependency; its parts follow in order. -/
def spec : Format Spec where
  encode
    | .rustMod name inline => u32.encode 0 ++ (pair text (list text)).encode (name, inline)
    | .rustUse segments => u32.encode 1 ++ (list text).encode segments
    | .pythonImport module names level =>
      u32.encode 2 ++ (pair text (pair (list text) u32)).encode (module, names, level)
    | .jsImport specifier => u32.encode 3 ++ text.encode specifier
    | .cInclude header system => u32.encode 4 ++ (pair text bool).encode (header, system)
    | .docLink target => u32.encode 5 ++ text.encode target
  decode bytes := do
    let (form, rest) ← u32.decode bytes
    specBody form rest

def dependency : Format Dependency :=
  (pair spec u32).through (fun d => (d.spec, d.line)) fun (spec, line) => some ⟨spec, line⟩

def record : Format Record :=
  (pair text (pair language (pair u64 (pair fingerprint (pair (list symbol)
    (pair (list dependency) (pair (list text) bool))))))).through
    (fun r => (r.path, r.language, r.size, r.fingerprint, r.symbols, r.dependencies, r.docTerms,
      r.parseErrors))
    fun (path, language, size, fingerprint, symbols, dependencies, docTerms, parseErrors) =>
      some ⟨path, language, size, fingerprint, symbols, dependencies, docTerms, parseErrors⟩

def warning : Format Warning :=
  (pair text text).through (fun w => (w.path, w.message))
    fun (path, message) => some ⟨path, message⟩

def stats : Format Stats :=
  (pair u64 (pair u64 (pair u64 (pair u64 (pair u64 u64))))).through
    (fun s => (s.filesSeen, s.parsed, s.reused, s.skipped, s.unresolved, s.elapsedMs))
    fun (filesSeen, parsed, reused, skipped, unresolved, elapsedMs) =>
      some ⟨filesSeen, parsed, reused, skipped, unresolved, elapsedMs⟩

end Format

/-- The fields of a stored snapshot, before its nodes and links form a graph. -/
structure Stored where
  format : UInt32
  version : UInt64
  nodes : List Node
  links : List Link
  records : List Record
  warnings : List Warning
  stats : Stats
  deriving DecidableEq

def Format.stored : Format Stored :=
  (pair u32 (pair u64 (pair (list node) (pair (list link) (pair (list record)
    (pair (list warning) stats)))))).through
    (fun s => (s.format, s.version, s.nodes, s.links, s.records, s.warnings, s.stats))
    fun (format, version, nodes, links, records, warnings, stats) =>
      some ⟨format, version, nodes, links, records, warnings, stats⟩

def storedFormat : UInt32 := 2

namespace Snapshot

def toStored (s : Snapshot) : Stored :=
  ⟨storedFormat, s.version, s.graph.nodes, s.graph.links, s.records.values, s.warnings, s.stats⟩

def toBytes (s : Snapshot) : Bytes := Format.stored.encode s.toStored

def ofStored (stored : Stored) : Except Fault Snapshot :=
  match Graph.empty.putNodes stored.nodes with
  | (_, some fault) => .error fault
  | (graph, none) =>
    match graph.putLinks stored.links with
    | (_, some fault) => .error fault
    | (graph, none) =>
      .ok (Snapshot.new stored.version graph stored.records stored.warnings stored.stats)

/-- The snapshot that the bytes store, if they store one. -/
def ofBytes? (bytes : Bytes) : Except Fault (Option Snapshot) :=
  match Format.stored.decode bytes with
  | some (stored, _) =>
    if stored.format = storedFormat then (ofStored stored).map some else .ok none
  | none => .ok none

end Snapshot

end SourceAtlas
