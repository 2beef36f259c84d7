import SourceAtlas.Command
import SourceAtlas.Query
import SourceAtlas.Rebuild
import SourceAtlas.Settings

/-! What the commands do to a tree and what they report. -/
namespace SourceAtlas

inductive CommandFault where
  | settings (cause : SettingsFault)
  | graph (cause : Fault)
  /-- The build went down. -/
  | buildLost
  | notCleared (root : String)
  | notBound (host : String) (port : Nat)
  deriving DecidableEq, Repr

def CommandFault.message : CommandFault → String
  | .settings cause => cause.message
  | .graph cause => cause.message
  | .buildLost => "build task failed"
  | .notCleared root => "failed to clear cache under " ++ root
  | .notBound host port => "failed to bind " ++ host ++ ":" ++ toString port

/-- A query that goes down takes the program with it. -/
def CommandFault.exitCode : CommandFault → Nat
  | .graph .overflow => 101
  | _ => 1

/-- What a command has to say when it succeeds. -/
inductive Report where
  | indexed (snapshot : Snapshot)
  | found (nodes : List FoundNode)
  | reached (nodes : List ReachedNode)
  | cleared

namespace Report

def line (parts : List String) : String := String.join parts ++ "\n"

def warningLine (w : Warning) : String := line ["warning: ", w.path, ": ", w.message]

/-- The counters of a build, which took so many milliseconds. -/
def countersLine (s : Stats) (milliseconds : String) : String :=
  line
    [toString s.filesSeen, " files seen, ", toString s.parsed, " parsed, ", toString s.reused,
      " reused, ", toString s.skipped, " skipped, ", toString s.unresolved,
      " unresolved references (", milliseconds, " ms)"]

def text (milliseconds : String) : Report → String
  | .indexed s =>
    line
        ["Snapshot v", toString s.version, ": ", toString s.summary.nodeCount, " nodes, ",
          toString s.summary.linkCount, " links"] ++
      countersLine s.stats milliseconds ++ String.join (s.warnings.map warningLine)
  | .found nodes => line [(JsonValue.ofList FoundNode.toJson nodes).render]
  | .reached nodes => line [(JsonValue.ofList ReachedNode.toJson nodes).render]
  | .cleared => line ["Cache cleared"]

end Report

/-- The directory that a command works on; its tree is the whole directory. -/
structure Workplace where
  tree : SourceTree
  /-- What messages call it. -/
  title : String
  /-- Its own name. -/
  name : String

namespace Workplace

def root (w : Workplace) : BuildRoot := ⟨"", w.title, w.name⟩

/-- The stored snapshot, if it can be used. -/
def stored? (w : Workplace) : Option Snapshot :=
  match w.tree.load with
  | .ok s => s
  | .error _ => none

variable [Tools]

/-- Builds on top of the stored snapshot and stores the result, if that can be done. -/
def build (w : Workplace) (settings : Settings) : SourceTree × Except CommandFault Snapshot :=
  match w.tree.build settings.build w.root w.stored? with
  | .error .overflow => (w.tree, .error .buildLost)
  | .error fault => (w.tree, .error (.graph fault))
  | .ok s => (if settings.persist then (w.tree.save s).1 else w.tree, .ok s)

/-- Builds and then answers from the result. -/
def answer {α : Type} (w : Workplace) (settings : Settings) (query : Snapshot → Except Fault α)
    (report : α → Report) : SourceTree × Except CommandFault Report :=
  match w.build settings with
  | (t, .error fault) => (t, .error fault)
  | (t, .ok s) => (t, ((query s).map report).mapError CommandFault.graph)

/-- The query of a command, which is read before anything is built. -/
def impactQuery (direction : String) (maxDepth : Option Nat) (relations : List String) :
    Except Fault ImpactQuery := do
  let direction ← Direction.parse direction
  let relations ← relations.mapM Relation.parse
  return ⟨direction, maxDepth, if relations.isEmpty then none else some relations⟩

/-- Where a server would listen. -/
def address (settings : Settings) (port : Option Nat) (host : Option String) : String × Nat :=
  (host.getD settings.host, port.getD settings.port)

/-- Runs a command under its settings. Listening is not for a tree to do, so serving ends where it
would begin. -/
def perform (w : Workplace) (settings : Settings) :
    Command → SourceTree × Except CommandFault Report
  | .serve port host _ =>
    let (host, port) := address settings port host
    (w.tree, .error (.notBound host port))
  | .index => w.answer settings (fun s => .ok s) .indexed
  | .search terms limit offset =>
    w.answer settings (fun s => s.search (" ".intercalate terms) limit offset) .found
  | .impact path direction maxDepth relations =>
    match impactQuery direction maxDepth relations with
    | .error fault => (w.tree, .error (.graph fault))
    | .ok query =>
      w.answer settings (fun s => s.impact (.path path) query settings.maxDepthCap) .reached
  | .clear =>
    match w.tree.clear with
    | .ok t => (t, .ok .cleared)
    | .error _ => (w.tree, .error (.notCleared w.title))

def environmentFile : String := ".env"

/-- Runs a command; settings come from the tree and from the environment, to which the tree may add. -/
def run (w : Workplace) (env : Environment) (command : Command) :
    SourceTree × Except CommandFault Report :=
  let env := match w.tree.content? environmentFile with
    | some bytes => env.addFile bytes
    | none => env
  match Settings.load w.tree w.title env with
  | .error fault => (w.tree, .error (.settings fault))
  | .ok settings => w.perform settings command

end Workplace

end SourceAtlas
