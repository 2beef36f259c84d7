import SourceAtlas.Build.Config
import SourceAtlas.Language
import SourceAtlas.Snapshot
import SourceAtlas.SourceTree.Walk
import SourceAtlas.Toml.Document

/-! What a build starts from: the paths of a tree, the files among them that become nodes, and the
library crates. All of it is made from the set of visited files, in whatever order they come. -/
namespace SourceAtlas

/-- The directory that a build is about. -/
structure BuildRoot where
  /-- Its path in the tree. -/
  path : String
  /-- What messages call it. -/
  title : String
  /-- Its own name. -/
  name : String
  deriving DecidableEq, Repr

/-- A file that becomes a node unless it cannot be read or holds no text. -/
structure Candidate where
  path : String
  language : Language
  data : FileData
  deriving DecidableEq, Repr

structure Discovery where
  /-- Every file that is neither ignored nor excluded, ascending. -/
  listing : List String
  /-- Files in a language of the graph that are not too large, ascending by path. -/
  candidates : List Candidate
  /-- One for every file that is too large or of unknown size, ascending by path. -/
  warnings : List Warning
  /-- The source directory of every library crate, by the name that it is used by. -/
  crates : TextMap String
  deriving DecidableEq

namespace Discovery

def skipped (d : Discovery) : Nat := d.warnings.length

def manifestFile : String := "Cargo.toml"

/-- The name that a manifest gives its crate. A manifest without a package is none of a crate, and one
that does not say a name or cannot be read leaves it to the directory. -/
def crateName? (directoryName : Option String) (manifest : FileData) : Option String :=
  match (manifest.content?.bind Text.ofUtf8?).bind Toml.ofText? with
  | some (.table _ entries) =>
    match Toml.Entries.find? "package".toList entries with
    | none => none
    | some package =>
      match package.part? ["name".toList] "name".toList with
      | some (some (.text name)) => some (String.ofList name)
      | _ => directoryName
  | _ => directoryName

/-- The crate of a manifest: the name that paths use for it, and its source directory. A crate is a
library if that directory holds `lib.rs`. -/
def crate? (rootName : String) (files : TextMap FileData) (manifest : String) (data : FileData) :
    Option (String × String) := do
  let dir := Path.parent manifest
  let source := Path.child dir "src"
  let directoryName := if dir = "" then rootName else Path.fileName dir
  if Path.fileName manifest = manifestFile ∧ files.contains (Path.child source "lib.rs") then
    let name ← crateName? (if directoryName = "" then none else some directoryName) data
    return (String.ofList (name.toList.map fun c => if c = '-' then '_' else c), source)
  else none

/-- Of several crates of one name the last counts. -/
def cratesOf (rootName : String) (files : TextMap FileData) : TextMap String :=
  TextMap.ofList (files.entries.filterMap fun (path, data) => crate? rootName files path data)

/-- The files in a language of the graph. -/
def indexedFiles (files : TextMap FileData) : List Candidate :=
  (files.entries.map fun (path, data) => ⟨path, Language.ofPath path, data⟩).filter
    (·.language.indexed)

/-- Why a file is left out without a look into it. -/
def refusal? (limit : UInt64) (c : Candidate) : Option Warning :=
  match c.data.size with
  | .error cause => some ⟨c.path, "cannot read metadata: " ++ cause⟩
  | .ok size =>
    if limit < size then
      some ⟨c.path,
        "file is " ++ toString size ++ " bytes, above the " ++ toString limit ++ " byte limit"⟩
    else none

def ofFiles (maxFileSize : UInt64) (rootName : String) (files : TextMap FileData) : Discovery where
  listing := files.keys
  candidates := (indexedFiles files).filter fun c => (refusal? maxFileSize c).isNone
  warnings := (indexedFiles files).filterMap (refusal? maxFileSize)
  crates := cratesOf rootName files

/-- The visited files without those that are excluded. -/
def kept (excluded : List Glob) (visited : List (String × FileData)) : TextMap FileData :=
  TextMap.ofList (visited.filter fun file => !Glob.anyMatch excluded file.1)

variable [Tools]

/-- The visited files, in any order, under a configuration. -/
def ofVisited (config : BuildConfig) (rootName : String) (visited : List (String × FileData)) :
    Except BuildFault Discovery := do
  return ofFiles config.maxFileSize rootName (kept (← config.excludeGlobs) visited)

end Discovery

def SourceTree.discover [Tools] (t : SourceTree) (config : BuildConfig) (root : BuildRoot) :
    Except BuildFault Discovery :=
  Discovery.ofVisited config root.name (t.walk config.respectIgnoreFiles root.path)

end SourceAtlas
