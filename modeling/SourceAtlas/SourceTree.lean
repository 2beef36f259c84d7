import SourceAtlas.Path
import SourceAtlas.Text.Utf8
import SourceAtlas.TextMap

/-! A source tree as it lies on disk: files and directories by their paths below the root, which is
itself a directory. Every directory in front of an entry is an entry too. -/
namespace SourceAtlas

/-- What is known of a file: all that it holds, or its size alone, or not even that. -/
inductive FileData where
  | readable (content : Bytes)
  | unreadable (size : UInt64) (cause : String)
  | unknown (cause : String)
  deriving DecidableEq, Repr

namespace FileData

def content? : FileData → Option Bytes
  | .readable content => some content
  | .unreadable .. | .unknown _ => none

@[simp] theorem content?_eq_some_iff {data : FileData} {content : Bytes} :
    data.content? = some content ↔ data = .readable content := by
  cases data <;> simp [content?]

def size : FileData → Except String UInt64
  | .readable content => .ok (.ofNat content.length)
  | .unreadable size _ => .ok size
  | .unknown cause => .error cause

end FileData

inductive TreeEntry where
  | file (data : FileData)
  | directory
  deriving DecidableEq, Repr

/-- A file that can be read and holds a text. -/
def TreeEntry.text (content : String) : TreeEntry := .file (.readable (Text.utf8 content))

structure SourceTree where
  entries : TextMap TreeEntry
  deriving DecidableEq

namespace Path

/-- The path written without empty components and without dots that stand for the same directory. -/
def clean (path : String) : String :=
  ofComponents ((components path).filter (· ≠ ['.']))

/-- The directories in front of a path, nearest first, without the root. -/
def ancestors (path : String) : List String :=
  if path = "" then []
  else if parent path = "" then []
  else parent path :: ancestors (parent path)
termination_by path.toList.length
decreasing_by exact parent_length_lt ‹_›

/-- What the path is called from inside of a directory, if it lies below it. -/
def below? (dir path : String) : Option String :=
  if dir = "" then some path
  else (Text.dropPrefix? (dir.toList ++ ['/']) path.toList).map String.ofList

end Path

namespace SourceTree

def empty : SourceTree := ⟨.empty⟩

instance : Inhabited SourceTree := ⟨empty⟩

def isDirectory (t : SourceTree) (path : String) : Bool :=
  path = "" || t.entries.get? path = some .directory

def data? (t : SourceTree) (path : String) : Option FileData :=
  match t.entries.get? path with
  | some (.file data) => some data
  | _ => none

/-- What a file holds, if it can be read. -/
def content? (t : SourceTree) (path : String) : Option Bytes := (t.data? path).bind (·.content?)

def exists? (t : SourceTree) (path : String) : Bool := path = "" || t.entries.contains path

/-- Every file with what is known of it, in order of the paths. -/
def files (t : SourceTree) : List (String × FileData) :=
  t.entries.entries.filterMap fun (path, entry) =>
    match entry with
    | .file data => some (path, data)
    | .directory => none

/-- Makes the directory and those in front of it, unless a file is in the way. -/
def makeDirectory? (t : SourceTree) (path : String) : Option SourceTree :=
  (path :: Path.ancestors path).reverse.foldlM
    (fun t dir =>
      if t.isDirectory dir then some t
      else if t.entries.contains dir then none
      else some ⟨t.entries.insert dir .directory⟩)
    t

/-- Puts a file into a directory that is there. -/
def put? (t : SourceTree) (path : String) (data : FileData) : Option SourceTree :=
  if t.isDirectory path then none
  else if t.isDirectory (Path.parent path) then some ⟨t.entries.insert path (.file data)⟩
  else none

/-- Puts a file and makes the directories in front of it. -/
def write? (t : SourceTree) (path : String) (data : FileData) : Option SourceTree := do
  (← t.makeDirectory? (Path.parent path)).put? path data

/-- Removes an entry with everything below it. -/
def remove (t : SourceTree) (path : String) : SourceTree :=
  ⟨t.entries.restrict fun p => p ≠ path && (Path.below? path p).isNone⟩

/-- Gives a file another path, in place of a file that is there. -/
def rename? (t : SourceTree) (source target : String) : Option SourceTree := do
  (t.remove source).put? target (← t.data? source)

end SourceTree

end SourceAtlas
