import SourceAtlas.SourceTree.Ignore

/-! The walk through a tree: the files below a root that are not ignored, under names relative to the
root. A directory that is not entered hides all that is in it. -/
namespace SourceAtlas

/-- The directory of stored snapshots. -/
def cacheDirectory : String := ".taproot"

namespace SourceTree

/-- Directories and files of these names are never visited. -/
def neverVisited (name : String) : Bool := name = ".git" || name = cacheDirectory

/-- Whether the walk goes past an entry below its root. -/
def passes (t : SourceTree) (respectIgnoreFiles : Bool) (path : String) (isDirectory : Bool) : Bool :=
  neverVisited (Path.fileName path) || (respectIgnoreFiles && t.ignores path isDirectory)

/-- Whether the walk that starts at `root` comes to the file: neither the file nor a directory
between the root and it is passed. -/
def visits (t : SourceTree) (respectIgnoreFiles : Bool) (root path : String) : Bool :=
  !t.passes respectIgnoreFiles path false &&
    ((Path.ancestors path).filter fun dir => dir ≠ root && (Path.below? root dir).isSome).all
      fun dir => !t.passes respectIgnoreFiles dir true

/-- The files that the walk comes to, by their paths below the root, with what is known of
them. -/
def walk (t : SourceTree) (respectIgnoreFiles : Bool) (root : String) : List (String × FileData) :=
  t.files.filterMap fun (path, data) => do
    let name ← Path.below? root path
    if t.visits respectIgnoreFiles root path then some (name, data) else none

end SourceTree

end SourceAtlas
