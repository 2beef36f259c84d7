import SourceAtlas.Command.Run
import SourceAtlas.Scan

/-! The program: it reads the tree below the root, runs the command, and writes back what has changed in
the directory of stored snapshots. -/
namespace SourceAtlas.Main

open Scanners

/-- Below the directory of the version control only the ignore rules matter. -/
def isWanted (path : String) : Bool :=
  match Path.below? ".git" path with
  | some inside => inside = "info" || inside = "info/exclude"
  | none => true

def readFile (file : IO.FS.DirEntry) : IO FileData := do
  try return .readable (← IO.FS.readBinFile file.path).data.toList
  catch fault =>
    try return .unreadable (← file.path.metadata).byteSize (toString fault)
    catch fault => return .unknown (toString fault)

/-- Reads what lies below a directory; links are not followed. -/
partial def readBelow (directory path : String) (tree : SourceTree) : IO SourceTree := do
  let mut tree := tree
  for entry in ← (← IO.FS.realPath directory).readDir do
    let inside := Path.child path entry.fileName
    if isWanted inside then
      match (← entry.path.symlinkMetadata).type with
      | .dir =>
        tree := (tree.makeDirectory? inside).getD tree
        tree ← try readBelow entry.path.toString inside tree catch _ => pure tree
      | .file => tree := (tree.write? inside (← readFile entry)).getD tree
      | _ => pure ()
  return tree

/-- The directory that a command works on. -/
def openWorkplace (root : String) : IO Workplace := do
  let tree ← try readBelow root "" .empty catch _ => pure .empty
  let real ← try (do return (← IO.FS.realPath root).toString) catch _ => pure root
  return ⟨tree, root, Path.fileName real⟩

/-- Writes back the files of the cache directory, or removes it. -/
def writeBack (root : String) (old new : SourceTree) : IO Unit := do
  if old.exists? cacheDirectory && !new.exists? cacheDirectory then
    IO.FS.removeDirAll (root ++ "/" ++ cacheDirectory)
  else
    for (path, data) in new.files do
      if (Path.below? cacheDirectory path).isSome && old.data? path ≠ some data then
        if let some content := data.content? then
          IO.FS.createDirAll (root ++ "/" ++ Path.parent path)
          IO.FS.writeBinFile (root ++ "/" ++ path) ⟨content.toArray⟩

/-- The variables that settings look at and those that the file of the tree may name. -/
def readEnvironment (tree : SourceTree) : IO Environment := do
  let mentioned := match (tree.content? Workplace.environmentFile).bind Text.ofUtf8? with
    | some text => Term.runs Environment.isNameChar text.toList
    | none => []
  let mut env : Environment := .empty
  for name in Settings.variableNames ++ mentioned.map String.ofList do
    if let some value ← IO.getEnv name then env := env.insert name value
  return env

def run (arguments : List String) : IO UInt32 := do
  match Invocation.ofArguments arguments with
  | .error .version =>
    IO.println (Command.programName ++ " " ++ Command.programVersion)
    return 0
  | .error .help =>
    IO.println Command.usage
    return 0
  | .error .refused =>
    IO.eprintln Command.usage
    return 2
  | .ok invocation =>
    let begun ← IO.monoMsNow
    let place ← openWorkplace invocation.root
    let (tree, result) := place.run (← readEnvironment place.tree) invocation.command
    writeBack invocation.root place.tree tree
    match result with
    | .ok report =>
      IO.print (report.text (toString ((← IO.monoMsNow) - begun)))
      return 0
    | .error fault =>
      IO.eprintln ("Error: " ++ fault.message)
      return .ofNat fault.exitCode

end SourceAtlas.Main

def main (arguments : List String) : IO UInt32 := SourceAtlas.Main.run arguments
