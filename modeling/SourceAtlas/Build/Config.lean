import SourceAtlas.Fault
import SourceAtlas.Tools

/-! What a build leaves out, and how large a file may be. -/
namespace SourceAtlas

structure BuildConfig where
  /-- Patterns of files that are left out, relative to the root. -/
  exclude : List String
  /-- Larger files are skipped with a warning. -/
  maxFileSize : UInt64
  respectIgnoreFiles : Bool
  /-- 0 stands for one per core. -/
  parserWorkers : UInt64
  deriving DecidableEq, Repr

namespace BuildConfig

def default : BuildConfig where
  exclude := ["target/**", "node_modules/**", "**/*.min.js"]
  maxFileSize := 1024 * 1024
  respectIgnoreFiles := true
  parserWorkers := 0

/-- Reads one pattern; the first that is no pattern is the fault. -/
def excludePattern (text : String) : Except BuildFault Glob :=
  match Glob.ofText? text with
  | some glob => .ok glob
  | none => .error (.badPattern text)

/-- All patterns, if they can be compiled together. -/
def excludeGlobs [Tools] (c : BuildConfig) : Except BuildFault (List Glob) := do
  let globs ← c.exclude.mapM excludePattern
  if Tools.compiles globs then return globs else throw .patternsTooLarge

end BuildConfig

/-- Whether one of the patterns matches. -/
def Glob.anyMatch (globs : List Glob) (path : String) : Bool := globs.any (·.isMatch path)

end SourceAtlas
