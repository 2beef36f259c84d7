import SourceAtlas.Glob
import SourceAtlas.SourceTree
import SourceAtlas.Text.Blank
import SourceAtlas.Text.Split

/-! Ignore files. Every line is a rule about the paths below the directory of its file: a pattern that
is skipped or, behind an exclamation mark, kept. The last rule that matches decides. The file of the
nearest directory that has something to say decides over those of the directories in front of it,
and one name of ignore files over the next. -/
namespace SourceAtlas

inductive Verdict where
  | skip | keep
  deriving DecidableEq, Repr

structure IgnoreRule where
  glob : Glob
  verdict : Verdict
  directoriesOnly : Bool

namespace IgnoreRule

/-- The end of a line is trimmed unless its last blank is escaped. -/
def trimLine (line : List Char) : List Char :=
  if (Text.dropSuffix? ['\\', ' '] line).isSome then line else Text.trimEnd line

/-- What stands behind the signs at the start of a rule: whether it keeps, and whether its pattern is
bound to the directory of the file. -/
def opening (line : List Char) : Verdict × Bool × List Char :=
  match line with
  | '\\' :: '!' :: rest => (.skip, false, '!' :: rest)
  | '\\' :: '#' :: rest => (.skip, false, '#' :: rest)
  | '!' :: '/' :: rest => (.keep, true, rest)
  | '!' :: rest => (.keep, false, rest)
  | '/' :: rest => (.skip, true, rest)
  | _ => (.skip, false, line)

/-- A slash at the end, escaped or not, says that the rule is about directories. -/
def closing (pattern : List Char) : Bool × List Char :=
  match pattern.reverse with
  | '/' :: '\\' :: before => (true, before.reverse)
  | '/' :: before => (true, before.reverse)
  | _ => (false, pattern)

/-- A pattern of a single component may match at any depth. -/
def atAnyDepth (pattern : List Char) : List Char :=
  if pattern = ['*', '*'] then pattern else "**/".toList ++ pattern

/-- Two stars at the end stand for what is in the directory, not for the directory. -/
def insideOnly (pattern : List Char) : List Char :=
  if (Text.dropSuffix? "/**".toList pattern).isSome then pattern ++ "/*".toList else pattern

def ofLine? (line : List Char) : Option IgnoreRule :=
  match trimLine line with
  | [] | '#' :: _ => none
  | line =>
    let (verdict, bound, pattern) := opening line
    let (directoriesOnly, pattern) := closing pattern
    let pattern := if bound || pattern.contains '/' then pattern else atAnyDepth pattern
    (Glob.ofText? (String.ofList (insideOnly pattern))).map
      fun glob => ⟨glob, verdict, directoriesOnly⟩

def applies (r : IgnoreRule) (path : String) (isDirectory : Bool) : Bool :=
  (!r.directoriesOnly || isDirectory) && r.glob.isMatchByName path

end IgnoreRule

/-- Lines without the carriage returns in front of their breaks. -/
def dropReturns : List Bytes → List Bytes
  | [] => []
  | [last] => [last]
  | line :: rest => (Text.dropSuffix? [0x0d] line).getD line :: dropReturns rest

/-- The lines of a file up to the first that is no text. A mark of the byte order opens no line. -/
def textLines (bytes : Bytes) : List (List Char) :=
  let texts := ((dropReturns (Text.split 0x0a bytes)).map Text.ofUtf8?).takeWhile Option.isSome
  match texts.filterMap fun t => t.map (·.toList) with
  | [] => []
  | first :: rest => first.dropWhile (· = '\ufeff') :: rest

def IgnoreRule.ofFile (bytes : Bytes) : List IgnoreRule := (textLines bytes).filterMap ofLine?

/-- What the rules of one file say; the last that applies counts. -/
def verdictOf (rules : List IgnoreRule) (path : String) (isDirectory : Bool) : Option Verdict :=
  (rules.reverse.find? (·.applies path isDirectory)).map (·.verdict)

namespace SourceTree

/-- Files with rules, by name; the first name that has something to say decides. -/
def ignoreFiles : List String := [".ignore", ".gitignore", ".git/info/exclude"]

/-- What the ignore files of this name say, the nearest to the path first. -/
def verdict? (t : SourceTree) (name path : String) (isDirectory : Bool) : Option Verdict :=
  (Path.ancestors path ++ [""]).findSome? fun dir => do
    verdictOf (IgnoreRule.ofFile (← t.content? (Path.child dir name))) (← Path.below? dir path)
      isDirectory

def ignores (t : SourceTree) (path : String) (isDirectory : Bool) : Bool :=
  ignoreFiles.findSome? (t.verdict? · path isDirectory) = some .skip

end SourceTree

end SourceAtlas
