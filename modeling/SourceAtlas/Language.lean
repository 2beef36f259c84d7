/-! Languages of source files, told from the name of a file. -/
namespace SourceAtlas

inductive Language where
  | rust | typeScript | javaScript | python | c | cpp | markdown | other
  deriving DecidableEq, Repr

/-- Concrete grammars. TypeScript has two, one with embedded markup. -/
inductive Grammar where
  | rust | typeScript | tsx | javaScript | python
  deriving DecidableEq, Repr

/-- What follows the last dot, if there is a dot. -/
def extension? (cs : List Char) : Option (List Char) :=
  if cs.contains '.' then some (cs.reverse.takeWhile (· != '.')).reverse else none

/-- What follows the last slash, or everything. -/
def baseName (cs : List Char) : List Char := (cs.reverse.takeWhile (· != '/')).reverse

namespace Language

def name : Language → String
  | .rust => "rust" | .typeScript => "type_script" | .javaScript => "java_script"
  | .python => "python" | .c => "c" | .cpp => "cpp" | .markdown => "markdown" | .other => "other"

/-- What messages about a build call the language. -/
def title : Language → String
  | .rust => "Rust" | .typeScript => "TypeScript" | .javaScript => "JavaScript"
  | .python => "Python" | .c => "C" | .cpp => "Cpp" | .markdown => "Markdown" | .other => "Other"

def all : List Language :=
  [.rust, .typeScript, .javaScript, .python, .c, .cpp, .markdown, .other]

def ofExtension (ext : String) : Language :=
  if ext = "rs" then .rust
  else if ["ts", "tsx", "mts", "cts"].contains ext then .typeScript
  else if ["js", "jsx", "mjs", "cjs"].contains ext then .javaScript
  else if ["py", "pyi"].contains ext then .python
  else if ["c", "h"].contains ext then .c
  else if ["cpp", "cc", "cxx", "hpp", "hh"].contains ext then .cpp
  else if ["md", "mdx"].contains ext then .markdown
  else .other

/-- The language of the file at `path`, from the extension of its last component. -/
def ofPath (path : String) : Language :=
  match extension? (baseName path.toList) with
  | some ext => ofExtension (String.ofList ext)
  | none => .other

/-- Files of these languages become nodes. -/
def indexed (l : Language) : Bool := l != .other

end Language

namespace Grammar

def name : Grammar → String
  | .rust => "Rust" | .typeScript => "TypeScript" | .tsx => "Tsx" | .javaScript => "JavaScript"
  | .python => "Python"

def ofExtension? (ext : String) : Option Grammar :=
  if ext = "rs" then some .rust
  else if ["ts", "mts", "cts"].contains ext then some .typeScript
  else if ext = "tsx" then some .tsx
  else if ["js", "jsx", "mjs", "cjs"].contains ext then some .javaScript
  else if ["py", "pyi"].contains ext then some .python
  else none

/-- The grammar for the file at `path`, from what follows the last dot of the whole path. -/
def ofPath? (path : String) : Option Grammar :=
  (extension? path.toList).bind fun ext => ofExtension? (String.ofList ext)

end Grammar

end SourceAtlas
