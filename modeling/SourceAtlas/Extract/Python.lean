import SourceAtlas.Extraction
import SourceAtlas.Syntax.Parsed
import SourceAtlas.Term

/-! Python sources. Functions and classes outside of blocks are symbols, with the line of their first
decorator. Imports at any depth are dependencies, except those of future features. The text that a
source starts with is its documentation. -/
namespace SourceAtlas.Python

open Syntax

/-- The name that an item of an import has in its module. -/
def importedName? (item : Syntax.Tree NamedNode) : Option String :=
  if item.kind = "aliased_import" then item.textIn? "name" else some item.text

def importedNames (node : Syntax.Tree NamedNode) : List String :=
  (node.inField "name").filterMap importedName?

/-- The import from a module; the dots in front of its name are the level. -/
def importFrom? (node : Syntax.Tree NamedNode) : Option Spec :=
  (node.firstIn? "module_name").map fun module =>
    let raw := module.label.text
    .pythonImport (String.ofList (raw.dropWhile (· == '.'))) (importedNames node)
      (UInt32.ofNat (raw.takeWhile (· == '.')).length)

def specs (node : Syntax.Tree NamedNode) : List Spec :=
  if node.kind = "import_statement" then
    (importedNames node).map fun name => .pythonImport name [] 0
  else if node.kind = "import_from_statement" then (importFrom? node).toList
  else []

def dependencies (node : Syntax.Tree NamedNode) : List Dependency := (specs node).map (⟨·, node.line⟩)

def symbolKind? (kind : String) : Option SymbolKind :=
  if kind = "function_definition" then some .function
  else if kind = "class_definition" then some .classType
  else none

def symbol? (node : Syntax.Tree NamedNode) : Option Symbol := do
  let definition ← if node.kind = "decorated_definition" then node.firstIn? "definition" else some node
  let kind ← symbolKind? definition.kind
  let name ← definition.textIn? "name"
  return ⟨name, kind, node.line⟩

/-- The text that the first statement consists of. -/
def docstring? (root : Syntax.Tree NamedNode) : Option (List Char) := do
  let first ← root.children.head?
  if first.kind = "expression_statement" then
    let string ← first.children.head?
    if string.kind = "string" then return string.label.text else none
  else none

def extract (parsed : Parsed) : Extraction :=
  Extraction.normalize
    { symbols := parsed.tree.children.filterMap symbol?
      dependencies := parsed.tree.descendants.flatMap fun place => dependencies place.tree
      docTerms := (docstring? parsed.tree).toList.flatMap Term.ofChars
      parseErrors := parsed.hasError }

end SourceAtlas.Python
