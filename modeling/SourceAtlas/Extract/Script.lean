import SourceAtlas.Extraction
import SourceAtlas.Syntax.Parsed
import SourceAtlas.Term
import SourceAtlas.Text.Split

/-! JavaScript and TypeScript sources, with markup or without. Declarations at the top level, exported or
not, are symbols; modules named by imports, exports and loading calls at any depth are dependencies;
comments of the top level that start with two stars are documentation. -/
namespace SourceAtlas.Script

open Syntax

def symbolKind? (kind : String) : Option SymbolKind :=
  if kind = "function_declaration" || kind = "generator_function_declaration" then some .function
  else if kind = "class_declaration" || kind = "abstract_class_declaration" then some .classType
  else if kind = "interface_declaration" then some .interface
  else if kind = "type_alias_declaration" then some .typeAlias
  else if kind = "enum_declaration" then some .enum
  else none

/-- The name of a declarator; patterns declare none. -/
def declaredName? (declarator : Syntax.Tree NamedNode) : Option String :=
  if declarator.kind = "variable_declarator" then
    ((declarator.firstIn? "name").filter (·.kind = "identifier")).map (·.text)
  else none

theorem size_lt_of_firstIn {node inner : Syntax.Tree NamedNode} {field : String}
    (found : node.firstIn? field = some inner) : inner.size < node.size :=
  Tree.size_lt_of_mem (List.mem_filter.mp (List.mem_of_head? found)).1

/-- The symbols of a declaration, which may be wrapped in an export. -/
def symbols (node : Syntax.Tree NamedNode) : List Symbol :=
  if node.kind = "export_statement" then
    match _found : node.firstIn? "declaration" with
    | some declaration => symbols declaration
    | none => []
  else if node.kind = "lexical_declaration" then
    (node.children.filterMap declaredName?).map (⟨·, .constant, node.line⟩)
  else
    match symbolKind? node.kind, node.textIn? "name" with
    | some kind, some name => [⟨name, kind, node.line⟩]
    | _, _ => []
termination_by node.size
decreasing_by exact size_lt_of_firstIn _found

/-- Whether a call of this function loads a module. -/
def isLoader (function : Syntax.Tree NamedNode) : Bool :=
  function.kind = "import" || (function.kind = "identifier" && function.text = "require")

/-- The node that names the module, if the node is like an import. -/
def moduleNode? (node : Syntax.Tree NamedNode) : Option (Syntax.Tree NamedNode) :=
  if node.kind = "import_statement" || node.kind = "export_statement" ||
      node.kind = "import_require_clause" then node.firstIn? "source"
  else if node.kind = "call_expression" then do
    let function ← node.firstIn? "function"
    if isLoader function then
      let arguments ← node.firstIn? "arguments"
      arguments.children.head?
    else none
  else none

def isQuote (c : Char) : Bool := c == '"' || c == '\''

/-- A plain text without its quotes, if anything is left. -/
def specifier? (string : Syntax.Tree NamedNode) : Option String :=
  if string.kind = "string" then
    let inner := ((string.label.text.dropWhile isQuote).reverse.dropWhile isQuote).reverse
    if inner.isEmpty then none else some (String.ofList inner)
  else none

def dependencies (node : Syntax.Tree NamedNode) : List Dependency :=
  (((moduleNode? node).bind specifier?).map fun name => ⟨.jsImport name, node.line⟩).toList

/-- The comments of the top level that start with two stars. -/
def docComments (root : Syntax.Tree NamedNode) : List (List Char) :=
  (root.children.filter fun node =>
    node.kind = "comment" && Text.startsWith ['/', '*', '*'] node.label.text).map (·.label.text)

def extract (parsed : Parsed) : Extraction :=
  Extraction.normalize
    { symbols := parsed.tree.children.flatMap symbols
      dependencies := parsed.tree.descendants.flatMap fun place => dependencies place.tree
      docTerms := (docComments parsed.tree).flatMap Term.ofChars
      parseErrors := parsed.hasError }

end SourceAtlas.Script
