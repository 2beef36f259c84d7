import SourceAtlas.Extraction
import SourceAtlas.Syntax.Parsed
import SourceAtlas.Term
import SourceAtlas.Text.Blank
import SourceAtlas.Text.Split
import SourceAtlas.UseTree

/-! Rust sources. Items at the top level are symbols, module files, `use` paths and external crates at
any depth are dependencies, and every line of inner documentation is documentation. -/
namespace SourceAtlas.Rust

open Syntax

def symbolKind? (kind : String) : Option SymbolKind :=
  if kind = "function_item" then some .function
  else if kind = "struct_item" || kind = "union_item" then some .struct
  else if kind = "enum_item" then some .enum
  else if kind = "trait_item" then some .trait
  else if kind = "type_item" then some .typeAlias
  else if kind = "const_item" || kind = "static_item" then some .constant
  else if kind = "mod_item" then some .module
  else none

/-- A module without a body is another file. -/
def isModuleFile (node : Syntax.Tree NamedNode) : Bool :=
  node.kind = "mod_item" && (node.firstIn? "body").isNone

def symbol? (item : Syntax.Tree NamedNode) : Option Symbol := do
  let kind ← symbolKind? item.kind
  let name ← item.textIn? "name"
  if isModuleFile item then none else return ⟨name, kind, item.line⟩

/-- The names of the inline modules around a node, outermost first. -/
def enclosingModules (above : List (Syntax.Tree NamedNode)) : List String :=
  (above.filterMap fun node => if node.kind = "mod_item" then node.textIn? "name" else none).reverse

/-- What a node inside of these modules depends on. -/
def specs (modules : List String) (node : Syntax.Tree NamedNode) : List Spec :=
  if isModuleFile node then
    ((node.textIn? "name").map fun name => .rustMod name modules).toList
  else if node.kind = "use_declaration" then
    match node.textIn? "argument" with
    | some argument => (UseTree.expand argument).map .rustUse
    | none => []
  else if node.kind = "extern_crate_declaration" then
    ((node.textIn? "name").map fun name => .rustUse [name]).toList
  else []

def dependencies (place : Tree.Place NamedNode) : List Dependency :=
  (specs (enclosingModules place.above) place.tree).map (⟨·, place.tree.line⟩)

/-- The terms of the inner documentation that a line consists of. -/
def lineTerms (line : List Char) : List String :=
  match Text.dropPrefix? ['/', '/', '!'] (Text.trimStart line) with
  | some text => Term.ofChars text
  | none => []

def extract (parsed : Parsed) (source : String) : Extraction :=
  Extraction.normalize
    { symbols := parsed.tree.children.filterMap symbol?
      dependencies := parsed.tree.descendants.flatMap dependencies
      docTerms := (Text.split '\n' source.toList).flatMap lineTerms
      parseErrors := parsed.hasError }

end SourceAtlas.Rust
