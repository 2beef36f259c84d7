import SourceAtlas.Distinct
import SourceAtlas.Graph.Relation

/-! What one source file says: the symbols it declares, its dependencies as they are written, and
the terms of its documentation. `normalize` puts both lists in order of lines and keeps the first
entry of every dependency and of every name. -/
namespace SourceAtlas

inductive SymbolKind where
  | function | classType | struct | enum | trait | interface | typeAlias | constant | module
  deriving DecidableEq, Repr

namespace SymbolKind

def name : SymbolKind → String
  | .function => "function" | .classType => "class" | .struct => "struct" | .enum => "enum"
  | .trait => "trait" | .interface => "interface" | .typeAlias => "type_alias"
  | .constant => "constant" | .module => "module"

def all : List SymbolKind :=
  [.function, .classType, .struct, .enum, .trait, .interface, .typeAlias, .constant, .module]

end SymbolKind

/-- A top-level declaration. -/
structure Symbol where
  name : String
  kind : SymbolKind
  line : UInt32
  deriving DecidableEq, Repr

/-- A dependency as it is written, before it is resolved. -/
inductive Spec where
  /-- `mod name;` inside inline modules, outermost first. -/
  | rustMod (name : String) (inline : List String)
  /-- One path of a `use` declaration. -/
  | rustUse (segments : List String)
  /-- `import module`, or names imported from a module `level` packages up. -/
  | pythonImport (module : String) (names : List String) (level : UInt32)
  /-- A module specifier of a script. -/
  | jsImport (specifier : String)
  /-- An included header, between quotes or, for the system, between angle brackets. -/
  | cInclude (header : String) (system : Bool)
  /-- The destination of a link in documentation. -/
  | docLink (target : String)
  deriving DecidableEq, Repr

def Spec.relation : Spec → Relation
  | .rustMod .. => .declares
  | .rustUse _ | .pythonImport .. | .jsImport _ => .imports
  | .cInclude .. => .includes
  | .docLink _ => .references

structure Dependency where
  spec : Spec
  line : UInt32
  deriving DecidableEq, Repr

structure Extraction where
  symbols : List Symbol
  dependencies : List Dependency
  docTerms : List String
  parseErrors : Bool
  deriving DecidableEq, Repr

def Dependency.le (a b : Dependency) : Bool := a.line ≤ b.line

def Symbol.le (a b : Symbol) : Bool := a.line < b.line || (a.line == b.line && a.name ≤ b.name)

def Extraction.normalize (e : Extraction) : Extraction :=
  { e with
    symbols := distinctBy (·.name) (e.symbols.mergeSort Symbol.le)
    dependencies := distinctBy (·.spec) (e.dependencies.mergeSort Dependency.le) }

end SourceAtlas
