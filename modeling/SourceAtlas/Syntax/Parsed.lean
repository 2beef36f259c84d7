import SourceAtlas.Syntax.Tree
import SourceAtlas.Text.Lines

/-! Syntax trees as parsers return them: named nodes of kinds that the grammar tells apart, each in a field
of its parent or in none. -/
namespace SourceAtlas.Syntax

structure NamedNode where
  kind : String
  /-- The field of the parent that the node stands in. -/
  field : Option String
  text : List Char
  /-- Line breaks in front of the node. -/
  breaks : Nat
  deriving DecidableEq, Repr

namespace Tree

variable (t : Tree NamedNode)

def kind : String := t.label.kind

def text : String := String.ofList t.label.text

def line : UInt32 := Text.lineNumber t.label.breaks

/-- The children that stand in a field. -/
def inField (field : String) : List (Tree NamedNode) :=
  t.children.filter (·.label.field = some field)

def firstIn? (field : String) : Option (Tree NamedNode) := (t.inField field).head?

def textIn? (field : String) : Option String := (t.firstIn? field).map (·.text)

end Tree

/-- What a parser makes of a source. -/
structure Parsed where
  tree : Tree NamedNode
  hasError : Bool

end SourceAtlas.Syntax
