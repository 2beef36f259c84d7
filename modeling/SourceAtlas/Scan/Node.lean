import SourceAtlas.Syntax.Parsed
import SourceAtlas.Syntax.Token

/-! Nodes as scanners make them. A scanner gives the text of nodes without children only. -/
namespace SourceAtlas.Syntax

def branch (kind : String) (field : Option String) (breaks : Nat)
    (children : List (Tree NamedNode)) : Tree NamedNode :=
  .node ⟨kind, field, [], breaks⟩ children

def leaf (kind : String) (field : Option String) (breaks : Nat) (text : List Char) : Tree NamedNode :=
  .node ⟨kind, field, text, breaks⟩ []

def Token.leaf (t : Token) (kind : String) (field : Option String) : Tree NamedNode :=
  Syntax.leaf kind field t.breaks t.text

end SourceAtlas.Syntax
