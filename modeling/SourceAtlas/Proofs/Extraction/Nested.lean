import SourceAtlas.Proofs.Extraction.ByLine
import SourceAtlas.Proofs.Extraction.Nested.Python
import SourceAtlas.Proofs.Extraction.Nested.Rust
import SourceAtlas.Proofs.Extraction.Nested.Script

/-! Dependencies at any depth of a source. The nodes of its tree are listed by a loop over a stack, later
siblings first. What the listed nodes depend on is, up to the order, what is read off the tree from the
front to the back, going into each node where it stands. -/
namespace SourceAtlas

open Syntax Syntax.Tree

/-- What the nodes of a tree depend on, in the order of the loop. -/
def Rust.found (t : Syntax.Tree NamedNode) : List Dependency := t.descendants.flatMap dependencies

def Python.found (t : Syntax.Tree NamedNode) : List Dependency :=
  t.descendants.flatMap fun place => dependencies place.tree

def Script.found (t : Syntax.Tree NamedNode) : List Dependency :=
  t.descendants.flatMap fun place => dependencies place.tree

end SourceAtlas
