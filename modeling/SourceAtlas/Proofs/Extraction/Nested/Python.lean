import SourceAtlas.Extract.Python
import SourceAtlas.Proofs.Syntax.Tree
import SourceAtlas.Scan.Python

/-! Python imports at any depth. The tree of the scanner says what stands on the lines, whatever blocks they
stand in. -/
namespace SourceAtlas.Python

open Syntax Syntax.Tree

/-- The kinds of nodes that something depends on. -/
def mentioningKinds : List String := ["import_statement", "import_from_statement"]

theorem dependencies_of_kind {node : Syntax.Tree NamedNode} (other : node.kind ∉ mentioningKinds) :
    dependencies node = [] := by
  simp only [mentioningKinds, List.mem_cons, List.not_mem_nil, or_false, not_or] at other
  simp [dependencies, specs, other]

variable {above : List (Syntax.Tree NamedNode)}

theorem gather_leaf {kind : String} (other : kind ∉ mentioningKinds) (field : Option String)
    (breaks : Nat) (text : List Char) :
    (leaf kind field breaks text).gather (fun _ => dependencies) above = [] := by
  have silent : (leaf kind field breaks text).kind ∉ mentioningKinds := other
  rw [gather_eq, dependencies_of_kind silent]
  rfl

theorem gather_branch {kind : String} (other : kind ∉ mentioningKinds) (field : Option String)
    (breaks : Nat) (ts : List (Syntax.Tree NamedNode)) :
    (branch kind field breaks ts).gather (fun _ => dependencies) above =
      gatherMany (fun _ => dependencies) (above ++ [branch kind field breaks ts]) ts := by
  have silent : (branch kind field breaks ts).kind ∉ mentioningKinds := other
  rw [gather_eq, dependencies_of_kind silent]
  rfl

/-- What the statements of a line import. -/
def imported (l : Line) : List Dependency :=
  (statements l).flatMap fun s => (importTree? s).toList.flatMap dependencies

def pieces (source : String) : List Piece := (nest (tokens (lexemes source.toList))).pieces

/-- What a source imports, from the front to the back, whatever blocks the lines stand in. -/
def mentions (source : String) : List Dependency := (lines (pieces source)).flatMap imported

example : mentions "import os\ndef main():\n    if quiet:\n        from ..log import off; import re\n" =
    [⟨.pythonImport "os" [] 0, 1⟩, ⟨.pythonImport "log" ["off"] 2, 4⟩, ⟨.pythonImport "re" [] 0, 4⟩] := by
  decide +kernel

end SourceAtlas.Python
