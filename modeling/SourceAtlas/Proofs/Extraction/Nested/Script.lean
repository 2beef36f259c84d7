import SourceAtlas.Extract.Script
import SourceAtlas.Proofs.Syntax.Tree
import SourceAtlas.Scan.Script

/-! Modules that scripts name at any depth. The tree of the scanner says what stands in the pieces, and a call
that loads a module stands above what is nested in its arguments. -/
namespace SourceAtlas.Script

open Syntax Syntax.Tree

/-- The kinds of nodes that something depends on. -/
def mentioningKinds : List String :=
  ["import_statement", "export_statement", "import_require_clause", "call_expression"]

theorem dependencies_of_kind {node : Syntax.Tree NamedNode} (other : node.kind ∉ mentioningKinds) :
    dependencies node = [] := by
  simp only [mentioningKinds, List.mem_cons, List.not_mem_nil, or_false, not_or] at other
  simp [dependencies, moduleNode?, other]

variable {above : List (Syntax.Tree NamedNode)}

theorem gather_leaf {kind : String} (other : kind ∉ mentioningKinds) (field : Option String)
    (breaks : Nat) (text : List Char) :
    (leaf kind field breaks text).gather (fun _ => dependencies) above = [] := by
  have silent : (leaf kind field breaks text).kind ∉ mentioningKinds := other
  rw [gather_eq, dependencies_of_kind silent]
  rfl

theorem gather_branch {kind : String} (other : kind ∉ mentioningKinds) (field : Option String)
    (breaks : Nat) (ts : List (Syntax.Tree NamedNode)) :
    (branch kind field breaks ts).gather (fun _ => dependencies) above =
      gatherMany (fun _ => dependencies) (above ++ [branch kind field breaks ts]) ts := by
  have silent : (branch kind field breaks ts).kind ∉ mentioningKinds := other
  rw [gather_eq, dependencies_of_kind silent]
  rfl

/-- The nodes of the statement that starts with a word of this place, if it is one that names a module. -/
def statementTrees (before rest : List Piece) (t : Token) : List (Syntax.Tree NamedNode) :=
  pieceTrees before rest (.token t)

mutual

/-- What a piece names with all that is in it, given the pieces in front of it, backwards and without
comments, and behind it. -/
def mentionsOf (before rest : List Piece) : Piece → List Dependency
  | .token t => (statementTrees before rest t).flatMap dependencies
  | .group opener body _ =>
    dependencies (groupTree before opener body (forest [] body)) ++ mentionsIn [] body

def mentionsIn (before : List Piece) : List Piece → List Dependency
  | [] => []
  | p :: rest =>
    if isComment p then mentionsIn before rest
    else mentionsOf before rest p ++ mentionsIn (p :: before) rest

end

theorem gather_statementTree (t text : Token) :
    (statementTree t text).gather (fun _ => dependencies) above = dependencies (statementTree t text) := by
  rw [gather_eq]
  change _ ++ gatherMany _ _ [_] = _
  rw [gatherMany_singleton, Token.leaf, gather_leaf (by decide), List.append_nil]

theorem gather_statementTrees (above : List (Syntax.Tree NamedNode)) (before rest : List Piece) (t : Token) :
    gatherMany (fun _ => dependencies) above (statementTrees before rest t) =
      (statementTrees before rest t).flatMap dependencies := by
  rw [statementTrees, pieceTrees]
  split
  · cases sourceText? t (rest.filter (!isComment ·)) with
    | none => rfl
    | some text =>
      rw [Option.map_some, Option.toList_some, gatherMany_singleton, gather_statementTree,
        List.flatMap_singleton]
  · rfl

/-- What a group names itself comes before what is named inside of it. -/
theorem gather_groupTree (before : List Piece) (opener : Token) (body : List Piece)
    {inside : List (Syntax.Tree NamedNode)} {found : List Dependency}
    (same : ∀ above, gatherMany (fun _ => dependencies) above inside = found) :
    (groupTree before opener body inside).gather (fun _ => dependencies) above =
      dependencies (groupTree before opener body inside) ++ found := by
  unfold groupTree
  cases loader? before opener with
  | none =>
    rw [gather_eq]
    exact congrArg _ (same _)
  | some t =>
    have silent : (if t.isWord "import" then "import" else "identifier") ∉ mentioningKinds := by
      split <;> decide
    have argument : ∀ above, gatherMany (fun _ => dependencies) above
        ((argument? body).map (·.leaf "string" none)).toList = [] := by
      intro above
      cases argument? body with
      | none => rfl
      | some text =>
        rw [Option.map_some, Option.toList_some, gatherMany_singleton, Token.leaf, gather_leaf (by decide)]
    rw [gather_eq]
    change _ ++ gatherMany _ _ [_, _] = _
    rw [gatherMany, gatherMany_singleton, Token.leaf, gather_leaf silent, gather_branch (by decide),
      gatherMany_append, argument, same]
    rfl

mutual

theorem gather_pieceTrees (above : List (Syntax.Tree NamedNode)) (before rest : List Piece) : ∀ p : Piece,
    gatherMany (fun _ => dependencies) above (pieceTrees before rest p) = mentionsOf before rest p
  | .token t => by
    rw [mentionsOf]
    exact gather_statementTrees above before rest t
  | .group opener body _ => by
    rw [pieceTrees, mentionsOf, gatherMany_singleton]
    exact gather_groupTree before opener body fun above => gather_forest above [] body

theorem gather_forest (above : List (Syntax.Tree NamedNode)) (before : List Piece) : ∀ ps : List Piece,
    gatherMany (fun _ => dependencies) above (forest before ps) = mentionsIn before ps
  | [] => rfl
  | p :: rest => by
    rw [forest, mentionsIn]
    split
    · exact gather_forest above before rest
    · rw [gatherMany_append, gather_pieceTrees above before rest p, gather_forest above (p :: before) rest]

end

/-- The pieces of a source in a language with this grammar. -/
def pieces (grammar : Grammar) (source : String) : List Piece :=
  (nest (tokens (lexemes (grammar ≠ .typeScript) source.toList))).pieces

/-- The modules that a source names, from the front to the back. -/
def mentions (grammar : Grammar) (source : String) : List Dependency :=
  mentionsIn [] (pieces grammar source)

end SourceAtlas.Script
