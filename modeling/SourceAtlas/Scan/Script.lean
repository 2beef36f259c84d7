import SourceAtlas.Language
import SourceAtlas.Scan.Script.Statement

/-! A scanner for JavaScript and TypeScript sources. Below the root of its tree stand the declarations of
the top level, the comments between statements, and then a block with all that names a module. -/
namespace SourceAtlas.Script

open Syntax

/-- What follows the type arguments that are open at this depth, if these are type arguments. -/
def afterTypeArguments? (depth : Nat) : List Piece → Option (List Piece)
  | [] => none
  | p :: rest =>
    if p.isMark '<' then afterTypeArguments? (depth + 1) rest
    else if p.isMark '>' then
      if depth ≤ 1 then some rest else afterTypeArguments? (depth - 1) rest
    else if p.isMark ';' || p.isMark '=' then none
    else afterTypeArguments? depth rest

theorem afterTypeArguments?_length_lt {depth : Nat} {pieces rest : List Piece}
    (h : afterTypeArguments? depth pieces = some rest) : rest.length < pieces.length := by
  fun_induction afterTypeArguments? depth pieces with
  | case1 => cases h
  | case2 _ _ _ _ ih => exact Nat.lt_succ_of_lt (ih h)
  | case3 =>
    cases h
    exact Nat.lt_succ_self _
  | case4 _ _ _ _ _ _ ih => exact Nat.lt_succ_of_lt (ih h)
  | case5 => cases h
  | case6 _ _ _ _ _ _ ih => exact Nat.lt_succ_of_lt (ih h)

/-- What follows the declarator at the front and the comma behind it. In its type, angle brackets
always enclose type arguments; in its value, they do where a call follows. -/
def nextDeclarator (inType : Bool) : List Piece → List Piece
  | [] => []
  | p :: rest =>
    if p.isMark ',' then rest
    else if p.isMark '<' then
      match _h : afterTypeArguments? 1 rest with
      | some after =>
        if inType || after.head?.any (fun q => q.isParens || q.isMark ';') then nextDeclarator inType after
        else nextDeclarator inType rest
      | none => nextDeclarator inType rest
    else nextDeclarator (p.isMark ':' || (inType && !p.isMark '=')) rest
termination_by pieces => pieces.length
decreasing_by
  · have := afterTypeArguments?_length_lt _h
    simp only [List.length_cons]; omega
  all_goals simp

theorem nextDeclarator_length_le (inType : Bool) (pieces : List Piece) :
    (nextDeclarator inType pieces).length ≤ pieces.length := by
  fun_induction nextDeclarator inType pieces with
  | case1 => exact Nat.le_refl _
  | case2 => exact Nat.le_succ _
  | case3 _ _ _ _ _ _ found _ ih =>
    exact Nat.le_succ_of_le (Nat.le_trans ih (Nat.le_of_lt (afterTypeArguments?_length_lt found)))
  | case4 _ _ _ _ _ _ _ _ ih => exact Nat.le_succ_of_le ih
  | case5 _ _ _ _ _ _ ih => exact Nat.le_succ_of_le ih
  | case6 _ _ _ _ _ ih => exact Nat.le_succ_of_le ih

/-- The plain names that declarators declare; patterns declare none. -/
def declaredNames : List Piece → List Token
  | [] => []
  | p :: rest =>
    let more := declaredNames (nextDeclarator false rest)
    match p with
    | .token t =>
      if t.kind = .word ∧ rest.head?.all (fun q =>
          q.isMark '=' || q.isMark ':' || q.isMark '!' || q.isMark ',' || q.isMark ';') = true then
        t :: more
      else more
    | .group .. => more
termination_by pieces => pieces.length
decreasing_by
  have := nextDeclarator_length_le false rest
  simp only [List.length_cons]; omega

/-- The name at the front of a declaration, perhaps behind a star. -/
def nameToken? : List Piece → Option Token
  | .token t :: rest =>
    if t.kind = .word then some t
    else if t.isMark '*' then
      match rest with
      | .token u :: _ => if u.kind = .word then some u else none
      | _ => none
    else none
  | _ => none

def endsWithBody (d : List Piece) : Bool :=
  let reversed := d.reverse.dropWhile (·.isMark ';')
  endsBlock d reversed

def nameTree (t : Token) : Syntax.Tree NamedNode := t.leaf "identifier" (some "name")

def declaratorTree (t : Token) : Syntax.Tree NamedNode :=
  branch "variable_declarator" none t.breaks [nameTree t]

/-- The kind of a declaration and the nodes of what it declares. -/
def declared? (typed : Bool) (d : List Piece) : Option (String × List (Syntax.Tree NamedNode)) :=
  match d with
  | .token t :: rest =>
    let named (kind : String) (rest : List Piece) : Option (String × List (Syntax.Tree NamedNode)) :=
      (nameToken? rest).map fun name => (kind, [nameTree name])
    let next (word : String) : Bool := rest.head?.any (·.isWord word)
    if t.kind ≠ .word then none
    else if t.isWord "function" then
      if endsWithBody d then named "function_declaration" rest else none
    else if t.isWord "async" && next "function" then
      if endsWithBody d then named "function_declaration" rest.tail else none
    else if t.isWord "class" then
      if next "extends" || next "implements" then none else named "class_declaration" rest
    else if typed && t.isWord "abstract" && next "class" then
      named "abstract_class_declaration" rest.tail
    else if typed && t.isWord "interface" then named "interface_declaration" rest
    else if typed && t.isWord "type" && rest.tail.head?.any (fun p => p.isMark '=' || p.isMark '<') then
      named "type_alias_declaration" rest
    else if typed && t.isWord "enum" then named "enum_declaration" rest
    else if typed && t.isWord "const" && next "enum" then named "enum_declaration" rest.tail
    else if t.isWord "const" || t.isWord "let" then
      some ("lexical_declaration", (declaredNames rest).map declaratorTree)
    else none
  | _ => none

/-- The declaration that a statement is, with or without an export around it. -/
def declarationTree? (typed : Bool) (s : Statement) : Option (Syntax.Tree NamedNode) := do
  let d := declaration s
  let first ← d.head?
  let (kind, names) ← declared? typed (dropDecorators d)
  return branch kind none first.first.breaks names

/-- Two neighbours that no correct source has. -/
def clashes (p next : Piece) : Bool :=
  (p.isMark '=' && (next.isMark ';' || next.isMark ')')) ||
    ((p.isWord "const" || p.isWord "let" || p.isWord "var") && next.isMark '=') ||
    (p.isWord "class" && next.isMark ';')

mutual

/-- A fault that shows without knowing the whole grammar. -/
def hasFault : Piece → Bool
  | .token t => t.isMark '\\'
  | .group _ body _ => anyFault body

def anyFault : List Piece → Bool
  | [] => false
  | p :: rest => hasFault p || rest.head?.any (clashes p) || anyFault rest

end

def programTree (typed : Bool) (pieces : List Piece) : Syntax.Tree NamedNode :=
  let parts := parts typed pieces
  branch "program" none 0
    (parts.statements.filterMap (declarationTree? typed) ++
      parts.comments.map (·.leaf "comment" none) ++
      [branch "statement_block" none 0 (forest [] pieces)])

def parse (grammar : Grammar) (source : String) : Parsed :=
  let typed := grammar = .typeScript || grammar = .tsx
  let lexemes := lexemes (grammar ≠ .typeScript) source.toList
  let nesting := nest (tokens lexemes)
  ⟨programTree typed nesting.pieces,
    !nesting.balanced || lexemes.any (!·.complete) || anyFault nesting.pieces⟩

end SourceAtlas.Script
