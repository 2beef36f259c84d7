import SourceAtlas.Scan.Node
import SourceAtlas.Scan.Script.Token
import SourceAtlas.Syntax.Nesting

/-! The places of a JavaScript or TypeScript source that name a module, as a tree: imports and exports
from a module, and calls that load one. A call stands above what is nested in its arguments. -/
namespace SourceAtlas.Script

open Syntax

/-- Whether a literal is a text between quotes. -/
def isPlainText (t : Token) : Bool :=
  t.kind = .literal && (t.text.head? == some '"' || t.text.head? == some '\'')

def plainText? (t : Token) : Option Token := if isPlainText t then some t else none

def isComment : Piece → Bool
  | .token t => t.kind = .comment
  | .group .. => false

/-- The first argument, if it is a plain text. -/
def argument? : List Piece → Option Token
  | .token t :: rest =>
    if isPlainText t && (rest.filter (!isComment ·)).head?.all (·.isMark ',') then some t else none
  | _ => none

/-- The text behind the word `from`, if only names and lists stand in between. -/
def fromText? : List Piece → Option Token
  | .token t :: rest =>
    match t.isWord "from", rest.head? with
    | true, some (.token text) =>
      if text.kind = .literal then plainText? text else fromText? rest
    | _, _ =>
      if t.kind = .word || t.kind = .literal || t.isMark ',' || t.isMark '*' then fromText? rest
      else none
  | .group opener _ _ :: rest =>
    if opener.text = [Text.openBrace] then fromText? rest else none
  | [] => none

def isAccessPiece : Piece → Bool
  | .token t => t.kind = .mark && isAccess t.text
  | .group .. => false

/-- Whether the word in front of these pieces is a name of its own, and not that of a member. -/
def isFree (before : List Piece) : Bool := !before.head?.any isAccessPiece

/-- The text that names the module which the statement starting with the word `t` imports or exports
from. -/
def sourceText? (t : Token) (rest : List Piece) : Option Token :=
  if t.isWord "import" then
    match rest with
    | .token text :: _ => if text.kind = .literal then plainText? text else fromText? rest
    | _ => fromText? rest
  else if t.isWord "export" then
    let rest := if rest.head?.any (·.isWord "type") then rest.tail else rest
    if rest.head?.any (fun p => p.isMark '*' || p.isBraces) then fromText? rest else none
  else none

/-- The word `import` or `require` that a group of parentheses behind these pieces calls, perhaps as an
optional call. -/
def loader? (before : List Piece) (opener : Token) : Option Token :=
  let callee := match before with
    | .token t :: more => if t.text = ['?', '.'] then more else before
    | _ => before
  match callee with
  | .token t :: more =>
    if opener.text = ['('] ∧ isFree more = true ∧
        (t.isWord "import" || (t.isWord "require" && !more.head?.any (·.isWord "new"))) = true then
      some t
    else none
  | _ => none

/-- The node of a group behind these pieces, given its content and the nodes inside of it. -/
def groupTree (before : List Piece) (opener : Token) (body : List Piece)
    (inside : List (Syntax.Tree NamedNode)) : Syntax.Tree NamedNode :=
  match loader? before opener with
  | some t =>
    let function := t.leaf (if t.isWord "import" then "import" else "identifier") (some "function")
    let text := (argument? body).map (·.leaf "string" none)
    branch "call_expression" none t.breaks
      [function, branch "arguments" (some "arguments") opener.breaks (text.toList ++ inside)]
  | none => branch "statement_block" none opener.breaks inside

/-- The node of the statement that starts with the word `t` and names its module by a text. -/
def statementTree (t text : Token) : Syntax.Tree NamedNode :=
  branch (if t.isWord "import" then "import_statement" else "export_statement") none t.breaks
    [text.leaf "string" (some "source")]

mutual

/-- The nodes that one piece contributes, given the pieces in front of it, backwards and without
comments, and behind it. -/
def pieceTrees (before rest : List Piece) : Piece → List (Syntax.Tree NamedNode)
  | .token t =>
    if isFree before && (t.isWord "import" || t.isWord "export") then
      ((sourceText? t (rest.filter (!isComment ·))).map (statementTree t)).toList
    else []
  | .group opener body _ => [groupTree before opener body (forest [] body)]

def forest (before : List Piece) : List Piece → List (Syntax.Tree NamedNode)
  | [] => []
  | p :: rest =>
    if isComment p then forest before rest
    else pieceTrees before rest p ++ forest (p :: before) rest

end

end SourceAtlas.Script
