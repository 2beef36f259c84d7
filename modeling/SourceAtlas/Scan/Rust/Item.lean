import SourceAtlas.Scan.Rust.Token
import SourceAtlas.Scan.Node
import SourceAtlas.Syntax.Nesting

/-! The items of a Rust source as a tree. Its nodes are inline modules, module and `use` declarations,
external crates, and all other blocks; attributes and the arguments of macros hold no items. -/
namespace SourceAtlas.Rust

open Syntax

/-- Where a declaration starts whose first word is `t`, given the pieces in front of it. -/
def visibleFrom (before : List Piece) (t : Token) : Token :=
  match before with
  | .token v :: _ => if v.isWord "pub" then v else t
  | .group _ _ _ :: .token v :: _ => if v.isWord "pub" then v else t
  | _ => t

/-- The pieces at the front that can belong to one tree of paths. -/
def usePieces (afterName : Bool) : List Piece → List Piece
  | [] => []
  | .group o body closer :: rest =>
    if o.text = [Text.openBrace] then .group o body closer :: usePieces true rest else []
  | .token t :: rest =>
    if t.kind = .word then
      if t.isWord "as" then .token t :: usePieces false rest
      else if afterName then []
      else .token t :: usePieces true rest
    else if t.isMark ':' || t.isMark '*' then .token t :: usePieces false rest
    else []

/-- The declaration without a body that starts with the word `t`. -/
def declaration? (before : List Piece) (t : Token) (rest : List Piece) : Option (Syntax.Tree NamedNode) :=
  let breaks := (visibleFrom before t).breaks
  if t.isWord "mod" then
    match rest with
    | .token name :: .token mark :: _ =>
      if name.kind = .word ∧ mark.isMark ';' = true then
        some (branch "mod_item" none breaks [name.leaf "identifier" (some "name")])
      else none
    | _ => none
  else if t.isWord "use" then
    match usePieces false rest with
    | [] => none
    | pieces =>
      let argument := sourceText (Piece.tokensOfMany pieces)
      some (branch "use_declaration" none breaks
        [leaf "scoped_use_list" (some "argument") breaks argument])
  else if t.isWord "extern" then
    match rest with
    | .token word :: .token name :: _ =>
      if word.isWord "crate" = true ∧ name.kind = .word then
        some (branch "extern_crate_declaration" none breaks [name.leaf "identifier" (some "name")])
      else none
    | _ => none
  else none

/-- Words behind which an exclamation mark is an operator. -/
def operandWords : List String := ["if", "while", "match", "return", "in", "else", "break"]

/-- Whether a group behind these pieces belongs to an attribute or a macro. -/
def isOpaque : List Piece → Bool
  | .token mark :: .token t :: more =>
    mark.isMark '#' || (mark.isMark '!' && (t.isMark '#' ||
      (t.kind = .word && !operandWords.contains t.name))) ||
      (mark.kind = .word && t.isMark '!' && more.head?.any (·.isWord "macro_rules"))
  | [.token mark] => mark.isMark '#'
  | .token mark :: _ => mark.isMark '#'
  | _ => false

/-- The module that a group behind these pieces is the body of. -/
def module? (before : List Piece) (opener : Token) : Option (Token × Nat) :=
  match before with
  | .token name :: .token word :: more =>
    if opener.text = [Text.openBrace] ∧ name.kind = .word ∧ word.isWord "mod" = true then
      some (name, (visibleFrom more word).breaks)
    else none
  | _ => none

/-- The node of a group behind these pieces, given what is inside of it. -/
def groupTree (before : List Piece) (opener : Token) (inside : List (Syntax.Tree NamedNode)) :
    Syntax.Tree NamedNode :=
  match module? before opener with
  | some (name, breaks) =>
    branch "mod_item" none breaks
      [name.leaf "identifier" (some "name"),
        branch "declaration_list" (some "body") opener.breaks inside]
  | none => branch "block" none opener.breaks inside

mutual

/-- The nodes that one piece contributes, given the pieces in front of it, backwards, and behind it. -/
def pieceTrees (before rest : List Piece) : Piece → List (Syntax.Tree NamedNode)
  | .token t => (declaration? before t rest).toList
  | .group opener body _ =>
    if isOpaque before then [] else [groupTree before opener (forest [] body)]

def forest (before : List Piece) : List Piece → List (Syntax.Tree NamedNode)
  | [] => []
  | p :: rest => pieceTrees before rest p ++ forest (p :: before) rest

end

end SourceAtlas.Rust
