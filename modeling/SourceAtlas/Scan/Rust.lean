import SourceAtlas.Scan.Rust.Item

/-! A scanner for Rust sources. Below the root of its tree stand the items of the top level, and then a
block with all items that something depends on. -/
namespace SourceAtlas.Rust

open Syntax

def modifiers : List String := ["pub", "default", "async", "unsafe", "const", "extern"]

/-- The first token of the item whose leading word is `start`, if the pieces in front of that are only
modifiers of the item. -/
def itemStart? (start : Token) : List Piece → Option Token
  | [] => some start
  | .token t :: before =>
    if t.isMark ';' then some start
    else if t.kind = .word && modifiers.contains t.name then itemStart? t before
    else if t.kind = .literal && before.head?.any (·.isWord "extern") then itemStart? start before
    else none
  | .group opener _ _ :: before =>
    if opener.text = ['('] then
      if before.head?.any (·.isWord "pub") then itemStart? start before else none
    else some start

/-- The words that items start with, and the kinds of the items. -/
def itemWords : List (String × String) :=
  [("fn", "function_item"), ("struct", "struct_item"), ("union", "union_item"), ("enum", "enum_item"),
   ("trait", "trait_item"), ("type", "type_item"), ("const", "const_item"), ("static", "static_item"),
   ("mod", "mod_item")]

/-- Whether an item that starts with this word can go on so behind its name. -/
def continuesItem (word : String) (rest : List Piece) : Bool :=
  let upToEnd := rest.takeWhile fun p => !p.isMark ';'
  if ["fn", "enum", "trait"].contains word then upToEnd.any Piece.isBraces
  else if word = "mod" then rest.head?.any Piece.isBraces
  else if ["struct", "union"].contains word then
    rest.head?.all fun p =>
      p.isMark ';' || p.isBraces || p.isParens || p.isMark '<' || p.isWord "where"
  else rest.head?.any fun p => p.isMark ':' || p.isMark '=' || p.isMark '<' || p.isWord "where"

/-- The item that the word `t` declares. Of its body only a module's is given, and without content. -/
def topItem? (before : List Piece) (t : Token) (rest : List Piece) : Option (Syntax.Tree NamedNode) := do
  let (word, kind) ← itemWords.find? fun w => t.isWord w.1
  let start ← itemStart? t before
  let rest := if rest.head?.any (·.isWord "mut") then rest.tail else rest
  match rest with
  | .token name :: rest =>
    if name.kind = .word && continuesItem word rest then
      let body := if word = "mod" then [branch "declaration_list" (some "body") name.breaks []] else []
      some (branch kind none start.breaks (name.leaf "identifier" (some "name") :: body))
    else none
  | _ => none

/-- The items of the top level, given the pieces in front of these, backwards. -/
def topItems (before : List Piece) : List Piece → List (Syntax.Tree NamedNode)
  | [] => []
  | p :: rest =>
    (match p with
      | .token t => (topItem? before t rest).toList
      | .group .. => []) ++ topItems (p :: before) rest

/-- Two neighbours that no correct source has. -/
def clashes (p next : Piece) : Bool :=
  (p.isMark '=' && next.isMark ';') ||
    ((p.isWord "use" || p.isWord "mod" || p.isWord "struct" || p.isWord "enum" || p.isWord "trait") &&
      (next.isMark ';' || (next.isMark '=' || (next.isBraces && !p.isWord "use"))))

mutual

/-- A fault that shows without knowing the whole grammar. -/
def hasFault : Piece → Bool
  | .token t => t.isMark '\\' || t.isMark '\x60'
  | .group _ body _ => anyFault body

def anyFault : List Piece → Bool
  | [] => false
  | p :: rest => hasFault p || (rest.head?.any (clashes p)) || anyFault rest

end

def itemTree (pieces : List Piece) : Syntax.Tree NamedNode :=
  branch "source_file" none 0 (topItems [] pieces ++ [branch "block" none 0 (forest [] pieces)])

def parse (source : String) : Parsed :=
  let lexemes := lexemes source.toList
  let nesting := nest (tokens lexemes)
  ⟨itemTree nesting.pieces,
    !nesting.balanced || lexemes.any (!·.complete) || anyFault nesting.pieces⟩

end SourceAtlas.Rust
