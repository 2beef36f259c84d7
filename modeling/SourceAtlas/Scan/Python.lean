import SourceAtlas.Scan.Node
import SourceAtlas.Scan.Python.Statement

/-! A scanner for Python sources. Below the root of its tree stand the text that the source starts with,
the definitions outside of blocks, and then a block with all lines and the imports on them. -/
namespace SourceAtlas.Python

open Syntax

def isDotOrName (p : Piece) : Bool :=
  p.isMark '.' || (p.word?.any fun t => !t.isWord "as" && !t.isWord "import")

def piecesText (pieces : List Piece) : List Char := sourceText (Piece.tokensOfMany pieces)

/-- The dotted name that an item of an import starts with. -/
def nameTree? (item : Line) : Option (Syntax.Tree NamedNode) :=
  match item.pieces.takeWhile isDotOrName with
  | [] => none
  | pieces => some (leaf "dotted_name" (some "name") item.start.breaks (piecesText pieces))

def nameTrees (pieces : List Piece) : List (Syntax.Tree NamedNode) :=
  (splitPieces (·.isMark ',') (pieces.filter (!·.isMark '\n'))).filterMap nameTree?

/-- The names behind the second word of an import from a module. -/
def nameTreesFrom : List Piece → List (Syntax.Tree NamedNode)
  | [.group o body closer] =>
    nameTrees (if o.text = ['('] then body else [.group o body closer])
  | pieces => nameTrees pieces

/-- The import that a statement is. -/
def importTree? (s : Line) : Option (Syntax.Tree NamedNode) :=
  if s.first.isWord "import" then
    some (branch "import_statement" none s.start.breaks (nameTrees s.others))
  else if s.first.isWord "from" then
    let module := s.others.takeWhile isDotOrName
    match s.others.drop module.length with
    | word :: names =>
      let raw := piecesText module
      if word.isWord "import" && !module.isEmpty && raw != "__future__".toList then
        some (branch "import_from_statement" none s.start.breaks
          (leaf "dotted_name" (some "module_name") s.start.breaks raw :: nameTreesFrom names))
      else none
    | [] => none
  else none

/-- The imports among the statements of a line. -/
def importTrees (l : Line) : List (Syntax.Tree NamedNode) := (statements l).filterMap importTree?

/-- Lines with the number of blocks that each stands in, as trees: below a line are its imports and the
lines behind it that stand in more blocks. -/
def lineTrees : List (Line × Nat) → List (Syntax.Tree NamedNode)
  | [] => []
  | (l, depth) :: rest =>
    branch "block" none l.start.breaks
        (importTrees l ++ lineTrees (rest.takeWhile fun m => depth < m.2)) ::
      lineTrees (rest.dropWhile fun m => depth < m.2)
termination_by ls => ls.length
decreasing_by
  · exact Nat.lt_succ_of_le (List.takeWhile_sublist _).length_le
  · exact Nat.lt_succ_of_le (List.dropWhile_sublist _).length_le

/-- The definition that a line without decorators starts. -/
def definition? (l : Line) : Option (Syntax.Tree NamedNode) :=
  let words := if l.first.isWord "async" then l.others else l.pieces
  match words with
  | word :: .token name :: _ =>
    let node (kind : String) : Syntax.Tree NamedNode :=
      branch kind (some "definition") l.start.breaks [name.leaf "identifier" (some "name")]
    if name.kind = .word then
      if word.isWord "def" then some (node "function_definition")
      else if word.isWord "class" then some (node "class_definition")
      else none
    else none
  | _ => none

/-- The definitions of lines outside of blocks; `decorated` are the line breaks in front of the
decorators before them. -/
def definitionsFrom (decorated : Option Nat) : List Line → List (Syntax.Tree NamedNode)
  | [] => []
  | l :: rest =>
    if l.first.isMark '@' then definitionsFrom (some (decorated.getD l.start.breaks)) rest
    else
      match definition? l, decorated with
      | some definition, some breaks =>
        branch "decorated_definition" none breaks [definition] :: definitionsFrom none rest
      | some definition, none => definition :: definitionsFrom none rest
      | none, _ => definitionsFrom none rest

/-- The text that the first statement consists of. -/
def openingText? (ls : List Line) : Option Token := do
  let first ← ls.head?
  match first.first with
  | .token t =>
    let alone := first.others.head?.all fun p => p.isMark ';' || p.isMark ','
    if t.kind = .literal && alone then some t else none
  | .group .. => none

/-- The text that a source starts with; a comment in front of it takes its place. -/
def openingTree? (source : List Char) (ls : List Line) : Option (Syntax.Tree NamedNode) :=
  if (Text.trimStart source).head? = some '#' then none
  else (openingText? ls).map fun t =>
    branch "expression_statement" none t.breaks [t.leaf "string" none]

/-- Words that start a header, which holds a colon. -/
def headerWords : List String :=
  ["def", "class", "if", "elif", "else", "for", "while", "try", "except", "finally", "with"]

def lacksColon (l : Line) : Bool :=
  headerWords.any (fun w => l.first.isWord w) && !l.others.any (·.isMark ':')

def operators : List Char := ['=', '+', '-', '/', '%', '|', '&', '^', '<', '>', '~', '@']

def endsOpen (l : Line) : Bool :=
  l.pieces.getLast?.any fun p => operators.any fun c => p.isMark c

/-- An import of something that is no name. -/
def oddImport (s : Line) : Bool :=
  (s.first.isWord "import" || s.first.isWord "from") &&
    (s.others.isEmpty || s.others.any fun p =>
      match p with
      | .token t => t.kind = .literal || t.kind = .number ||
          (t.kind = .mark && !(t.isMark '.' || t.isMark ',' || t.isMark '*'))
      | .group .. => false)

def isForeign (t : Token) : Bool := t.isMark '$' || t.isMark '?' || t.isMark '\x60'

def moduleTree (source : List Char) (ls : List Line) : Syntax.Tree NamedNode :=
  let outside := (depths ls).filterMap fun (l, depth) => if depth = 0 then some l else none
  branch "module" none 0
    ((openingTree? source ls).toList ++ definitionsFrom none outside ++
      [branch "block" none 0 (lineTrees (depths ls))])

def parse (source : String) : Parsed :=
  let lexemes := lexemes source.toList
  let ts := tokens lexemes
  let nesting := nest ts
  let ls := lines nesting.pieces
  let faulty := ls.any (fun l => lacksColon l || endsOpen l) || ts.any isForeign ||
    (ls.flatMap statements).any oddImport
  ⟨moduleTree source.toList ls,
    !nesting.balanced || lexemes.any (!·.complete) || faulty⟩

end SourceAtlas.Python
