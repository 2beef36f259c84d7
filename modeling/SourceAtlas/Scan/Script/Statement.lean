import SourceAtlas.Scan.Script.Import

/-! The statements at the top level of a JavaScript or TypeScript source. A statement ends with a
semicolon, with the body of a declaration or block, or with its line, if what it consists of can end and
the next line does not go on with it. Comments between statements are comments of the top level. -/
namespace SourceAtlas.Script

open Syntax

/-- The pieces of a statement, without comments. -/
abbrev Statement := List Piece

def isText (text : String) (p : Piece) : Bool :=
  match p with
  | .token t => t.text = text.toList
  | .group .. => false

/-- A mark or word behind which braces are a type or a pattern, and not a body. -/
def needsType (p : Piece) : Bool :=
  [":", "|", "&", "<", ",", "=>", "?", "=", "extends", "implements", "keyof", "typeof", "is",
    "infer"].any fun text => isText text p

/-- What follows the members and the arguments of a decorator. -/
def decoratorRest : List Piece → List Piece
  | .token dot :: .token name :: rest =>
    if dot.isMark '.' ∧ name.kind = .word then decoratorRest rest
    else .token dot :: .token name :: rest
  | .group opener body closer :: rest =>
    if opener.text = ['('] then rest else .group opener body closer :: rest
  | pieces => pieces

theorem decoratorRest_length_le (pieces : List Piece) :
    (decoratorRest pieces).length ≤ pieces.length := by
  fun_induction decoratorRest pieces with
  | case1 dot name rest _ ih =>
    simp only [List.length_cons]
    omega
  | case2 dot name rest _ => exact Nat.le_refl _
  | case3 opener body closer rest _ => exact Nat.le_succ _
  | case4 opener body closer rest _ => exact Nat.le_refl _
  | case5 pieces _ _ => exact Nat.le_refl _

/-- Drops the decorators at the front: a name after an at sign, perhaps called. -/
def dropDecorators : List Piece → List Piece
  | .token sign :: .token name :: rest =>
    if sign.isMark '@' ∧ name.kind = .word then dropDecorators (decoratorRest rest)
    else .token sign :: .token name :: rest
  | pieces => pieces
termination_by pieces => pieces.length
decreasing_by
  have := decoratorRest_length_le rest
  simp only [List.length_cons]; omega

/-- The declaration in a statement: what follows decorators, `export` and `default`. Decorators count
only where a class follows them directly. -/
def declaration (s : Statement) : List Piece :=
  let inner := dropDecorators s
  match inner with
  | .token t :: rest =>
    if t.isWord "export" then
      match rest with
      | .token d :: more => if d.isWord "default" then more else rest
      | _ => rest
    else s
  | _ => s

def leadingWords : List String := ["async", "abstract", "declare", "const"]

/-- The word that tells what a declaration is, behind the words that only qualify it, and what follows
it. -/
def kind? (pieces : List Piece) : Option (Token × List Piece) :=
  match pieces.dropWhile fun p => leadingWords.any fun w => p.isWord w with
  | .token t :: rest => if t.kind = .word then some (t, rest) else none
  | _ => none

def isName (p : Piece) : Bool := p.word?.isSome

/-- Whether a declaration of this kind has a body in braces, given what follows the word. -/
def hasBody (word : Token) (rest : List Piece) : Bool :=
  let next := rest.head?
  if word.isWord "function" then next.any fun p => isName p || p.isMark '*' || p.isParens
  else if word.isWord "class" then true
  else if word.isWord "interface" || word.isWord "enum" then next.any isName
  else if word.isWord "namespace" || word.isWord "module" then
    next.any fun p => isName p || p.first.kind = .literal
  else word.isWord "global" && next.any Piece.isBraces

def hasBodyKind (d : List Piece) : Bool := (kind? d).any fun (word, rest) => hasBody word rest

/-- Words that start a compound statement. -/
def compoundWords : List String :=
  ["if", "for", "while", "with", "switch", "try", "do", "else", "catch", "finally"]

/-- Whether the last piece, given first, closes a block: a body, or braces where a statement can be. -/
def endsBlock (d reversed : List Piece) : Bool :=
  match reversed with
  | last :: before =>
    last.isBraces &&
      (if hasBodyKind d then !before.head?.any needsType
      else before.isEmpty ||
        (d.head?.any (fun p => compoundWords.any fun w => p.isWord w) &&
          before.head?.any fun p => p.isParens || compoundWords.any fun w => p.isWord w))
  | [] => false

/-- Words that cannot be the last one of a statement. -/
def openWords : List String :=
  ["typeof", "instanceof", "in", "of", "new", "delete", "void", "case", "default", "export", "import",
   "from", "const", "let", "var", "function", "class", "interface", "enum", "extends", "implements",
   "else", "do", "try", "finally", "async", "await", "abstract", "declare", "as", "satisfies", "keyof",
   "namespace", "module"]

/-- Whether a statement can end behind the last of its pieces, which is given first. -/
def canEndLine (d reversed : List Piece) : Bool :=
  match reversed with
  | .token t :: before =>
    match t.kind with
    | .mark =>
      t.text = ['+', '+'] || t.text = ['-', '-'] || t.isMark '!' ||
        (t.isMark '>' && before.countP (·.isMark '>') < before.countP (·.isMark '<'))
    | .word => !(openWords.any fun w => t.isWord w) || before.head?.any isAccessPiece
    | _ => true
  | .group opener _ _ :: before =>
    !(opener.text = ['('] && !d.head?.any (·.isWord "do") &&
      before.head?.any fun p => ["if", "for", "while", "with", "switch", "catch"].any fun w =>
        p.isWord w)
  | [] => false

/-- Whether a declaration is complete enough for its line to end it. -/
def isWhole (typed : Bool) (d : List Piece) : Bool :=
  match kind? d with
  | some (word, rest) =>
    if hasBody word rest then
      if word.isWord "function" then typed && d.any Piece.isParens else d.any Piece.isBraces
    else if word.isWord "import" then
      rest.any fun p => p.first.kind = .literal || p.isMark '=' || p.isMark '.' || p.isParens
    else true
  | none => !(dropDecorators d).isEmpty

/-- Whether a token at the start of a line goes on with the statement of the line before. -/
def continuesLine (next : Token) : Bool :=
  if next.kind = .word then next.isWord "in" || next.isWord "instanceof"
  else match next.text with
    | ['+', '+'] | ['-', '-'] => false
    | '!' :: rest => rest == ['=']
    | '+' :: _ | '-' :: _ => true
    | '.' :: rest => rest.isEmpty || rest == ['.', '.']
    | c :: _ => "\x60,:*%><=[(?^|&/".toList.contains c
    | [] => true

/-- Words that go on with a compound statement behind a block. -/
def continuesBlock (d : List Piece) (next : Token) : Bool :=
  ["else", "catch", "finally"].any (fun w => next.isWord w) ||
    (next.isWord "while" && d.head?.any (·.isWord "do"))

/-- Whether the statement that consists of these pieces, backwards, ends in front of `next`. -/
def endsBefore (typed : Bool) (reversed : List Piece) (newLine : Bool) (next : Token) : Bool :=
  if reversed.head?.any (·.isMark ';') then true
  else if next.isMark ';' || !(newLine || reversed.head?.any Piece.isBraces) then false
  else
    let d := declaration reversed.reverse
    if endsBlock d reversed then !continuesBlock d next
    else newLine && canEndLine d reversed && !continuesLine next && isWhole typed d &&
      !(next.text = [Text.openBrace] && hasBodyKind d)

/-- Whether a statement of this kind may take a semicolon that is not written: all but the declarations
that are complete with their braces. -/
def takesSemicolon (d : List Piece) : Bool :=
  match kind? d with
  | some (word, rest) =>
    !(hasBody word rest &&
      (word.isWord "interface" || word.isWord "enum" || d.any (·.isWord "abstract")))
  | none => true

/-- What the source consists of at the top level. -/
structure Parts where
  statements : List Statement
  comments : List Token

/-- The state while pieces are read: the current statement, the comments behind it on its last line and
on later ones, whether a line break stands behind it, and the parts already complete. All lists are
backwards. -/
structure Reading where
  current : List Piece
  beside : List Token
  pending : List Token
  newLine : Bool
  statements : List Statement
  comments : List Token

/-- The comments behind the current statement that are none of its own. In TypeScript a semicolon that
is not written comes behind the comments on the last line. -/
def Reading.outside (typed : Bool) (r : Reading) (semicolon : Bool) : List Token :=
  let own := typed && semicolon && !r.current.head?.any (·.isMark ';') &&
    takesSemicolon (declaration r.current.reverse)
  r.pending ++ (if own then [] else r.beside)

/-- Takes a piece that is no comment. -/
def Reading.take (typed : Bool) (r : Reading) (newLine : Bool) (p : Piece) : Reading :=
  if r.current.isEmpty then
    ⟨[p], [], [], false, r.statements, r.pending ++ r.beside ++ r.comments⟩
  else if endsBefore typed r.current newLine p.first then
    ⟨[p], [], [], false, r.current.reverse :: r.statements,
      r.outside typed (newLine && !continuesLine p.first) ++ r.comments⟩
  else ⟨p :: r.current, [], [], false, r.statements, r.comments⟩

def Reading.step (typed : Bool) (r : Reading) (p : Piece) : Reading :=
  let newLine := r.newLine || p.first.startsLine
  match p with
  | .token t =>
    if t.kind = .comment then
      let after := newLine || t.text.contains '\n'
      if newLine then { r with pending := t :: r.pending, newLine := after }
      else { r with beside := t :: r.beside, newLine := after }
    else r.take typed newLine p
  | .group .. => r.take typed newLine p

/-- Splits the pieces of the top level; `typed` tells TypeScript from JavaScript. -/
def parts (typed : Bool) (pieces : List Piece) : Parts :=
  let r := pieces.foldl (Reading.step typed) ⟨[], [], [], false, [], []⟩
  if r.current.isEmpty then ⟨r.statements.reverse, (r.pending ++ r.beside ++ r.comments).reverse⟩
  else ⟨(r.current.reverse :: r.statements).reverse, (r.outside typed true ++ r.comments).reverse⟩

end SourceAtlas.Script
