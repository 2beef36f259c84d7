import SourceAtlas.Syntax.Token
import SourceAtlas.Text.Brace

/-! Tokens grouped by brackets. A group that the end of the text leaves open is closed there if it is
the only one and its content can stand so; all other open brackets are plain tokens of the level
around them, and closing brackets without an opening one are left out. Only a text without either is
balanced. -/
namespace SourceAtlas.Syntax

inductive Piece where
  | token (t : Token)
  | group (opener : Token) (body : List Piece) (closer : Option Token)

namespace Piece

def first : Piece → Token
  | .token t => t
  | .group opener _ _ => opener

def isMark (c : Char) : Piece → Bool
  | .token t => t.isMark c
  | .group .. => false

def isWord (word : String) : Piece → Bool
  | .token t => t.isWord word
  | .group .. => false

/-- The token, if it is a word. -/
def word? : Piece → Option Token
  | .token t => if t.kind = .word then some t else none
  | .group .. => none

def isGroup (opener : List Char) : Piece → Bool
  | .token _ => false
  | .group o _ _ => o.text = opener

def isBraces (p : Piece) : Bool := p.isGroup [Text.openBrace]

def isParens (p : Piece) : Bool := p.isGroup ['(']

mutual

def tokens : Piece → List Token
  | .token t => [t]
  | .group opener body closer => opener :: (tokensOfMany body ++ closer.toList)

def tokensOfMany : List Piece → List Token
  | [] => []
  | p :: rest => p.tokens ++ tokensOfMany rest

end

end Piece

/-- A bracket that has been opened, and the pieces in front of it, backwards. -/
structure Open where
  opener : Token
  before : List Piece

structure Nesting where
  pieces : List Piece
  balanced : Bool

def closes (opener closer : Token) : Bool :=
  match opener.text.getLast?, closer.text with
  | some '(', [')'] => true
  | some '[', [']'] => true
  | some o, [c] => (o = Text.openBrace && c = Text.closeBrace) || (o = '\x60' && c = '\x60')
  | _, _ => false

/-- Whether a group may end behind this piece. -/
def canEnd (last : Piece) : Bool :=
  match last with
  | .token t => t.kind ≠ .mark || t.isMark ';' || t.isMark ','
  | .group .. => true

/-- Takes what is open at the end of the text apart. -/
def dissolve (level : List Piece) : List Open → List Piece
  | [] => level.reverse
  | o :: outer => dissolve (level ++ .token o.opener :: o.before) outer

def endOfText (level : List Piece) (opened : List Open) (balanced : Bool) : Nesting :=
  match opened with
  | [] => ⟨level.reverse, balanced⟩
  | [o] =>
    if level.head?.all canEnd then
      ⟨(Piece.group o.opener level.reverse none :: o.before).reverse, false⟩
    else ⟨dissolve level [o], false⟩
  | _ => ⟨dissolve level opened, false⟩

/-- Groups the tokens from here on; `level` are the pieces of the current level, backwards. -/
def nestFrom (level : List Piece) (opened : List Open) (balanced : Bool) : List Token → Nesting
  | [] => endOfText level opened balanced
  | t :: rest =>
    match t.kind with
    | .opener => nestFrom [] (⟨t, level⟩ :: opened) balanced rest
    | .closer =>
      match opened with
      | o :: outer =>
        if closes o.opener t then
          nestFrom (.group o.opener level.reverse (some t) :: o.before) outer balanced rest
        else nestFrom level opened false rest
      | [] => nestFrom level [] false rest
    | _ => nestFrom (.token t :: level) opened balanced rest

def nest (tokens : List Token) : Nesting := nestFrom [] [] true tokens

end SourceAtlas.Syntax
