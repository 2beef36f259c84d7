import SourceAtlas.Syntax.Literal
import SourceAtlas.Syntax.Token
import SourceAtlas.Text.Blank
import SourceAtlas.Text.Brace

/-! Tokens of Rust: comments nest and count as blanks, raw texts close with as many hash marks as they
open with, and a single quote opens a character or names a lifetime. -/
namespace SourceAtlas.Rust

open Syntax

/-- A lexeme with a known length, or one that the end of the text cuts short. -/
def closing (kind : LexemeKind) (length : Option Nat) (rest : List Char) : Scan Unit :=
  match length with
  | some n => ⟨kind, n, (), true⟩
  | none => ⟨kind, rest.length, (), false⟩

/-- The hash marks and the quote that open a raw text; gives the number of marks. -/
def rawOpening? (cs : List Char) : Option Nat :=
  let hashes := (cs.takeWhile (· == '#')).length
  if (cs.drop hashes).head? == some '"' then some hashes else none

def rawLength (hashes passed : Nat) (cs : List Char) : Option Nat :=
  lengthThrough ('"' :: List.replicate hashes '#') (passed + hashes + 1) (cs.drop (hashes + 1))

def textMarks : List (List Char) := [['b'], ['c']]

def rawMarks : List (List Char) := [['r'], ['b', 'r'], ['c', 'r']]

/-- A name, or the text that a name of one or two letters announces. -/
def scanWord (c : Char) (rest : List Char) : Scan Unit :=
  let n := nameLength rest
  let word := c :: rest.take n
  let after := rest.drop n
  match after with
  | '"' :: body =>
    if textMarks.contains word then closing .literal (quotedLength '"' (n + 1) body) rest
    else if rawMarks.contains word then closing .literal (rawLength 0 n after) rest
    else ⟨.word, n, (), true⟩
  | '\'' :: body =>
    if word = ['b'] then closing .literal (quotedLength '\'' (n + 1) body) rest
    else ⟨.word, n, (), true⟩
  | '#' :: next :: body =>
    match rawOpening? after with
    | some hashes =>
      if rawMarks.contains word then closing .literal (rawLength hashes n after) rest
      else ⟨.word, n, (), true⟩
    | none =>
      if word = ['r'] && isNameHead next then ⟨.word, n + 2 + nameLength body, (), true⟩
      else ⟨.word, n, (), true⟩
  | _ => ⟨.word, n, (), true⟩

/-- A character between quotes, or the name of a lifetime. -/
def scanQuote (rest : List Char) : Scan Unit :=
  match rest with
  | '\\' :: _ => closing .literal (quotedLength '\'' 0 rest) rest
  | c :: after =>
    if after.head? == some '\'' && c != '\'' then ⟨.literal, 2, (), true⟩
    else ⟨.literal, nameLength rest, (), true⟩
  | [] => ⟨.literal, 0, (), false⟩

def scan (_ : Unit) (c : Char) (rest : List Char) : Scan Unit :=
  if Text.isBlank c then ⟨.blank, (rest.takeWhile Text.isBlank).length, (), true⟩
  else if c = '/' ∧ rest.head? = some '/' then ⟨.blank, lineLength rest, (), true⟩
  else if c = '/' ∧ rest.head? = some '*' then
    closing .blank (nestedCommentLength 1 1 rest.tail) rest
  else if isDigit c then ⟨.number, nameLength rest, (), true⟩
  else if Text.isWord c then scanWord c rest
  else if c = '"' then closing .literal (quotedLength '"' 0 rest) rest
  else if c = '\'' then scanQuote rest
  else if c = '(' ∨ c = '[' ∨ c = Text.openBrace then ⟨.opener, 0, (), true⟩
  else if c = ')' ∨ c = ']' ∨ c = Text.closeBrace then ⟨.closer, 0, (), true⟩
  else ⟨.mark, 0, (), true⟩

def lexemes (source : List Char) : List Lexeme := cut scan () source

end SourceAtlas.Rust
