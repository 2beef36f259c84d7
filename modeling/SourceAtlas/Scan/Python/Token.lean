import SourceAtlas.Syntax.Literal
import SourceAtlas.Syntax.Token
import SourceAtlas.Text.Blank
import SourceAtlas.Text.Brace

/-! Tokens of Python. A line break is a mark of its own unless a backslash joins the lines; comments
count as blanks. Texts have one quote or three on each side and may be announced by letters. -/
namespace SourceAtlas.Python

open Syntax

/-- The text behind its opening quote, `passed` characters after the announcing letters. A text with
single quotes ends with its line at the latest. -/
def scanText (quote : Char) (passed : Nat) (body all : List Char) : Scan Unit :=
  if body.take 2 = [quote, quote] then
    match quotedBlock quote (passed + 2) (body.drop 2) with
    | some n => ⟨.literal, n, (), true⟩
    | none => ⟨.literal, all.length, (), false⟩
  else
    match quotedLineLength quote passed body with
    | some n => ⟨.literal, n, (), true⟩
    | none => ⟨.literal, passed + lineLength body, (), false⟩
where
  /-- Up to three quotes in a row. -/
  quotedBlock (quote : Char) (passed : Nat) : List Char → Option Nat
    | [] => none
    | '\\' :: _ :: rest => quotedBlock quote (passed + 2) rest
    | c :: rest =>
      if c = quote ∧ rest.take 2 = [quote, quote] then some (passed + 3)
      else quotedBlock quote (passed + 1) rest

def announces (word : List Char) : Bool :=
  word.length ≤ 2 && word.all fun c => "rbuftRBUFT".toList.contains c

def isLineBlank (c : Char) : Bool := Text.isBlank c && c != '\n'

def scan (_ : Unit) (c : Char) (rest : List Char) : Scan Unit :=
  if c = '\n' then ⟨.mark, 0, (), true⟩
  else if Text.isBlank c then ⟨.blank, (rest.takeWhile isLineBlank).length, (), true⟩
  else if c = '#' then ⟨.blank, lineLength rest, (), true⟩
  else if c = '\\' ∧ rest.head? = some '\n' then ⟨.blank, 1, (), true⟩
  else if c = '\\' ∧ rest.take 2 = ['\r', '\n'] then ⟨.blank, 2, (), true⟩
  else if isDigit c then ⟨.number, nameLength rest, (), true⟩
  else if Text.isWord c then
    let n := nameLength rest
    match rest.drop n with
    | q :: body =>
      if (q = '"' ∨ q = '\'') ∧ announces (c :: rest.take n) = true then
        scanText q (n + 1) body rest
      else ⟨.word, n, (), true⟩
    | [] => ⟨.word, n, (), true⟩
  else if c = '"' ∨ c = '\'' then scanText c 0 rest rest
  else if c = '(' ∨ c = '[' ∨ c = Text.openBrace then ⟨.opener, 0, (), true⟩
  else if c = ')' ∨ c = ']' ∨ c = Text.closeBrace then ⟨.closer, 0, (), true⟩
  else ⟨.mark, 0, (), true⟩

def lexemes (source : List Char) : List Lexeme := cut scan () source

end SourceAtlas.Python
