import SourceAtlas.Syntax.Literal
import SourceAtlas.Syntax.Token
import SourceAtlas.Text.Blank
import SourceAtlas.Text.Brace

/-! Tokens of JavaScript and TypeScript. Code, template text and markup follow each other, so the
scanner keeps what it is inside of, and what stands in front of it, which tells a division from a
pattern and a comparison from an element of markup. A template is a group between back quotes, with a
group for each substitution; the text and tags of markup are literals, with a group for each
expression among them. -/
namespace SourceAtlas.Script

open Syntax

inductive Inside where
  /-- Parentheses; `head` if they belong to the head of a statement. -/
  | parens (head : Bool)
  | brackets
  /-- Braces; `operand` if a value ends with them. -/
  | braces (operand : Bool)
  | template
  /-- A tag, an end tag if `closing`. -/
  | tag (closing : Bool)
  /-- What stands between a start tag and its end tag. -/
  | content
  deriving DecidableEq, Repr

structure State where
  /-- Innermost first. -/
  inside : List Inside
  /-- Whether the last token ended a value. -/
  operand : Bool
  /-- The text of the last token. -/
  last : List Char

def isScriptBlank (c : Char) : Bool :=
  Text.isBlank c || c == '\ufeff' || c == '\u2060' || c == '\u200b'

def isPunctuation (c : Char) : Bool :=
  "\x60;:\"'@#.,|^&<=>+-*/\\%?!~()[]\x7b\x7d".toList.contains c

def isNameChar (c : Char) : Bool := !(isScriptBlank c || isPunctuation c || c.toNat < 0x20)

def wordLength (cs : List Char) : Nat := (cs.takeWhile isNameChar).length

/-- Words with a value behind them. -/
def operatorWords : List String :=
  ["return", "typeof", "instanceof", "in", "of", "new", "delete", "void", "throw", "case", "do",
   "else", "yield", "await", "default", "extends"]

def isAccess (mark : List Char) : Bool := mark = ['.'] || mark = ['?', '.']

/-- Tokens behind which braces are a block. -/
def blockOpeners : List (List Char) :=
  [[], ['=', '>'], [';'], [Text.openBrace], [Text.closeBrace], [')']] ++
    ["else", "do", "try", "finally"].map String.toList

def headWords : List String := ["if", "while", "for", "with"]

/-- Up to the slash that closes a pattern: none inside of a class counts. -/
def patternLength (inClass : Bool) (passed : Nat) : List Char → Option Nat
  | [] => none
  | '\\' :: _ :: rest => patternLength inClass (passed + 2) rest
  | c :: rest =>
    if c = '\n' then none
    else if c = '/' ∧ inClass = false then some (passed + 1)
    else patternLength (c = '[' || (inClass && c != ']')) (passed + 1) rest

/-- Up to the end of a template or the start of a substitution, neither included. -/
def templateTextLength (passed : Nat) : List Char → Nat
  | [] => passed
  | '\\' :: _ :: rest => templateTextLength (passed + 2) rest
  | c :: rest =>
    if c = '\x60' ∨ (c = '$' ∧ rest.head? = some Text.openBrace) then passed
    else templateTextLength (passed + 1) rest

/-- How far a tag goes: up to a brace, which is left out, or through its end. The end comes with whether
it closes the element at once. -/
def tagLength (quote : Option Char) (previous : Char) (passed : Nat) : List Char → Nat × Option Bool
  | [] => (passed, none)
  | c :: rest =>
    match quote with
    | some q => tagLength (if c = q then none else some q) c (passed + 1) rest
    | none =>
      if c = Text.openBrace then (passed, none)
      else if c = '>' then (passed + 1, some (previous == '/'))
      else tagLength (if c = '"' ∨ c = '\'' then some c else none) c (passed + 1) rest

def contains (part cs : List Char) : Bool := (lengthThrough part 0 cs).isSome

def isTagChar (c : Char) : Bool := isNameChar c || c == '.' || c == '-' || c == ':'

/-- Whether an element of markup starts with the angle bracket in front of `rest`: its end is in sight,
and its name is not that of a type parameter. -/
def startsElement (rest : List Char) : Bool :=
  match rest with
  | '>' :: body => contains ['<', '/', '>'] body
  | c :: _ =>
    let name := rest.takeWhile isTagChar
    let after := rest.dropWhile isTagChar
    isNameChar c && !isDigit c &&
      after.head?.any (fun d => isScriptBlank d || d == '/' || d == '>') &&
      !Text.startsWith "extends ".toList (Text.trimStart after) &&
      (contains ('<' :: '/' :: name) after || contains ['/', '>'] after)
  | [] => false

/-- What the scanner is inside of behind a tag that ends. -/
def afterTag (atOnce : Bool) : List Inside → List Inside
  | .tag true :: .content :: outer => outer
  | .tag true :: outer => outer
  | .tag false :: outer => if atOnce then outer else .content :: outer
  | inside => inside

/-- A stretch of a tag; `all` starts with its first character. -/
def scanTag (inside : List Inside) (all : List Char) : Scan State :=
  match tagLength none ' ' 0 all with
  | (n, none) => ⟨.literal, n - 1, ⟨inside, true, ['>']⟩, true⟩
  | (n, some atOnce) => ⟨.literal, n - 1, ⟨afterTag atOnce inside, true, ['>']⟩, true⟩

def startTag (inside : List Inside) (rest : List Char) : Scan State :=
  scanTag (.tag (rest.head? == some '/') :: inside) ('<' :: rest)

def opening (s : State) (inner : Inside) (c : Char) (more : Nat) : Scan State :=
  ⟨.opener, more, ⟨inner :: s.inside, false, [c]⟩, true⟩

def mark (s : State) (c : Char) (more : Nat) (rest : List Char) (operand : Bool) : Scan State :=
  ⟨.mark, more, ⟨s.inside, operand, c :: rest.take more⟩, true⟩

def scanMark (s : State) (c : Char) (rest : List Char) : Scan State :=
  match c, rest with
  | '=', '>' :: _ => mark s c 1 rest false
  | '?', '.' :: d :: _ => if isDigit d then mark s c 0 rest false else mark s c 1 rest false
  | '.', '.' :: '.' :: _ => mark s c 2 rest false
  | '+', '+' :: _ => mark s c 1 rest s.operand
  | '-', '-' :: _ => mark s c 1 rest s.operand
  | '!', '=' :: _ => mark s c 1 rest false
  | '!', _ => mark s c 0 rest s.operand
  | _, _ => mark s c 0 rest false

def closing (s : State) (c : Char) : Scan State :=
  match c, s.inside with
  | ')', .parens head :: outer => ⟨.closer, 0, ⟨outer, !head, [c]⟩, true⟩
  | ')', outer => ⟨.closer, 0, ⟨outer, true, [c]⟩, true⟩
  | ']', .brackets :: outer => ⟨.closer, 0, ⟨outer, true, [c]⟩, true⟩
  | _, .braces operand :: outer => ⟨.closer, 0, ⟨outer, operand, [c]⟩, true⟩
  | _, outer => ⟨.closer, 0, ⟨outer, true, [c]⟩, true⟩

/-- A literal that ends a value, or one that is cut short. -/
def literal (s : State) (length : Option Nat) (rest : List Char) : Scan State :=
  match length with
  | some n => ⟨.literal, n, ⟨s.inside, true, ['"']⟩, true⟩
  | none => ⟨.literal, lineLength rest, ⟨s.inside, true, ['"']⟩, false⟩

def scanCode (markup : Bool) (s : State) (c : Char) (rest : List Char) : Scan State :=
  if isScriptBlank c then ⟨.blank, (rest.takeWhile isScriptBlank).length, s, true⟩
  else if c = '#' ∧ rest.head? = some '!' then ⟨.blank, lineLength rest, s, true⟩
  else if c = '/' ∧ rest.head? = some '/' then ⟨.comment, lineLength rest, s, true⟩
  else if c = '/' ∧ rest.head? = some '*' then
    match lengthThrough ['*', '/'] 1 rest.tail with
    | some n => ⟨.comment, n, s, true⟩
    | none => ⟨.comment, rest.length, s, false⟩
  else if isDigit c then ⟨.number, wordLength rest, ⟨s.inside, true, ['0']⟩, true⟩
  else if isNameChar c then
    let n := wordLength rest
    let word := c :: rest.take n
    ⟨.word, n, ⟨s.inside, isAccess s.last || !operatorWords.contains (String.ofList word), word⟩, true⟩
  else if c = '"' ∨ c = '\'' then literal s (quotedLineLength c 0 rest) rest
  else if c = '\x60' then opening s .template c 0
  else if c = '(' then opening s (.parens (headWords.contains (String.ofList s.last))) c 0
  else if c = '[' then opening s .brackets c 0
  else if c = Text.openBrace then opening s (.braces (!s.operand && !blockOpeners.contains s.last)) c 0
  else if c = ')' ∨ c = ']' ∨ c = Text.closeBrace then closing s c
  else if c = '/' ∧ s.operand = false then
    match patternLength false 0 rest with
    | some n => literal s (some (n + wordLength (rest.drop n))) rest
    | none => scanMark s c rest
  else if c = '<' ∧ markup = true ∧ s.operand = false ∧ startsElement rest = true then
    startTag s.inside rest
  else scanMark s c rest

def scanTemplate (s : State) (outer : List Inside) (c : Char) (rest : List Char) : Scan State :=
  if c = '\x60' then ⟨.closer, 0, ⟨outer, true, [c]⟩, true⟩
  else if c = '$' ∧ rest.head? = some Text.openBrace then opening s (.braces true) '(' 1
  else ⟨.literal, templateTextLength 0 (c :: rest) - 1, s, true⟩

def scanContent (s : State) (c : Char) (rest : List Char) : Scan State :=
  if c = Text.openBrace then opening s (.braces true) '(' 0
  else if c = '<' then startTag s.inside rest
  else ⟨.literal, (rest.takeWhile fun d => d != '<' && d != Text.openBrace).length, s, true⟩

/-- Reads markup if `markup` is set; without it, an angle bracket is always a mark. -/
def scan (markup : Bool) (s : State) (c : Char) (rest : List Char) : Scan State :=
  match s.inside with
  | .template :: outer => scanTemplate s outer c rest
  | .tag _ :: _ =>
    if c = Text.openBrace then opening s (.braces true) '(' 0 else scanTag s.inside (c :: rest)
  | .content :: _ => scanContent s c rest
  | _ => scanCode markup s c rest

def lexemes (markup : Bool) (source : List Char) : List Lexeme :=
  cut (scan markup) ⟨[], false, []⟩ source

end SourceAtlas.Script
