import SourceAtlas.Text.Split
import SourceAtlas.Text.Word

/-! Lengths of what scanners skip: names, quoted texts and comments. Each counts the characters behind
the opening mark, the closing mark included, on top of those already passed, and answers nothing if the
text ends first. -/
namespace SourceAtlas.Syntax

def isDigit (c : Char) : Bool := '0' ≤ c && c ≤ '9'

/-- Whether a name may start so. -/
def isNameHead (c : Char) : Bool := Text.isWord c && !isDigit c

def nameLength (cs : List Char) : Nat := (cs.takeWhile Text.isWord).length

/-- Up to the quote; a backslash hides the character behind it. -/
def quotedLength (quote : Char) (passed : Nat) : List Char → Option Nat
  | [] => none
  | c :: rest =>
    if c = '\\' then
      match rest with
      | [] => none
      | _ :: rest => quotedLength quote (passed + 2) rest
    else if c = quote then some (passed + 1)
    else quotedLength quote (passed + 1) rest

/-- Up to the quote, on the same line; a backslash hides the character behind it. -/
def quotedLineLength (quote : Char) (passed : Nat) : List Char → Option Nat
  | [] => none
  | '\\' :: _ :: rest => quotedLineLength quote (passed + 2) rest
  | c :: rest =>
    if c = quote then some (passed + 1)
    else if c = '\n' then none
    else quotedLineLength quote (passed + 1) rest

/-- Up to the closing marks. -/
def lengthThrough (close : List Char) (passed : Nat) : List Char → Option Nat
  | [] => if close.isEmpty then some passed else none
  | c :: rest =>
    if Text.startsWith close (c :: rest) then some (passed + close.length)
    else lengthThrough close (passed + 1) rest

/-- Up to the end of a block comment in which others may be nested, `depth` being open. -/
def nestedCommentLength (depth passed : Nat) : List Char → Option Nat
  | '/' :: '*' :: rest => nestedCommentLength (depth + 1) (passed + 2) rest
  | '*' :: '/' :: rest =>
    if depth ≤ 1 then some (passed + 2) else nestedCommentLength (depth - 1) (passed + 2) rest
  | _ :: rest => nestedCommentLength depth (passed + 1) rest
  | [] => none

/-- Up to the end of the line, the line break left out. -/
def lineLength (cs : List Char) : Nat := (cs.takeWhile (· != '\n')).length

end SourceAtlas.Syntax
