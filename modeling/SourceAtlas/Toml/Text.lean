import SourceAtlas.Text.Case
import SourceAtlas.Text.Hex

/-! The four kinds of text in a configuration file. Each reader starts behind the opening quotes and
gives the text with what follows the closing quotes. -/
namespace SourceAtlas.Toml

/-- Characters that stand for themselves: tabs, and everything that is no control character. -/
def isPlain (c : Char) : Bool := c = '\t' || (0x20 ≤ c.toNat && c.toNat ≠ 0x7f)

/-- Spaces and tabs. -/
def isSpace (c : Char) : Bool := c = ' ' || c = '\t'

/-- What one letter behind a backslash stands for. -/
def escaped? : Char → Option Char
  | 'b' => some '\x08'
  | 't' => some '\t'
  | 'n' => some '\n'
  | 'f' => some '\x0c'
  | 'r' => some '\r'
  | '"' => some '"'
  | '\\' => some '\\'
  | _ => none

/-- The character with this number, in hexadecimal digits of either case. -/
def numbered? (digits : List Char) : Option Char :=
  match Text.Hex.read? (digits.map Text.asciiLower) with
  | some n => if n.isValidChar then some (Char.ofNat n) else none
  | none => none

def cons? (c : Char) (read : Option (List Char × List Char)) : Option (List Char × List Char) :=
  read.map fun (content, rest) => (c :: content, rest)

/-- Between double quotes, on one line. -/
def quotedText : List Char → Option (List Char × List Char)
  | [] => none
  | '"' :: rest => some ([], rest)
  | '\\' :: 'u' :: a :: b :: c :: d :: rest => do
    cons? (← numbered? [a, b, c, d]) (quotedText rest)
  | '\\' :: 'U' :: a :: b :: c :: d :: e :: f :: g :: h :: rest => do
    cons? (← numbered? [a, b, c, d, e, f, g, h]) (quotedText rest)
  | '\\' :: c :: rest => do cons? (← escaped? c) (quotedText rest)
  | c :: rest => if isPlain c then cons? c (quotedText rest) else none

/-- Between single quotes, on one line, without escapes. -/
def literalText : List Char → Option (List Char × List Char)
  | [] => none
  | '\'' :: rest => some ([], rest)
  | c :: rest => if isPlain c then cons? c (literalText rest) else none

/-- Whether only blanks stand in front of the next break. -/
def breaksHere : List Char → Bool
  | [] => false
  | '\n' :: _ => true
  | '\r' :: '\n' :: _ => true
  | c :: rest => isSpace c && breaksHere rest

/-- Between three double quotes. Up to two more quotes at the end belong to the text; a backslash at
the end of a line takes away the break and all blanks behind it. -/
def longQuotedText (joining : Bool) : List Char → Option (List Char × List Char)
  | [] => none
  | '"' :: '"' :: '"' :: '"' :: '"' :: rest => some (['"', '"'], rest)
  | '"' :: '"' :: '"' :: '"' :: rest => some (['"'], rest)
  | '"' :: '"' :: '"' :: rest => some ([], rest)
  | '\r' :: '\n' :: rest =>
    if joining then longQuotedText true rest else cons? '\n' (longQuotedText false rest)
  | '\n' :: rest =>
    if joining then longQuotedText true rest else cons? '\n' (longQuotedText false rest)
  | '\\' :: 'u' :: a :: b :: c :: d :: rest => do
    cons? (← numbered? [a, b, c, d]) (longQuotedText false rest)
  | '\\' :: 'U' :: a :: b :: c :: d :: e :: f :: g :: h :: rest => do
    cons? (← numbered? [a, b, c, d, e, f, g, h]) (longQuotedText false rest)
  | '\\' :: c :: rest =>
    match escaped? c with
    | some character => cons? character (longQuotedText false rest)
    | none => if breaksHere (c :: rest) then longQuotedText true (c :: rest) else none
  | c :: rest =>
    if joining && isSpace c then longQuotedText true rest
    else if isPlain c then cons? c (longQuotedText false rest)
    else none

/-- Between three single quotes, without escapes. -/
def longLiteralText : List Char → Option (List Char × List Char)
  | [] => none
  | '\'' :: '\'' :: '\'' :: '\'' :: '\'' :: rest => some (['\'', '\''], rest)
  | '\'' :: '\'' :: '\'' :: '\'' :: rest => some (['\''], rest)
  | '\'' :: '\'' :: '\'' :: rest => some ([], rest)
  | '\r' :: '\n' :: rest => cons? '\n' (longLiteralText rest)
  | c :: rest => if c = '\n' || isPlain c then cons? c (longLiteralText rest) else none

/-- A break right behind the opening quotes does not belong to the text. -/
def dropBreak : List Char → List Char
  | '\n' :: rest => rest
  | '\r' :: '\n' :: rest => rest
  | cs => cs

/-- A text of any kind, from its opening quote on. -/
def readText : List Char → Option (List Char × List Char)
  | '"' :: '"' :: '"' :: rest => longQuotedText false (dropBreak rest)
  | '"' :: rest => quotedText rest
  | '\'' :: '\'' :: '\'' :: rest => longLiteralText (dropBreak rest)
  | '\'' :: rest => literalText rest
  | _ => none

end SourceAtlas.Toml
