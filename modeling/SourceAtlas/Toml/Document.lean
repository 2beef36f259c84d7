import SourceAtlas.Toml.Number
import SourceAtlas.Toml.Text

/-! Configuration files as they are written: lines that assign values to keys, headers of tables, and
comments. -/
namespace SourceAtlas.Toml

def skipSpace (cs : List Char) : List Char := cs.dropWhile isSpace

def isBareKey (c : Char) : Bool :=
  isDigit c || ('a' ≤ c && c ≤ 'z') || ('A' ≤ c && c ≤ 'Z') || c = '-' || c = '_'

/-- One part of a key: bare, or a text of one line. -/
def keyPart? (cs : List Char) : Option (List Char × List Char) :=
  match cs with
  | '"' :: rest => quotedText rest
  | '\'' :: rest => literalText rest
  | _ =>
    match cs.takeWhile isBareKey with
    | [] => none
    | bare => some (bare, cs.dropWhile isBareKey)

/-- A key of at most `parts` parts, with blanks around each, and what follows it. -/
def key? : (parts : Nat) → List Char → Option (List (List Char) × List Char)
  | 0, _ => none
  | parts + 1, cs => do
    let (first, rest) ← keyPart? (skipSpace cs)
    match skipSpace rest with
    | '.' :: rest => do
      let (more, rest) ← key? parts rest
      return (first :: more, rest)
    | rest => return ([first], rest)

/-- Neither keys nor values go deeper than this. -/
def deepest : Nat := 79

/-- Without the comment that `cs` may open with. -/
def skipComment (cs : List Char) : List Char :=
  match cs with
  | '#' :: rest => rest.dropWhile fun c => isPlain c || c = '\x7f'
  | _ => cs

/-- What follows the line, if nothing but a comment is left of it. -/
def endOfLine? (cs : List Char) : Option (List Char) :=
  match skipComment (skipSpace cs) with
  | [] => some []
  | '\n' :: rest => some rest
  | '\r' :: '\n' :: rest => some rest
  | _ => none

/-- Without the blanks, breaks and comments in front. -/
def skipBreaks (inComment : Bool) : List Char → List Char
  | [] => []
  | '\n' :: rest => skipBreaks false rest
  | '\r' :: '\n' :: rest => skipBreaks false rest
  | '#' :: rest => skipBreaks true rest
  | c :: rest =>
    if isSpace c || (inComment && (isPlain c || c = '\x7f')) then skipBreaks inComment rest
    else c :: rest

/-- Characters of a word that is no text. -/
def isWordChar (c : Char) : Bool := isBareKey c || c = '+' || c = '.' || c = ':'

/-- A value of one word. A date may be followed by a blank and a time. -/
def word? (cs : List Char) : Option (Value × List Char) := do
  let word := cs.takeWhile isWordChar
  let rest := cs.dropWhile isWordChar
  match rest with
  | ' ' :: d :: more =>
    if isDate word && isDigit d then
      if isZonedTime ((d :: more).takeWhile isWordChar) then
        return (.moment, (d :: more).dropWhile isWordChar)
      else none
    else return (← wordValue? word, rest)
  | _ => return (← wordValue? word, rest)

mutual

/-- A value that is nested at most `depth` deep. The steps bound the length of the text. -/
def value? (depth : Nat) : (steps : Nat) → List Char → Option (Value × List Char)
  | 0, _ => none
  | steps + 1, cs =>
    match cs with
    | '"' :: _ | '\'' :: _ => (readText cs).map fun (content, rest) => (.text content, rest)
    | '[' :: rest =>
      if depth = 0 then none
      else (items? (depth - 1) steps (skipBreaks false rest)).map fun (items, rest) =>
        (.array items, rest)
    | '\x7b' :: rest =>
      if depth = 0 then none
      else
        match skipSpace rest with
        | '\x7d' :: rest => some (.table .inline [], rest)
        | rest => (fields? (depth - 1) steps [] rest).map fun (entries, rest) =>
          (.table .inline entries, rest)
    | _ => word? cs

/-- The items of an array up to its end. A comma may follow the last. -/
def items? (depth : Nat) : (steps : Nat) → List Char → Option (List Value × List Char)
  | 0, _ => none
  | steps + 1, cs =>
    match cs with
    | ']' :: rest => some ([], rest)
    | _ => do
      let (item, rest) ← value? depth steps cs
      match skipBreaks false rest with
      | ']' :: rest => return ([item], rest)
      | ',' :: rest => do
        let (items, rest) ← items? depth steps (skipBreaks false rest)
        return (item :: items, rest)
      | _ => none

/-- The fields between braces, at least one, on one line, without a comma behind the last. -/
def fields? (depth : Nat) : (steps : Nat) → Entries → List Char → Option (Entries × List Char)
  | 0, _, _ => none
  | steps + 1, entries, cs => do
    let (path, rest) ← key? deepest cs
    match rest with
    | '=' :: rest => do
      let (value, rest) ← value? depth steps (skipSpace rest)
      let entries ← assign path value .inline entries
      match skipSpace rest with
      | '\x7d' :: rest => return (entries, rest)
      | ',' :: rest => fields? depth steps entries rest
      | _ => none
    | _ => none

end

/-- Opens the table at the end of a path. -/
def open? (change : List Char → Origin → Entries → Option Entries) (path : List (List Char))
    (root : Entries) : Option Entries :=
  match path.reverse with
  | [] => none
  | key :: before => within false (change key) before.reverse .header root

/-- Reads line by line; `header` is the path of the last header. -/
def lines? : (steps : Nat) → (header : List (List Char)) → Entries → List Char → Option Entries
  | 0, _, _, _ => none
  | steps + 1, header, root, cs =>
    match skipSpace cs with
    | [] => some root
    | '\n' :: rest => lines? steps header root rest
    | '\r' :: '\n' :: rest => lines? steps header root rest
    | '#' :: rest => do lines? steps header root (← endOfLine? ('#' :: rest))
    | '[' :: '[' :: rest => do
      match ← key? deepest rest with
      | (path, ']' :: ']' :: rest) =>
        lines? steps path (← open? openRow path root) (← endOfLine? rest)
      | _ => none
    | '[' :: rest => do
      match ← key? deepest rest with
      | (path, ']' :: rest) => lines? steps path (← open? openTable path root) (← endOfLine? rest)
      | _ => none
    | cs => do
      match ← key? deepest cs with
      | (path, '=' :: rest) =>
        let (value, rest) ← value? deepest (rest.length + 1) (skipSpace rest)
        let root ← within false (assign path value) header .header root
        lines? steps header root (← endOfLine? rest)
      | _ => none

/-- The table that a configuration file writes. -/
def ofText? (text : String) : Option Value :=
  let cs := match text.toList with
    | '\ufeff' :: rest => rest
    | cs => cs
  (lines? (cs.length + 1) [] [] cs).map (.table .header)

end SourceAtlas.Toml
