import SourceAtlas.Text.Alphanumeric
import SourceAtlas.Text.Blank
import SourceAtlas.Text.Brace
import SourceAtlas.Text.Split
import SourceAtlas.Text.Utf8
import SourceAtlas.TextMap

/-! Environment variables, and files that add to them. Every line of such a file gives one variable a
value, which may be quoted and may name other variables behind a dollar sign. Variables that are set
already keep their values, and at the first line that cannot be read the rest is left. -/
namespace SourceAtlas

abbrev Environment := TextMap String

namespace Environment

/-- Where a reader of lines stands: quotes and escapes may go on over the end of a line. -/
inductive LineState where
  | plain | blank | escape | strong | strongEscape | weak | weakEscape
  deriving DecidableEq, Repr

def LineState.unquoted (c : Char) : LineState :=
  if c = '\\' then .escape
  else if c = '"' then .weak
  else if c = '\'' then .strong
  else .plain

/-- One character further; nothing if a comment starts here. -/
def LineState.next (s : LineState) (c : Char) : Option LineState :=
  match s with
  | .blank => if c = '#' then none else some (unquoted c)
  | .escape => some .plain
  | .plain =>
    some (if Text.isBlank c && c ≠ '\n' && c ≠ '\r' then .blank else unquoted c)
  | .weak => some (if c = '\\' then .weakEscape else if c = '"' then .plain else .weak)
  | .weakEscape => some .weak
  | .strong => some (if c = '\\' then .strongEscape else if c = '\'' then .plain else .strong)
  | .strongEscape => some .strong

/-- What is in front of a comment, or all, with the state behind it if there is no comment. -/
def scanLine (s : LineState) : List Char → List Char × Option LineState
  | [] => ([], some s)
  | c :: rest =>
    match s.next c with
    | none => ([], none)
    | some s =>
      let (before, stop) := scanLine s rest
      (c :: before, stop)

/-- The pieces of a text that end with a break, breaks included. -/
def withBreaks (cs : List Char) : List (List Char) :=
  match (Text.split '\n' cs).reverse with
  | [] => []
  | last :: before =>
    ((if last.isEmpty then [] else [last]) ++ before.map (· ++ ['\n'])).reverse

def dropBreak (line : List Char) : List Char :=
  match Text.dropSuffix? ['\r', '\n'] line with
  | some before => before
  | none => (Text.dropSuffix? ['\n'] line).getD line

/-- Joins pieces to lines that leave no quote open. `begun` is what an unfinished line has so far.
An error ends the lines. -/
def joinLines (begun : List Char) (s : LineState) : List (List Char) → List (Option (List Char))
  | [] => if s = .plain then [] else [none]
  | piece :: rest =>
    let line := begun ++ piece
    if (Text.trimStart line).head? = some '#' then some [] :: joinLines [] .plain rest
    else
      match scanLine s piece with
      | (before, none) => some (begun ++ before) :: joinLines [] .plain rest
      | (_, some .plain) => some (dropBreak line) :: joinLines [] .plain rest
      | (_, some s) => joinLines line s rest

/-- What the value of a variable is while it is read. -/
inductive ValueState where
  | bare | strong | weak
  /-- Behind a backslash, inside of double quotes or not. -/
  | escape (quoted : Bool)
  /-- In a name behind a dollar sign. -/
  | name (quoted : Bool) (letters : List Char)
  /-- In a name between braces. -/
  | braced (quoted : Bool) (letters : List Char)
  /-- Only a comment may follow. -/
  | done
  deriving DecidableEq, Repr

/-- The value of a variable in the text of another: the environment counts before the file. -/
def substitute (env known : Environment) (name : List Char) : List Char :=
  let name := String.ofList name
  ((env.get? name).getD ((known.get? name).getD "")).toList

def quotedState (quoted : Bool) : ValueState := if quoted then .weak else .bare

/-- Reads the value on a line that is known to be trimmed. -/
def readValue (env known : Environment) : ValueState → List Char → Option (List Char)
  | .strong, [] | .weak, [] | .escape true, [] | .braced .., [] | .name true _, [] => none
  | .name false letters, [] => some (substitute env known letters)
  | .bare, [] | .escape false, [] | .done, [] => some []
  | .done, c :: rest =>
    if c = ' ' || c = '\t' then readValue env known .done rest
    else if c = '#' then some []
    else none
  | .escape quoted, c :: rest =>
    if ['\\', '\'', '"', '$', ' '].contains c then
      (readValue env known (quotedState quoted) rest).map (c :: ·)
    else if c = 'n' then (readValue env known (quotedState quoted) rest).map ('\n' :: ·)
    else none
  | .strong, c :: rest =>
    if c = '\'' then readValue env known .bare rest
    else (readValue env known .strong rest).map (c :: ·)
  | .name quoted letters, c :: rest =>
    if Text.isAlphanumeric c then readValue env known (.name quoted (letters ++ [c])) rest
    else if c = Text.openBrace && letters.isEmpty then readValue env known (.braced quoted []) rest
    else if c = '$' then
      (readValue env known (.name quoted []) rest).map (substitute env known letters ++ ·)
    else
      (readValue env known (quotedState quoted) rest).map fun more =>
        substitute env known letters ++ c :: more
  | .braced quoted letters, c :: rest =>
    if c = Text.closeBrace then
      (readValue env known (quotedState quoted) rest).map (substitute env known letters ++ ·)
    else readValue env known (.braced quoted (letters ++ [c])) rest
  | .weak, c :: rest =>
    if c = '$' then readValue env known (.name true []) rest
    else if c = '"' then readValue env known .bare rest
    else if c = '\\' then readValue env known (.escape true) rest
    else (readValue env known .weak rest).map (c :: ·)
  | .bare, c :: rest =>
    if c = '$' then readValue env known (.name false []) rest
    else if c = '\'' then readValue env known .strong rest
    else if c = '"' then readValue env known .weak rest
    else if c = '\\' then readValue env known (.escape false) rest
    else if c = ' ' || c = '\t' then readValue env known .done rest
    else (readValue env known .bare rest).map (c :: ·)

def isLetter (c : Char) : Bool := ('a' ≤ c && c ≤ 'z') || ('A' ≤ c && c ≤ 'Z')

def isNameChar (c : Char) : Bool := isLetter c || ('0' ≤ c && c ≤ '9') || c = '_' || c = '.'

/-- A name in front of other characters, with the blanks behind it left out. -/
def readName (cs : List Char) : Option (List Char × List Char) :=
  match cs with
  | [] => none
  | c :: _ =>
    if isLetter c || c = '_' then
      some (cs.takeWhile isNameChar, Text.trimStart (cs.dropWhile isNameChar))
    else none

/-- The name of a line and what follows its equals sign; the word `export` may stand in front. -/
def readAssignment (cs : List Char) : Option (List Char × List Char) := do
  match ← readName cs with
  | (name, '=' :: rest) => return (name, rest)
  | (name, rest) =>
    if name = "export".toList then
      match ← readName rest with
      | (name, '=' :: rest) => return (name, rest)
      | _ => none
    else none

/-- A line gives a variable a value, gives none, or cannot be read. -/
def readLine (env known : Environment) (line : List Char) : Option (Option (String × String)) :=
  match Text.trim line with
  | [] | '#' :: _ => some none
  | cs => do
    let (name, rest) ← readAssignment cs
    match Text.trimStart rest with
    | [] | '#' :: _ => return some (String.ofList name, "")
    | value => return some (String.ofList name, String.ofList (← readValue env known .bare value))

/-- Adds the variables of the lines to those that are set; `known` are the variables of the file. -/
def addLines (env known : Environment) : List (Option (List Char)) → Environment
  | [] | none :: _ => env
  | some line :: rest =>
    match readLine env known line with
    | none => env
    | some none => addLines env known rest
    | some (some (name, value)) =>
      addLines (if env.contains name then env else env.insert name value)
        (known.insert name value) rest

/-- The lines of a file up to the first that is no text. -/
def textPieces (bytes : Bytes) : List (Option (List Char)) :=
  let pieces := Text.split 0x0a bytes
  let texts := pieces.map fun piece => (Text.ofUtf8? piece).map (·.toList)
  let good := texts.takeWhile Option.isSome |>.filterMap id
  let whole := if good.length = texts.length then [] else [none]
  joinLines [] .plain (withBreaks (Text.joinWith ['\n'] good ++ if whole.isEmpty then [] else ['\n']))
    ++ whole

/-- Adds the variables of a file. -/
def addFile (env : Environment) (bytes : Bytes) : Environment :=
  let bytes := (Text.dropPrefix? [0xef, 0xbb, 0xbf] bytes).getD bytes
  addLines env .empty (textPieces bytes)

end Environment

end SourceAtlas
