import SourceAtlas.Extraction
import SourceAtlas.Term
import SourceAtlas.Text.Blank
import SourceAtlas.Text.Pattern

/-! Markdown documents. The destinations of links and of reference definitions that lie in the tree
are dependencies, and headings are documentation. -/
namespace SourceAtlas.Markdown

open Text (Pattern Match)

def isSpaceOrTab (c : Char) : Bool := c == ' ' || c == '\t'

def isLetter (c : Char) : Bool := ('a' ≤ c && c ≤ 'z') || ('A' ≤ c && c ≤ 'Z')

def isSchemeChar (c : Char) : Bool :=
  isLetter c || ('0' ≤ c && c ≤ '9') || c == '+' || c == '.' || c == '-'

/-- Any character of a line but the one that closes a bracket. -/
def isWithin (close : Char) (c : Char) : Bool := c != close && c != '\n'

/-- A label in brackets, and right after it the destination in parentheses. -/
def inlineLink : Pattern := .inOrder
  [.char (· == '['), .run (isWithin ']') 0 none, .char (· == ']'),
   .char (· == '('), .group 1 (.run (isWithin ')') 1 none), .char (· == ')')]

def indent : Pattern := .run isSpaceOrTab 0 (some 3)

def referenceDefinition : Pattern := .inOrder
  [.lineStart, indent, .char (· == '['), .run (isWithin ']') 1 none, .word "]:",
   .run isSpaceOrTab 0 none, .group 1 (.run (fun c => !Text.isBlank c) 1 none)]

/-- One to six marks, a blank, and more. -/
def heading : Pattern := .inOrder
  [.lineStart, indent, .run (· == '#') 1 (some 6), .run isSpaceOrTab 1 none,
   .group 1 (.run (· != '\n') 1 none), .lineEnd]

/-- The scheme of an address. -/
def scheme : Pattern := .inOrder
  [.textStart, .char isLetter, .run isSchemeChar 0 none, .char (· == ':')]

/-- The destination without the title that may follow it. -/
def destination (raw : List Char) : List Char :=
  match Text.trim raw with
  | '<' :: rest => rest.takeWhile (· != '>')
  | cs => cs.takeWhile fun c => !Text.isBlank c

/-- The place in the tree that a written destination names, without anchor and query. -/
def linkTarget? (raw : List Char) : Option (List Char) :=
  let dest := destination raw
  if dest.isEmpty || dest.head? == some '#' || scheme.matchesIn dest then none
  else
    let path := dest.takeWhile fun c => c != '#' && c != '?'
    if path.isEmpty then none else some path

def linkDependency? (source : List Char) (m : Match) : Option Dependency := do
  let written ← m.group? 1
  let target ← linkTarget? written.text
  return ⟨.docLink (String.ofList target), Text.lineOf source written.start⟩

/-- The texts of the headings. -/
def headings (source : List Char) : List (List Char) :=
  (heading.findAll source).filterMap fun m => (m.group? 1).map (·.text)

def extract (source : String) : Extraction :=
  let cs := source.toList
  let links := inlineLink.findAll cs ++ referenceDefinition.findAll cs
  Extraction.normalize
    ⟨[], links.filterMap (linkDependency? cs), (headings cs).flatMap Term.ofChars, false⟩

end SourceAtlas.Markdown
