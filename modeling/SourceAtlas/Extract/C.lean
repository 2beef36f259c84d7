import SourceAtlas.Extraction
import SourceAtlas.Text.Blank
import SourceAtlas.Text.Brace
import SourceAtlas.Text.Pattern
import SourceAtlas.Text.Word

/-! C and C++ sources, read as text before preprocessing. Include directives are dependencies. Type
declarations and function definitions that start a line are symbols, if the brace or colon that
opens the body stands on the line of the name or, for a function, of the closing parenthesis. -/
namespace SourceAtlas.C

open Text (Pattern Match)

def isSpaceOrTab (c : Char) : Bool := c == ' ' || c == '\t'

def blanks : Pattern := .run isSpaceOrTab 0 none

def someBlanks : Pattern := .run isSpaceOrTab 1 none

/-- Any character of a line but the one that closes the header. -/
def isWithin (close : Char) (c : Char) : Bool := c != close && c != '\n'

/-- The header stands in the first group, or in the second if it is one of the system. -/
def includeDirective : Pattern := .inOrder
  [.lineStart, blanks, .char (· == '#'), blanks, .word "include", blanks,
   .either
    (.inOrder [.char (· == '"'), .group 1 (.run (isWithin '"') 1 none), .char (· == '"')])
    (.inOrder [.char (· == '<'), .group 2 (.run (isWithin '>') 1 none), .char (· == '>')])]

/-- An identifier at the front of the text. -/
def identifier : Pattern := .seq (.char Text.isAsciiHead) (.run Text.isWord 0 none)

def opensBody (c : Char) : Bool := c == ':' || c == Text.openBrace

/-- The keyword and the name of a type that is declared with a body or a base. -/
def typeDeclaration : Pattern := .inOrder
  [.lineStart, blanks, .maybe (.seq (.word "typedef") someBlanks),
   .group 1 (.either (.word "struct")
    (.either (.word "class") (.either (.word "enum") (.word "union")))),
   someBlanks, .group 2 identifier, blanks, .maybe (.seq (.word "final") blanks), .char opensBody]

def isTypeChar (c : Char) : Bool :=
  Text.isWord c || isSpaceOrTab c || c == '*' || c == '&' || c == ':' || c == '<' || c == '>' ||
    c == ','

def isBeforeName (c : Char) : Bool := isSpaceOrTab c || c == '*' || c == '&'

def isParameterChar (c : Char) : Bool :=
  c != ';' && c != Text.openBrace && c != Text.closeBrace

/-- A return type, a name, parameters and the brace that opens the body. The parameters may go on over
several lines. -/
def functionDefinition : Pattern := .inOrder
  [.lineStart, .char Text.isAsciiHead, .lazyRun isTypeChar, .char isBeforeName,
   .group 1 identifier, blanks, .char (· == '('), .run isParameterChar 0 none, .char (· == ')'),
   blanks, .maybe (.seq (.word "const") blanks), .char (· == Text.openBrace)]

/-- Words that look like the name of a function where a statement starts. -/
def statementWords : List String :=
  ["if", "for", "while", "switch", "return", "else", "do", "sizeof"]

/-- The header of an include directive. -/
def included? (m : Match) : Option Spec :=
  match m.group? 1, m.group? 2 with
  | some quoted, _ => some (.cInclude (String.ofList (Text.trim quoted.text)) false)
  | none, some angled => some (.cInclude (String.ofList (Text.trim angled.text)) true)
  | none, none => none

def typeKind (keyword : List Char) : SymbolKind :=
  if keyword = "enum".toList then .enum
  else if keyword = "class".toList then .classType
  else .struct

def typeSymbol? (source : List Char) (m : Match) : Option Symbol := do
  let keyword ← m.group? 1
  let name ← m.group? 2
  return ⟨String.ofList name.text, typeKind keyword.text, Text.lineOf source name.start⟩

def functionSymbol? (source : List Char) (m : Match) : Option Symbol := do
  let name ← m.group? 1
  let text := String.ofList name.text
  if statementWords.contains text then none
  else return ⟨text, .function, Text.lineOf source name.start⟩

def extract (source : String) : Extraction :=
  let cs := source.toList
  let dependencies := (includeDirective.findAll cs).filterMap fun m =>
    (included? m).map (⟨·, Text.lineOf cs m.start⟩)
  let types := (typeDeclaration.findAll cs).filterMap (typeSymbol? cs)
  let functions := (functionDefinition.findAll cs).filterMap (functionSymbol? cs)
  Extraction.normalize ⟨types ++ functions, dependencies, [], false⟩

end SourceAtlas.C
