import SourceAtlas.Text.Blank
import SourceAtlas.Text.Case

/-! What a link says about its two ends, and the ways to follow links. Both have names, read without
regard to ASCII case and to white space around them. -/
namespace SourceAtlas

inductive Relation where
  /-- A module or package is imported. -/
  | imports
  /-- A header is included as text. -/
  | includes
  /-- A module file is declared. -/
  | declares
  /-- Documentation refers to a file. -/
  | references
  /-- A file defines a symbol. -/
  | defines
  deriving DecidableEq, Repr

/-- The text without white space around it and with ASCII capitals made small. -/
def canonicalName (text : String) : String :=
  String.ofList ((Text.trim text.toList).map Text.asciiLower)

namespace Relation

def name : Relation → String
  | .imports => "imports" | .includes => "includes" | .declares => "declares"
  | .references => "references" | .defines => "defines"

def all : List Relation := [.imports, .includes, .declares, .references, .defines]

def ofName? (text : String) : Option Relation := all.find? (·.name = canonicalName text)

end Relation

inductive Direction where
  | outgoing | incoming | both
  deriving DecidableEq, Repr

namespace Direction

def name : Direction → String
  | .outgoing => "outgoing" | .incoming => "incoming" | .both => "both"

def all : List Direction := [.outgoing, .incoming, .both]

def ofName? (text : String) : Option Direction := all.find? (·.name = canonicalName text)

end Direction

end SourceAtlas
