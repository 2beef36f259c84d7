import SourceAtlas.Scan.Python.Token
import SourceAtlas.Syntax.Nesting

/-! The logical lines of a Python source and how deep in blocks each one stands. A block is entered by
a deeper line behind a line that ends with a colon, and left by a line that is less deep than it; a
deeper line anywhere else changes nothing. -/
namespace SourceAtlas.Python

open Syntax

/-- The first piece of a line and the others. -/
structure Line where
  first : Piece
  others : List Piece

namespace Line

def pieces (l : Line) : List Piece := l.first :: l.others

def start (l : Line) : Token := l.first.first

def opensBlock (l : Line) : Bool := l.pieces.getLast?.any (·.isMark ':')

end Line

/-- The parts between the pieces that pass the test, without the empty ones. -/
def splitPieces (isEnd : Piece → Bool) (pieces : List Piece) : List Line :=
  pieces.foldr
    (fun p parts =>
      if isEnd p then none :: parts
      else match parts with
        | some (l : Line) :: rest => some ⟨p, l.pieces⟩ :: rest
        | none :: rest => some ⟨p, []⟩ :: rest
        | [] => [some ⟨p, []⟩])
    [none] |>.filterMap id

def lines (pieces : List Piece) : List Line := splitPieces (·.isMark '\n') pieces

/-- The width of the blanks between the last line break and the line. -/
def indent (l : Line) : Nat :=
  (l.start.gap.reverse.takeWhile (· != '\n')).foldl
    (fun n c => if c = '\t' then n + 8 else if c = ' ' then n + 1 else n) 0

/-- The blocks, by their indent, that a line of this indent stands in. -/
def blocksAt (entering : Bool) (blocks : List Nat) (width : Nat) : List Nat :=
  if entering && decide (blocks.headD 0 < width) then width :: blocks
  else blocks.dropWhile (width < ·)

/-- Pairs every line with the number of blocks it stands in. -/
def depthsFrom (entering : Bool) (blocks : List Nat) : List Line → List (Line × Nat)
  | [] => []
  | l :: rest =>
    let blocks := blocksAt entering blocks (indent l)
    (l, blocks.length) :: depthsFrom l.opensBlock blocks rest

def depths (ls : List Line) : List (Line × Nat) := depthsFrom false [] ls

/-- The statements of a line: they are separated by semicolons and by the colons of headers. -/
def statements (l : Line) : List Line := splitPieces (fun p => p.isMark ';' || p.isMark ':') l.pieces

end SourceAtlas.Python
