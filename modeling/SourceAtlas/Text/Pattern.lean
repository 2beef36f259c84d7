import SourceAtlas.Text.Lines

/-! Patterns of text. A pattern can match in several ways from one place on; the ways are listed in the
order in which they are preferred, and the match is the first of them. A text is searched from left to
right, and the search goes on where a match ends. -/
namespace SourceAtlas.Text

inductive Pattern where
  | empty
  /-- The start of the text. -/
  | textStart
  /-- The start of the text or of a line. -/
  | lineStart
  /-- The end of the text or of a line. -/
  | lineEnd
  | char (accepts : Char → Bool)
  /-- Characters of one class, as many as possible. -/
  | run (accepts : Char → Bool) (least : Nat) (most : Option Nat)
  /-- Characters of one class, as few as possible. -/
  | lazyRun (accepts : Char → Bool)
  | seq (first second : Pattern)
  | either (first second : Pattern)
  | group (index : Nat) (inner : Pattern)

namespace Pattern

def inOrder (parts : List Pattern) : Pattern := parts.foldr .seq .empty

def word (text : String) : Pattern := inOrder (text.toList.map fun c => .char (· == c))

def maybe (inner : Pattern) : Pattern := .either inner .empty

end Pattern

/-- What a group of a match took, and where that starts. -/
structure Group where
  index : Nat
  start : Nat
  text : List Char
deriving DecidableEq, Repr

/-- A place in a text, with the character in front of it and the groups that have matched so far, the
last one first. -/
structure Cursor where
  offset : Nat
  before : Option Char
  rest : List Char
  groups : List Group
deriving DecidableEq, Repr

namespace Cursor

def step? (s : Cursor) (accepts : Char → Bool) : Option Cursor :=
  match s.rest with
  | c :: rest => if accepts c then some ⟨s.offset + 1, some c, rest, s.groups⟩ else none
  | [] => none

/-- The place itself and those that are reached from it over accepted characters, the nearest first. -/
def along (accepts : Char → Bool) (groups : List Group) :
    (offset : Nat) → (before : Option Char) → (rest : List Char) → List Cursor
  | offset, before, [] => [⟨offset, before, [], groups⟩]
  | offset, before, c :: rest => ⟨offset, before, c :: rest, groups⟩ ::
      if accepts c then along accepts groups (offset + 1) (some c) rest else []

def reached (s : Cursor) (accepts : Char → Bool) : List Cursor :=
  along accepts s.groups s.offset s.before s.rest

def atLineStart (s : Cursor) : Bool := s.before.all (· == '\n')

def atLineEnd (s : Cursor) : Bool := s.rest.head?.all (· == '\n')

/-- Adds the group that reaches from an earlier place to this one. -/
def close (s : Cursor) (index : Nat) (start : Cursor) : Cursor :=
  { s with groups := ⟨index, start.offset, start.rest.take (s.offset - start.offset)⟩ :: s.groups }

end Cursor

namespace Pattern

/-- The places where the pattern can end if it starts here, the preferred first. -/
def ends : Pattern → Cursor → List Cursor
  | empty, s => [s]
  | textStart, s => if s.before.isNone then [s] else []
  | lineStart, s => if s.atLineStart then [s] else []
  | lineEnd, s => if s.atLineEnd then [s] else []
  | char accepts, s => (s.step? accepts).toList
  | run accepts least most, s =>
    let reached := s.reached accepts
    let allowed := match most with
      | some n => reached.take (n + 1)
      | none => reached
    (allowed.drop least).reverse
  | lazyRun accepts, s => s.reached accepts
  | seq first second, s => (first.ends s).flatMap second.ends
  | either first second, s => first.ends s ++ second.ends s
  | group index inner, s => (inner.ends s).map (·.close index s)

end Pattern

structure Match where
  start : Nat
  stop : Nat
  groups : List Group
deriving DecidableEq, Repr

def Match.group? (m : Match) (index : Nat) : Option Group := m.groups.find? (·.index == index)

namespace Pattern

def matchAt? (p : Pattern) (offset : Nat) (before : Option Char) (rest : List Char) : Option Match :=
  (p.ends ⟨offset, before, rest, []⟩).head?.map fun t => ⟨offset, t.offset, t.groups⟩

/-- The matches from a place on, after the characters that an earlier match has taken. A match that
takes nothing is left behind by one character. -/
def scan (p : Pattern) : (taken offset : Nat) → (before : Option Char) → (rest : List Char) → List Match
  | 0, offset, before, [] => (p.matchAt? offset before []).toList
  | _ + 1, _, _, [] => []
  | taken + 1, offset, _, c :: rest => p.scan taken (offset + 1) (some c) rest
  | 0, offset, before, c :: rest =>
    match p.matchAt? offset before (c :: rest) with
    | some m => m :: p.scan (m.stop - offset - 1) (offset + 1) (some c) rest
    | none => p.scan 0 (offset + 1) (some c) rest

def findAll (p : Pattern) (text : List Char) : List Match := p.scan 0 0 none text

def matchesIn (p : Pattern) (text : List Char) : Bool := !(p.findAll text).isEmpty

end Pattern

/-- The number of the line that a place is on. -/
def lineOf (text : List Char) (offset : Nat) : UInt32 := lineNumber ((text.take offset).count '\n')

end SourceAtlas.Text
