/-! Values of configuration files, and tables under construction. A table remembers how it came to be,
which decides what may still be added to it. -/
namespace SourceAtlas.Toml

/-- How a table was begun. -/
inductive Origin where
  /-- By a header of its own. -/
  | header
  /-- As part of the path of another header. -/
  | implied
  /-- As part of a dotted key. -/
  | dotted
  /-- Between braces. -/
  | inline
  deriving DecidableEq, Repr

inductive Value where
  | text (content : List Char)
  | integer (value : Int)
  /-- A number with a fraction or an exponent, of which nothing is kept. -/
  | decimal
  | flag (value : Bool)
  /-- A date, a time, or both. -/
  | moment
  | array (items : List Value)
  /-- The tables of repeated headers between double brackets. -/
  | rows (tables : List Value)
  | table (origin : Origin) (entries : List (List Char × Value))

abbrev Entries := List (List Char × Value)

namespace Entries

def find? (key : List Char) (entries : Entries) : Option Value :=
  (List.find? (·.1 = key) entries).map (·.2)

/-- Gives a key another value where it stands, or adds it at the end. -/
def set (key : List Char) (value : Value) : Entries → Entries
  | [] => [(key, value)]
  | (k, v) :: rest => if k = key then (key, value) :: rest else (k, v) :: set key value rest

end Entries

/-- Whether a table may be reached along a path: a dotted key does not reach into what has a header
of its own, and nothing reaches between braces. -/
def Origin.opens (origin : Origin) (byDots : Bool) : Bool :=
  match origin with
  | .header => !byDots
  | .implied | .dotted => true
  | .inline => false

/-- Changes the table at the end of a path. Tables on the way that are not there are begun, and of
repeated tables the last is meant. -/
def within (byDots : Bool) (change : Origin → Entries → Option Entries) :
    List (List Char) → Origin → Entries → Option Entries
  | [], origin, entries => change origin entries
  | key :: path, _, entries =>
    match entries.find? key with
    | none => do
      let origin := if byDots then .dotted else .implied
      return entries.set key (.table origin (← within byDots change path origin []))
    | some (.table origin inner) =>
      if origin.opens byDots then do
        return entries.set key (.table origin (← within byDots change path origin inner))
      else none
    | some (.rows tables) =>
      match tables.reverse with
      | .table origin inner :: before => do
        let last := Value.table origin (← within byDots change path origin inner)
        return entries.set key (.rows (last :: before).reverse)
      | _ => none
    | some _ => none

/-- Adds a key to a table. A dotted key adds only to tables of dotted keys. -/
def addKey (dots : Bool) (key : List Char) (value : Value) (origin : Origin) (entries : Entries) :
    Option Entries :=
  if (origin = .dotted) = dots ∧ (entries.find? key).isNone then some (entries.set key value)
  else none

/-- Adds a value under a key of one or more parts. -/
def assign (path : List (List Char)) (value : Value) (origin : Origin) (entries : Entries) :
    Option Entries :=
  match path.reverse with
  | [] => none
  | key :: before => within true (addKey (!before.isEmpty) key value) before.reverse origin entries

/-- Opens the table of a header. Each table has at most one. -/
def openTable (key : List Char) (_ : Origin) (entries : Entries) : Option Entries :=
  match entries.find? key with
  | none => some (entries.set key (.table .header []))
  | some (.table .implied inner) => some (entries.set key (.table .header inner))
  | some _ => none

/-- Adds one more table to the repeated tables of a header. -/
def openRow (key : List Char) (_ : Origin) (entries : Entries) : Option Entries :=
  match entries.find? key with
  | none => some (entries.set key (.rows [.table .header []]))
  | some (.rows tables) => some (entries.set key (.rows (tables ++ [.table .header []])))
  | some _ => none

namespace Value

/-- The parts of a record: a table has them by name, an array by position. A moment has no part. -/
def part? (names : List (List Char)) (name : List Char) : Value → Option (Option Value)
  | .table _ entries => some (Entries.find? name entries)
  | .array items | .rows items => some ((names.zip items).find? (·.1 = name) |>.map (·.2))
  | .moment => some none
  | _ => none

def text? : Value → Option String
  | .text content => some (String.ofList content)
  | _ => none

def flag? : Value → Option Bool
  | .flag b => some b
  | _ => none

/-- A number from zero up to, but not including, a limit. -/
def natBelow? (limit : Nat) : Value → Option Nat
  | .integer n => if 0 ≤ n ∧ n < limit then some n.toNat else none
  | _ => none

def texts? : Value → Option (List String)
  | .array items | .rows items => items.mapM text?
  | _ => none

end Value

end SourceAtlas.Toml
