import SourceAtlas.Distinct
import SourceAtlas.Fault
import SourceAtlas.Http.Form
import SourceAtlas.Text.Decimal

/-! The parameters of requests. Unknown ones do not matter. A search or node request takes each of its
parameters once; in an impact request a relation may be repeated, and a parameter without a value
counts as absent. -/
namespace SourceAtlas.Http

structure SearchParameters where
  text : Option String
  limit : Option Nat
  offset : Option Nat
  deriving DecidableEq, Repr

structure NodeParameters where
  path : Option String
  id : Option String
  deriving DecidableEq, Repr

structure ImpactParameters where
  path : Option String
  id : Option String
  direction : Option String
  maxDepth : Option Nat
  relations : List String
  deriving DecidableEq, Repr

/-- Query strings that cannot be read are all told alike, but for impact requests. -/
def unreadable : ArgumentFault := .malformedQuery "Failed to deserialize query string"

/-- The value of a parameter that may be given once. -/
def once (pairs : List (String × String)) (name : String) : Except ArgumentFault (Option String) :=
  match pairs.filter (·.1 = name) with
  | [] => .ok none
  | [(_, value)] => .ok (some value)
  | _ => .error unreadable

def onceNumber (pairs : List (String × String)) (name : String) :
    Except ArgumentFault (Option Nat) := do
  match ← once pairs name with
  | none => return none
  | some text =>
    match Text.readDecimal Text.limit64 text with
    | .ok n => return some n
    | .error _ => throw unreadable

def SearchParameters.ofPairs (pairs : List (String × String)) :
    Except ArgumentFault SearchParameters := do
  return ⟨← once pairs "q", ← onceNumber pairs "limit", ← onceNumber pairs "offset"⟩

def NodeParameters.ofPairs (pairs : List (String × String)) :
    Except ArgumentFault NodeParameters := do
  return ⟨← once pairs "path", ← once pairs "id"⟩

namespace ImpactParameters

def none : ImpactParameters := ⟨.none, .none, .none, .none, []⟩

/-- The value of a parameter that is given with these values. -/
def single : List String → Except ArgumentFault (Option String)
  | [] | [""] => .ok .none
  | [value] => .ok (some value)
  | _ => .error (.malformedQuery "unsupported value")

/-- Takes in all values of one parameter. -/
def add (p : ImpactParameters) (name : String) (values : List String) :
    Except ArgumentFault ImpactParameters := do
  if name = "path" then return { p with path := ← single values }
  else if name = "id" then return { p with id := ← single values }
  else if name = "direction" then return { p with direction := ← single values }
  else if name = "max_depth" then
    match ← single values with
    | .none => return p
    | some text =>
      match Text.readDecimal Text.limit32 text with
      | .ok n => return { p with maxDepth := some n }
      | .error fault => throw (.malformedQuery fault.message)
  else if name = "relation" then return { p with relations := values }
  else return p

/-- Parameters are taken in by the order in which they first occur. -/
def ofPairs (pairs : List (String × String)) : Except ArgumentFault ImpactParameters :=
  (distinctBy (fun name => name) (pairs.map (·.1))).foldlM
    (fun p name => p.add name ((pairs.filter (·.1 = name)).map (·.2))) none

end ImpactParameters

end SourceAtlas.Http
