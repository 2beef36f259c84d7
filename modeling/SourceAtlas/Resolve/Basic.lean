import SourceAtlas.Extraction
import SourceAtlas.Path
import SourceAtlas.TextMap

/-! What a dependency can refer to, and the tree it is looked up in. -/
namespace SourceAtlas

inductive Resolution where
  /-- A file of the tree. -/
  | internal (path : String)
  /-- A package or header outside the tree. -/
  | external (name : String)
  /-- A place in the tree where nothing is. -/
  | missing
  deriving DecidableEq, Repr

/-- The paths of a tree and the source directory of every library crate in it, by crate name. -/
structure Resolver where
  listing : List String
  crates : TextMap String

namespace Resolver

def has (r : Resolver) (path : String) : Bool := r.listing.contains path

def firstExisting (r : Resolver) (candidates : List String) : Option String :=
  candidates.find? r.has

end Resolver

def Resolution.ofOption : Option String → Resolution
  | some path => .internal path
  | none => .missing

end SourceAtlas
