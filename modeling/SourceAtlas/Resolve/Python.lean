import SourceAtlas.Resolve.Basic

/-! Python imports. A module is a source file, a stub or a package directory. A relative import
climbs from the package of the importing file; an absolute one is looked up beside the importing
file first and from the root of the tree second, by its longest prefix that is a module. -/
namespace SourceAtlas.Resolver

def pythonModule (r : Resolver) (dir : String) (dotted : List String) : Option String :=
  let base := dotted.foldl Path.child dir
  r.firstExisting [base ++ ".py", base ++ ".pyi", Path.child base "__init__.py"]

/-- The directory some levels up; there is none above the root. -/
def climb : Nat → String → Option String
  | 0, dir => some dir
  | n + 1, dir => if dir.isEmpty then none else climb n (Path.parent dir)

/-- The names between dots, the empty ones left out. -/
def dottedNames (module : String) : List String :=
  ((Text.split '.' module.toList).filter (· ≠ [])).map String.ofList

/-- The module of the longest prefix with `len` names or fewer that is found in `dir`. -/
def longestModule (r : Resolver) (dir : String) (dotted : List String) : Nat → Option String
  | 0 => none
  | len + 1 =>
    match r.pythonModule dir (dotted.take (len + 1)) with
    | some path => some path
    | none => r.longestModule dir dotted len

def relativeImport (r : Resolver) (package : String) (dotted names : List String) :
    List Resolution :=
  if dotted.isEmpty then
    match names.filterMap fun name => r.pythonModule package [name] with
    | [] => [.ofOption (r.pythonModule package [])]
    | found => found.map .internal
  else [.ofOption (r.pythonModule package dotted)]

def absoluteImport (r : Resolver) (origin : String) (dotted : List String) : List Resolution :=
  match dotted with
  | [] => [.missing]
  | top :: _ =>
    match r.longestModule (Path.parent origin) dotted dotted.length with
    | some path => [.internal path]
    | none =>
      match r.longestModule "" dotted dotted.length with
      | some path => [.internal path]
      | none => [.external top]

def python (r : Resolver) (origin module : String) (names : List String) (level : Nat) :
    List Resolution :=
  match level with
  | 0 => r.absoluteImport origin (dottedNames module)
  | up + 1 =>
    match climb up (Path.parent origin) with
    | none => [.missing]
    | some package => r.relativeImport package (dottedNames module) names

end SourceAtlas.Resolver
