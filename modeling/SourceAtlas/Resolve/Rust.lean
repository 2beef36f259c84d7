import SourceAtlas.Resolve.Basic

/-! Rust modules. A crate's sources lie in the `src` directory beside its nearest manifest; a module
is a file of its name or a directory with a `mod.rs`. A `use` path leads to the deepest module along
it that has a file, a `mod` declaration to the file of the child module. -/
namespace SourceAtlas.Resolver

/-- The source directory of the crate that the file is in, looked up from `dir` towards the root. -/
def crateSourceFrom (r : Resolver) (file dir : String) : Option String :=
  if r.has (Path.child dir "Cargo.toml") then
    let src := Path.child dir "src"
    if Text.startsWith (src ++ "/").toList file.toList then some src else none
  else if _h : dir = "" then none
  else r.crateSourceFrom file (Path.parent dir)
termination_by dir.toList.length
decreasing_by exact Path.parent_length_lt _h

def crateSource (r : Resolver) (file : String) : Option String :=
  r.crateSourceFrom file (Path.parent file)

/-- Crate roots besides `lib.rs` and `main.rs`: the build script and the files directly in the
directories of tests, examples, benchmarks and further binaries. -/
def isTargetRoot (r : Resolver) (file : String) : Bool :=
  let dir := Path.parent file
  let package := Path.parent dir
  let name := Path.fileName dir
  if Path.fileName file = "build.rs" then r.has (Path.child dir "Cargo.toml")
  else if name = "tests" ∨ name = "examples" ∨ name = "benches" then
    r.has (Path.child package "Cargo.toml")
  else if name = "bin" then
    Path.fileName package = "src" && r.has (Path.child (Path.parent package) "Cargo.toml")
  else false

/-- Reversed text without the reversed extension `.rs`, however often it is repeated. -/
def dropSr : List Char → List Char
  | 's' :: 'r' :: '.' :: rest => dropSr rest
  | cs => cs

def withoutRustExtension (name : String) : String :=
  String.ofList (dropSr name.toList.reverse).reverse

/-- The directory that holds the child modules of the file's module. -/
def moduleDirectory (r : Resolver) (file : String) : String :=
  let name := Path.fileName file
  if name = "mod.rs" ∨ name = "lib.rs" ∨ name = "main.rs" ∨ r.isTargetRoot file = true then
    Path.parent file
  else Path.child (Path.parent file) (withoutRustExtension name)

/-- The names that lead from the crate root to the file's module. -/
def modulePath (src file : String) : List String :=
  match Text.dropPrefix? (src ++ "/").toList file.toList with
  | none => []
  | some inner =>
    let names := (Text.split '/' (withoutRustExtension (String.ofList inner)).toList).map
      String.ofList
    if names = ["lib"] ∨ names = ["main"] then []
    else if names.getLast? = some "mod" then names.dropLast
    else names

def moduleFile (r : Resolver) (src : String) (names : List String) : Option String :=
  if names.isEmpty then r.firstExisting [Path.child src "lib.rs", Path.child src "main.rs"]
  else
    let base := Path.child src ("/".intercalate names)
    r.firstExisting [base ++ ".rs", Path.child base "mod.rs"]

/-- The file of the longest prefix of `path` with a file, among those of at most `least + extra`
and at least `least` names. -/
def deepestModule (r : Resolver) (src : String) (path : List String) (least : Nat) :
    (extra : Nat) → Resolution
  | 0 => .ofOption (r.moduleFile src (path.take least))
  | extra + 1 =>
    match r.moduleFile src (path.take (least + extra + 1)) with
    | some file => .internal file
    | none => r.deepestModule src path least extra

/-- The module that `base` leads to, or the deepest one below it along `tail`. -/
def moduleAlong (r : Resolver) (src : String) (base tail : List String) : Resolution :=
  r.deepestModule src (base ++ tail) base.length tail.length

def rustMod (r : Resolver) (origin : String) (inline : List String) (name : String) : Resolution :=
  let base := Path.child (inline.foldl Path.child (r.moduleDirectory origin)) name
  .ofOption (r.firstExisting [base ++ ".rs", Path.child base "mod.rs"])

/-- The path without its last `n` names, if it has so many. -/
def dropNames (n : Nat) (path : List String) : Option (List String) :=
  if n ≤ path.length then some (path.take (path.length - n)) else none

/-- A path that starts with the name of a module at the crate root, of a crate of the tree, or of
something outside. -/
def useByName (r : Resolver) (src : Option String) (name : String) (rest : List String) :
    Resolution :=
  match src.bind fun src => (r.moduleFile src [name]).map fun _ => src with
  | some src => r.moduleAlong src [] (name :: rest)
  | none =>
    match r.crates.get? name with
    | some crate => r.moduleAlong crate [] rest
    | none => .external name

def rustUse (r : Resolver) (origin : String) (segments : List String) : Resolution :=
  match segments with
  | [] => .missing
  | first :: rest =>
    let src := r.crateSource origin
    if first = "crate" then
      match src with
      | some src => r.moduleAlong src [] rest
      | none => .missing
    else if first = "self" then
      match src with
      | some src => r.moduleAlong src (modulePath src origin) rest
      | none => .missing
    else if first = "super" then
      match src with
      | some src =>
        match dropNames (segments.takeWhile (· = "super")).length (modulePath src origin) with
        | some base => r.moduleAlong src base (segments.dropWhile (· = "super"))
        | none => .missing
      | none => .missing
    else r.useByName src first rest

end SourceAtlas.Resolver
