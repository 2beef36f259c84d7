import SourceAtlas.Resolve.Basic

/-! Included headers and links in documentation. A quoted header is looked up beside the including
file, at the root, and in the `include` directory of the root; a link may also name a directory
with a front page. -/
namespace SourceAtlas.Resolver

def header (r : Resolver) (origin header : String) (system : Bool) : Resolution :=
  if system then .external header
  else
    let places := [Path.join (Path.parent origin) header, Path.join "" header,
      Path.join "include" header].filterMap id
    match r.firstExisting places with
    | some path => .internal path
    | none => .external header

/-- A place that may be a directory: written with a final slash, or a name without a dot. -/
def mayBeDirectory (target path : String) : Bool :=
  target.toList.getLast? = some '/' || !(Path.fileName path).toList.contains '.'

def document (r : Resolver) (origin target : String) : Resolution :=
  let place := match target.toList with
    | '/' :: rest => Path.join "" (String.ofList rest)
    | _ => Path.join (Path.parent origin) target
  match place with
  | none => .missing
  | some path =>
    let pages :=
      if mayBeDirectory target path then [Path.child path "README.md", Path.child path "index.md"]
      else []
    .ofOption (r.firstExisting (path :: pages))

end SourceAtlas.Resolver
