import SourceAtlas.Resolve.Basic

/-! Module specifiers of scripts. One that is rooted or starts with a dot component names a place in
the tree, with or without an extension, a compiled file standing for its typed source, or a
directory with an index file. Every other one names a package. -/
namespace SourceAtlas.Resolver

def scriptExtensions : List String :=
  [".ts", ".tsx", ".d.ts", ".js", ".jsx", ".mjs", ".cjs", ".mts", ".cts"]

/-- The extensions that a compiled extension may stand for. -/
def typedSources : List (String × List String) :=
  [(".js", [".ts", ".tsx"]), (".jsx", [".tsx"]), (".mjs", [".mts"]), (".cjs", [".cts"])]

/-- The package that a specifier names: its first component, or its first two in a scope. -/
def packageName (specifier : String) : String :=
  match Text.split '/' specifier.toList with
  | scope :: name :: _ =>
    if scope.head? = some '@' then String.ofList (scope ++ ['/'] ++ name) else String.ofList scope
  | _ => specifier

/-- The place that a specifier names in the tree: `none` for a package, `some none` outside. -/
def scriptBase? (origin specifier : String) : Option (Option String) :=
  match specifier.toList with
  | '/' :: rest => some (Path.join "" (String.ofList rest))
  | cs =>
    if Text.startsWith ['.', '/'] cs || Text.startsWith ['.', '.', '/'] cs || cs = ['.'] ||
        cs = ['.', '.'] then
      some (Path.join (Path.parent origin) specifier)
    else none

def scriptCandidates (base : String) : List String :=
  [base] ++ scriptExtensions.map (base ++ ·) ++
    typedSources.flatMap (fun (compiled, sources) =>
      match Text.dropSuffix? compiled.toList base.toList with
      | some stem => sources.map (String.ofList stem ++ ·)
      | none => []) ++
    scriptExtensions.map fun ext => Path.child base ("index" ++ ext)

def script (r : Resolver) (origin specifier : String) : Resolution :=
  match scriptBase? origin specifier with
  | none => .external (packageName specifier)
  | some none => .missing
  | some (some base) => .ofOption (r.firstExisting (scriptCandidates base))

end SourceAtlas.Resolver
