import SourceAtlas.Resolve.Document
import SourceAtlas.Resolve.Python
import SourceAtlas.Resolve.Rust
import SourceAtlas.Resolve.Script

/-! Resolution of a dependency as it is written in a file. Only a Python import of several names can
have more than one answer. -/
namespace SourceAtlas.Resolver

def resolve (r : Resolver) (origin : String) : Spec → List Resolution
  | .rustMod name inline => [r.rustMod origin inline name]
  | .rustUse segments => [r.rustUse origin segments]
  | .pythonImport module names level => r.python origin module names level.toNat
  | .jsImport specifier => [r.script origin specifier]
  | .cInclude header system => [r.header origin header system]
  | .docLink target => [r.document origin target]

end SourceAtlas.Resolver
