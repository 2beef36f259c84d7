import SourceAtlas.Scan.Python
import SourceAtlas.Scan.Rust
import SourceAtlas.Scan.Script
import SourceAtlas.Tools

/-! Scanners in the place of parsers. They do not know the whole grammars, but find what is read off the
trees. -/
namespace SourceAtlas

def Syntax.parse : Grammar → String → Parsed
  | .rust, source => Rust.parse source
  | .python, source => Python.parse source
  | grammar, source => Script.parse grammar source

namespace Scanners

/-- Scanners never fail, and patterns can always be compiled. -/
scoped instance : Tools where
  parse grammar _ source := .ok (Syntax.parse grammar source)
  compiles _ := true

end Scanners

end SourceAtlas
