import SourceAtlas.Glob
import SourceAtlas.Language
import SourceAtlas.Syntax.Parsed

/-! What builds leave to others: the parsers of the grammars, and the compilation of patterns. -/
namespace SourceAtlas

class Tools where
  /-- Parses the source at a path; it is told why if that cannot be done. -/
  parse : Grammar → (path source : String) → Except String Syntax.Parsed
  /-- Whether patterns can be compiled together. -/
  compiles : List Glob → Bool

end SourceAtlas
