import SourceAtlas.Extract.C
import SourceAtlas.Extract.Markdown
import SourceAtlas.Extract.Python
import SourceAtlas.Extract.Rust
import SourceAtlas.Extract.Script
import SourceAtlas.Tools

/-! What a source file says, by its language. Files of other languages say nothing, and a parser may
fail. -/
namespace SourceAtlas

/-- The grammar of a script; without one of its path it is that of JavaScript. -/
def Grammar.ofScript (path : String) : Grammar := (Grammar.ofPath? path).getD .javaScript

def Extraction.ofSource? [Tools] (language : Language) (path source : String) :
    Option (Except String Extraction) :=
  match language with
  | .rust => some ((Tools.parse .rust path source).map (Rust.extract · source))
  | .c | .cpp => some (.ok (C.extract source))
  | .markdown => some (.ok (Markdown.extract source))
  | .python => some ((Tools.parse .python path source).map Python.extract)
  | .typeScript | .javaScript =>
    some ((Tools.parse (Grammar.ofScript path) path source).map Script.extract)
  | .other => none

end SourceAtlas
