/-! The two curly braces, as names: a brace in a literal is hard to tell from a brace of the code
around it. -/
namespace SourceAtlas.Text

def openBrace : Char := '\x7b'

def closeBrace : Char := '\x7d'

end SourceAtlas.Text
