/-! Lines of a text, numbered from one. -/
namespace SourceAtlas.Text

def lineNumber (breaksBefore : Nat) : UInt32 := UInt32.ofNat (breaksBefore + 1)

end SourceAtlas.Text
