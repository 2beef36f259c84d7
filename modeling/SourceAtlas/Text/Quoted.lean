import SourceAtlas.Text.Brace
import SourceAtlas.Text.Hex
import SourceAtlas.Text.Printable

/-! Quoted text as it appears in messages: between double quotes, with quotes and backslashes
escaped and every hidden character written by name or by number. -/
namespace SourceAtlas.Text

def escapeChar (c : Char) : List Char :=
  if c = '"' then ['\\', '"']
  else if c = '\\' then ['\\', '\\']
  else if c = '\n' then ['\\', 'n']
  else if c = '\r' then ['\\', 'r']
  else if c = '\t' then ['\\', 't']
  else if c.toNat = 0 then ['\\', '0']
  else if isHidden c then
    ['\\', 'u', openBrace] ++ Hex.renderShort c.toNat ++ [closeBrace]
  else [c]

def quoted (s : String) : String :=
  String.ofList ('"' :: (s.toList.flatMap escapeChar ++ ['"']))

end SourceAtlas.Text
