import SourceAtlas.Text.Brace
import SourceAtlas.Text.Hex

/-! Structured answers: values with ordered fields, and their text, indented by two blanks a level. -/
namespace SourceAtlas

inductive JsonValue where
  | null
  | flag (value : Bool)
  | number (value : Nat)
  | text (content : String)
  | array (items : List JsonValue)
  | object (fields : List (String × JsonValue))

namespace JsonValue

def ofOption {α : Type} (encode : α → JsonValue) : Option α → JsonValue
  | some a => encode a
  | none => .null

def ofList {α : Type} (encode : α → JsonValue) (items : List α) : JsonValue :=
  .array (items.map encode)

def escapeChar (c : Char) : List Char :=
  if c = '"' then ['\\', '"']
  else if c = '\\' then ['\\', '\\']
  else if c = '\n' then ['\\', 'n']
  else if c = '\r' then ['\\', 'r']
  else if c = '\t' then ['\\', 't']
  else if c = '\x08' then ['\\', 'b']
  else if c = '\x0c' then ['\\', 'f']
  else if c.toNat < 0x20 then ['\\', 'u'] ++ Text.Hex.render 4 c.toNat
  else [c]

def quote (s : String) : List Char := '"' :: (s.toList.flatMap escapeChar ++ ['"'])

/-- A break and the blanks of a level. -/
def newLine (level : Nat) : List Char := '\n' :: List.replicate (2 * level) ' '

mutual

def renderAt (level : Nat) : JsonValue → List Char
  | null => "null".toList
  | flag true => "true".toList
  | flag false => "false".toList
  | number n => (toString n).toList
  | text s => quote s
  | array [] => "[]".toList
  | array (item :: rest) =>
    '[' :: newLine (level + 1) ++ renderAt (level + 1) item ++ renderItems (level + 1) rest ++
      newLine level ++ [']']
  | object [] => [Text.openBrace, Text.closeBrace]
  | object ((key, value) :: rest) =>
    Text.openBrace :: newLine (level + 1) ++ quote key ++ ": ".toList ++ renderAt (level + 1) value ++
      renderFields (level + 1) rest ++ newLine level ++ [Text.closeBrace]

def renderItems (level : Nat) : List JsonValue → List Char
  | [] => []
  | item :: rest => ',' :: newLine level ++ renderAt level item ++ renderItems level rest

def renderFields (level : Nat) : List (String × JsonValue) → List Char
  | [] => []
  | (key, value) :: rest =>
    ',' :: newLine level ++ quote key ++ ": ".toList ++ renderAt level value ++
      renderFields level rest

end

def render (v : JsonValue) : String := String.ofList (renderAt 0 v)

end JsonValue

end SourceAtlas
