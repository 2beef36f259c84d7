import SourceAtlas.Text.Case
import SourceAtlas.Text.Hex
import SourceAtlas.Text.Lossy
import SourceAtlas.Text.Split

/-! Query strings: names and values between ampersands, with plus signs for blanks and escaped bytes. -/
namespace SourceAtlas.Http

def hexValue? (b : UInt8) : Option Nat := Text.Hex.value? (Text.asciiLower (Char.ofNat b.toNat))

/-- Bytes behind a percent sign are written as two digits; other percent signs stand for themselves. -/
def unescape : Bytes → Bytes
  | [] => []
  | 0x25 :: a :: b :: rest =>
    match hexValue? a, hexValue? b with
    | some high, some low => UInt8.ofNat (high * 16 + low) :: unescape rest
    | _, _ => 0x25 :: unescape (a :: b :: rest)
  | 0x2b :: rest => 0x20 :: unescape rest
  | b :: rest => b :: unescape rest

def decodePart (bytes : Bytes) : String := Text.lossy (unescape bytes)

/-- The name and the value of one piece; without an equals sign the value is empty. -/
def decodePair (piece : Bytes) : String × String :=
  (decodePart (piece.takeWhile (· ≠ 0x3d)), decodePart ((piece.dropWhile (· ≠ 0x3d)).drop 1))

/-- The pairs of a query string, in order. -/
def pairs (query : String) : List (String × String) :=
  ((Text.split 0x26 (Text.utf8 query)).filter (· ≠ [])).map decodePair

end SourceAtlas.Http
