import SourceAtlas.Text.Utf8

/-! Bytes as text, whatever they are: every longest start of a character that does not go on as it
should becomes one replacement character. -/
namespace SourceAtlas.Text

/-- What may follow the first byte of a character of several bytes: the span of the second byte, and
how many bytes follow. -/
def followers? (b : UInt8) : Option (UInt8 × UInt8 × Nat) :=
  if 0xc2 ≤ b && b ≤ 0xdf then some (0x80, 0xbf, 1)
  else if b = 0xe0 then some (0xa0, 0xbf, 2)
  else if b = 0xed then some (0x80, 0x9f, 2)
  else if 0xe1 ≤ b && b ≤ 0xef then some (0x80, 0xbf, 2)
  else if b = 0xf0 then some (0x90, 0xbf, 3)
  else if 0xf1 ≤ b && b ≤ 0xf3 then some (0x80, 0xbf, 3)
  else if b = 0xf4 then some (0x80, 0x8f, 3)
  else none

/-- The following bytes that fit. Only the first of them has a span of its own. -/
def takeFollowers (low high : UInt8) : Nat → Bytes → Bytes
  | 0, _ | _, [] => []
  | n + 1, b :: rest =>
    if low ≤ b && b ≤ high then b :: takeFollowers 0x80 0xbf n rest else []

/-- The bits that a first byte adds, by the number of bytes that follow it. -/
def leadBits (b : UInt8) (count : Nat) : Nat :=
  b.toNat - (if count = 1 then 0xc0 else if count = 2 then 0xe0 else 0xf0)

def codePoint (b : UInt8) (tail : Bytes) : Nat :=
  tail.foldl (fun n c => n * 64 + (c.toNat - 0x80)) (leadBits b tail.length)

def lossyChars : Bytes → List Char
  | [] => []
  | b :: rest =>
    if b < 0x80 then Char.ofNat b.toNat :: lossyChars rest
    else
      match followers? b with
      | none => '\ufffd' :: lossyChars rest
      | some (low, high, count) =>
        let tail := takeFollowers low high count rest
        (if tail.length = count then Char.ofNat (codePoint b tail) else '\ufffd') ::
          lossyChars (rest.drop tail.length)
termination_by bytes => bytes.length
decreasing_by
  · simp
  · simp
  · simp only [List.length_drop, List.length_cons]; omega

def lossy (bytes : Bytes) : String := String.ofList (lossyChars bytes)

end SourceAtlas.Text
