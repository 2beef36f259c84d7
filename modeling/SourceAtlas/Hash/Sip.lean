import SourceAtlas.Text.Utf8

/-! The SipHash-1-3 keyed hash with both keys zero, over a list of bytes. -/
namespace SourceAtlas.Hash

structure SipState where
  v0 : UInt64
  v1 : UInt64
  v2 : UInt64
  v3 : UInt64
  deriving DecidableEq, Repr

def rotl (x : UInt64) (n : UInt64) : UInt64 := (x <<< n) ||| (x >>> (64 - n))

def SipState.start : SipState :=
  ⟨0x736f6d6570736575, 0x646f72616e646f6d, 0x6c7967656e657261, 0x7465646279746573⟩

def SipState.round (s : SipState) : SipState :=
  let v0 := s.v0 + s.v1
  let v1 := rotl s.v1 13 ^^^ v0
  let v0 := rotl v0 32
  let v2 := s.v2 + s.v3
  let v3 := rotl s.v3 16 ^^^ v2
  let v0 := v0 + v3
  let v3 := rotl v3 21 ^^^ v0
  let v2 := v2 + v1
  let v1 := rotl v1 17 ^^^ v2
  let v2 := rotl v2 32
  ⟨v0, v1, v2, v3⟩

/-- One word is mixed in around one round. -/
def SipState.absorb (s : SipState) (word : UInt64) : SipState :=
  let s := { s with v3 := s.v3 ^^^ word }.round
  { s with v0 := s.v0 ^^^ word }

/-- Little-endian value of a few bytes. -/
def word : Bytes → UInt64
  | [] => 0
  | b :: rest => b.toUInt64 ||| (word rest <<< 8)

/-- Full words are absorbed in order; the last partial one carries the length in its top byte. -/
def SipState.absorbAll (s : SipState) (length : Nat) : Bytes → SipState
  | b0 :: b1 :: b2 :: b3 :: b4 :: b5 :: b6 :: b7 :: rest =>
    (s.absorb (word [b0, b1, b2, b3, b4, b5, b6, b7])).absorbAll length rest
  | tail => s.absorb (word tail ||| (UInt64.ofNat length <<< 56))

def SipState.finish (s : SipState) : UInt64 :=
  let s := { s with v2 := s.v2 ^^^ 0xff }.round.round.round
  s.v0 ^^^ s.v1 ^^^ s.v2 ^^^ s.v3

def sip13 (bytes : Bytes) : UInt64 := (SipState.start.absorbAll bytes.length bytes).finish

/-- The eight bytes of a word, least significant first. -/
def littleEndian64 (n : UInt64) : Bytes :=
  (List.range 8).map fun i => (n >>> (UInt64.ofNat (8 * i))).toUInt8

end SourceAtlas.Hash
