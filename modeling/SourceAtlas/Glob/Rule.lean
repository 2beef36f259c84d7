import SourceAtlas.Text.Utf8

/-! Rules for byte strings, matched by derivatives: what is left to match behind one byte is a rule again,
so a rule matches if it allows the end behind the last byte. -/
namespace SourceAtlas.Glob

/-- A set of bytes as spans, or all bytes outside of them. -/
structure ByteSet where
  negated : Bool
  spans : List (UInt8 × UInt8)
  deriving DecidableEq, Repr

namespace ByteSet

def contains (s : ByteSet) (b : UInt8) : Bool :=
  (s.spans.any fun (first, last) => first ≤ b && b ≤ last) != s.negated

def all : ByteSet := ⟨true, []⟩

def single (b : UInt8) : ByteSet := ⟨false, [(b, b)]⟩

/-- Every byte but a slash. -/
def inName : ByteSet := ⟨true, [(0x2f, 0x2f)]⟩

end ByteSet

inductive Rule where
  | fail
  | done
  | byte (set : ByteSet)
  /-- Any number of bytes of the set. -/
  | many (set : ByteSet)
  | seq (first second : Rule)
  | either (first second : Rule)
  deriving DecidableEq, Repr

namespace Rule

/-- Whether the empty string matches. -/
def allowsEnd : Rule → Bool
  | fail => false
  | done => true
  | byte _ => false
  | many _ => true
  | seq a b => a.allowsEnd && b.allowsEnd
  | either a b => a.allowsEnd || b.allowsEnd

/-- One rule after the other, without what can never match. -/
def followedBy : Rule → Rule → Rule
  | fail, _ => fail
  | done, b => b
  | a, b => if b = fail then fail else seq a b

def orElse : Rule → Rule → Rule
  | fail, b => b
  | a, b => if b = fail ∨ a = b then a else either a b

/-- What is left to match behind the byte. -/
def behind (b : UInt8) : Rule → Rule
  | fail | done => fail
  | byte set => if set.contains b then done else fail
  | many set => if set.contains b then many set else fail
  | seq first second =>
    let rest := (first.behind b).followedBy second
    if first.allowsEnd then rest.orElse (second.behind b) else rest
  | either first second => (first.behind b).orElse (second.behind b)

def allows (r : Rule) (bytes : Bytes) : Bool := (bytes.foldl (fun r b => r.behind b) r).allowsEnd

def ofBytes (bytes : Bytes) : Rule :=
  bytes.foldr (fun b rest => (byte (.single b)).followedBy rest) done

end Rule

end SourceAtlas.Glob
