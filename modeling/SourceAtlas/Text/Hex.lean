/-! Lower case hexadecimal text of natural numbers. `render` writes a fixed number of digits, most
significant first, and `read?` takes exactly such digits back. -/
namespace SourceAtlas.Text.Hex

def digit (n : Nat) : Char := if n < 10 then Char.ofNat (48 + n) else Char.ofNat (87 + n)

def value? (c : Char) : Option Nat :=
  if '0' ≤ c && c ≤ '9' then some (c.toNat - 48)
  else if 'a' ≤ c && c ≤ 'f' then some (c.toNat - 87)
  else none

/-- The last `width` hexadecimal digits of `n`. -/
def render : Nat → Nat → List Char
  | 0, _ => []
  | width + 1, n => render width (n / 16) ++ [digit (n % 16)]

def readFrom (high : Nat) : List Char → Option Nat
  | [] => some high
  | c :: rest =>
    match value? c with
    | some v => readFrom (high * 16 + v) rest
    | none => none

def read? (cs : List Char) : Option Nat := readFrom 0 cs

/-- As many digits as the number needs, at least one. -/
def renderShort (n : Nat) : List Char :=
  if n < 16 then [digit n] else renderShort (n / 16) ++ [digit (n % 16)]
termination_by n
decreasing_by omega

@[simp] theorem length_render (width n : Nat) : (render width n).length = width := by
  induction width generalizing n with
  | zero => rfl
  | succ width ih => simp [render, ih]

end SourceAtlas.Text.Hex
