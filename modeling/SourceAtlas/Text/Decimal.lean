/-! Natural numbers as they are typed: digits behind at most one plus sign, below a limit. The first
character that does not fit decides what is wrong. -/
namespace SourceAtlas.Text

inductive DecimalFault where
  | nothing
  | badDigit
  | tooLarge
  deriving DecidableEq, Repr

def DecimalFault.message : DecimalFault → String
  | .nothing => "cannot parse integer from empty string"
  | .badDigit => "invalid digit found in string"
  | .tooLarge => "number too large to fit in target type"

/-- One more digit behind the number `n`. -/
def nextDigit (limit n : Nat) (c : Char) : Except DecimalFault Nat :=
  if c < '0' ∨ '9' < c then .error .badDigit
  else if limit ≤ n * 10 + (c.toNat - '0'.toNat) then .error .tooLarge
  else .ok (n * 10 + (c.toNat - '0'.toNat))

/-- The number below `limit` that a text writes. -/
def readDecimal (limit : Nat) (text : String) : Except DecimalFault Nat :=
  match text.toList with
  | [] => .error .nothing
  | '+' :: c :: rest => (c :: rest).foldlM (nextDigit limit) 0
  | cs => cs.foldlM (nextDigit limit) 0

def limit16 : Nat := UInt16.size

def limit32 : Nat := UInt32.size

def limit64 : Nat := UInt64.size

end SourceAtlas.Text
