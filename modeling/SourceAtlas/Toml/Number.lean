import SourceAtlas.Text.Case
import SourceAtlas.Text.Hex
import SourceAtlas.Text.Split
import SourceAtlas.Toml

/-! Numbers, dates and times, each written as one word. -/
namespace SourceAtlas.Toml

def isDigit (c : Char) : Bool := '0' ≤ c && c ≤ '9'

/-- The digits of a word in which single underscores may stand between digits. -/
def grouped? (ok : Char → Bool) : List Char → Option (List Char)
  | [] => none
  | [c] => if ok c then some [c] else none
  | c :: '_' :: rest => if ok c then (grouped? ok rest).map (c :: ·) else none
  | c :: rest => if ok c then (grouped? ok rest).map (c :: ·) else none

/-- The number that the digits write to a base. -/
def valueOf (base : Nat) (digits : List Char) : Nat :=
  digits.foldl (fun n c => n * base + (Text.Hex.value? (Text.asciiLower c)).getD 0) 0

/-- A whole number without a sign. Only zero starts with a zero. -/
def plain? (word : List Char) : Option (List Char) :=
  match word with
  | ['0'] => some ['0']
  | '0' :: _ => none
  | _ => grouped? isDigit word

def unsigned (word : List Char) : List Char :=
  match word with
  | '+' :: rest => rest
  | '-' :: rest => rest
  | _ => word

def isNegative (word : List Char) : Bool := word.head? = some '-'

/-- A number to a base of its own, behind its mark. -/
def based? (word : List Char) : Option Nat :=
  match word with
  | '0' :: 'x' :: rest =>
    (grouped? (fun c => (Text.Hex.value? (Text.asciiLower c)).isSome) rest).map (valueOf 16)
  | '0' :: 'o' :: rest => (grouped? (fun c => '0' ≤ c && c ≤ '7') rest).map (valueOf 8)
  | '0' :: 'b' :: rest => (grouped? (fun c => c = '0' || c = '1') rest).map (valueOf 2)
  | _ => none

/-- Whole numbers have 64 bits and a sign. -/
def integer? (word : List Char) : Option Int := do
  let n : Int ← match based? word with
    | some n => some (n : Int)
    | none => do
      let n := valueOf 10 (← plain? (unsigned word))
      return if isNegative word then -(n : Int) else n
  if Int64.minValue.toInt ≤ n ∧ n ≤ Int64.maxValue.toInt then some n else none

/-- The parts of a word in front of and behind the first character that passes the test. -/
def cutAt? (p : Char → Bool) (word : List Char) : Option (List Char × List Char) :=
  match word.dropWhile (!p ·) with
  | [] => none
  | _ :: rest => some (word.takeWhile (!p ·), rest)

/-- Whether digits, times a power of ten, round to more than the largest number of 64 bits. -/
def isHuge (digits : List Char) (power : Int) : Bool :=
  let digits := digits.dropWhile (· = '0')
  let magnitude := digits.length + power
  if digits.isEmpty || magnitude < 300 then false
  else if magnitude > 320 then true
  else
    let limit := Nat.pow 2 1024 - Nat.pow 2 970
    let n := valueOf 10 digits
    if 0 ≤ power then limit ≤ n * Nat.pow 10 power.toNat else limit * Nat.pow 10 (-power).toNat ≤ n

/-- Numbers with a fraction, an exponent, or both. Infinity has a name and is not written in digits,
but a negative number may be as large as it likes. -/
def isDecimal (word : List Char) : Bool :=
  let body := unsigned word
  body = "inf".toList || body = "nan".toList ||
    (let (mantissa, exponent) :=
      match cutAt? (fun c => c = 'e' || c = 'E') body with
      | some (mantissa, exponent) => (mantissa, some exponent)
      | none => (body, none)
    let (whole, fraction) :=
      match cutAt? (· = '.') mantissa with
      | some (whole, fraction) => (whole, some fraction)
      | none => (mantissa, none)
    match plain? whole, fraction.map (grouped? isDigit),
        exponent.map fun e => (grouped? isDigit (unsigned e)).map fun digits =>
          if isNegative e then -(valueOf 10 digits : Int) else valueOf 10 digits with
    | some _, none, none => false
    | some whole, fraction, power =>
      let fraction := fraction.getD (some [])
      match fraction, power.getD (some 0) with
      | some fraction, some power =>
        isNegative word || !isHuge (whole ++ fraction) (power - fraction.length)
      | _, _ => false
    | none, _, _ => false)

/-- A number of a fixed count of digits and at most so large. -/
def fixed? (count most : Nat) (word : List Char) : Option Nat :=
  if word.length = count ∧ word.all isDigit ∧ valueOf 10 word ≤ most then some (valueOf 10 word)
  else none

def daysOf (year month : Nat) : Nat :=
  if month = 2 then
    if year % 4 = 0 ∧ (year % 100 ≠ 0 ∨ year % 400 = 0) then 29 else 28
  else if [4, 6, 9, 11].contains month then 30
  else 31

def isDate (word : List Char) : Bool :=
  match Text.split '-' word with
  | [year, month, day] =>
    match fixed? 4 9999 year, fixed? 2 12 month with
    | some year, some month => month ≠ 0 && (fixed? 2 (daysOf year month) day).any (· ≠ 0)
    | _, _ => false
  | _ => false

/-- Seconds may count up to 60, and any number of digits may follow their point. -/
def isTime (word : List Char) : Bool :=
  match Text.split ':' word with
  | [hour, minute, second] =>
    let (second, fraction) := (cutAt? (· = '.') second).getD (second, ['0'])
    (fixed? 2 23 hour).isSome && (fixed? 2 59 minute).isSome && (fixed? 2 60 second).isSome &&
      !fraction.isEmpty && fraction.all isDigit
  | _ => false

def isOffset (word : List Char) : Bool :=
  match Text.split ':' word with
  | [hour, minute] => (fixed? 2 23 hour).isSome && (fixed? 2 59 minute).isSome
  | _ => false

/-- A time, with or without its distance from universal time. -/
def isZonedTime (word : List Char) : Bool :=
  isTime word ||
    match word.reverse with
    | 'Z' :: before | 'z' :: before => isTime before.reverse
    | _ =>
      match cutAt? (fun c => c = '+' || c = '-') word with
      | some (time, offset) => isTime time && isOffset offset
      | none => false

def isMoment (word : List Char) : Bool :=
  isDate word || isTime word ||
    match cutAt? (fun c => c = 'T' || c = 't') word with
    | some (date, time) => isDate date && isZonedTime time
    | none => false

/-- The value that one word writes. -/
def wordValue? (word : List Char) : Option Value :=
  if word = "true".toList then some (.flag true)
  else if word = "false".toList then some (.flag false)
  else if isMoment word then some .moment
  else if isDecimal word then some .decimal
  else (integer? word).map .integer

end SourceAtlas.Toml
