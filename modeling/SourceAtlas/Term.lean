import SourceAtlas.Distinct
import SourceAtlas.Text.Alphanumeric
import SourceAtlas.Text.Case

/-! Search terms. A text is read as its maximal runs of letters and numbers; each run is cut where
a capitalized word starts inside it, and every piece is put in lower case. -/
namespace SourceAtlas.Term

/-- The maximal runs of characters in the class `p`, in order. -/
def runs (p : Char → Bool) : List Char → List (List Char)
  | [] => []
  | c :: rest => if p c then (c :: rest.takeWhile p) :: runs p (rest.dropWhile p) else runs p rest
termination_by cs => cs.length
decreasing_by
  · have := (List.dropWhile_sublist p (l := rest)).length_le
    simp only [List.length_cons]; omega
  · simp

/-- Whether a piece starts at `cur`, read between `prev` and the character after it. `aB` and `1B`
are cut, and so is the last capital of several when a small letter follows, as in `HTTPServer`. -/
def cutBefore (prev cur : Char) (next : Option Char) : Bool :=
  ((Text.isLowercase prev || ('0' ≤ prev && prev ≤ '9')) && Text.isUppercase cur) ||
    (Text.isUppercase prev && Text.isUppercase cur && next.any Text.isLowercase)

def pieces : List Char → List (List Char)
  | [] => []
  | [c] => [[c]]
  | prev :: cur :: rest =>
    match pieces (cur :: rest) with
    | [] => [[prev]]
    | first :: more =>
      if cutBefore prev cur rest.head? then [prev] :: first :: more
      else (prev :: first) :: more

def ofChars (cs : List Char) : List String :=
  (runs Text.isAlphanumeric cs).flatMap fun run =>
    (pieces run).map fun piece => String.ofList (Text.lowercase piece)

/-- All terms of a text, repeats kept. -/
def tokenize (text : String) : List String := ofChars text.toList

/-- The distinct terms of a text, in the order of their first occurrence. -/
def distinct (text : String) : List String := distinctBy id (tokenize text)

end SourceAtlas.Term
