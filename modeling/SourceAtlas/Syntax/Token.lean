/-! Tokens of a source text. A scanner tells the kind and the length of the lexeme at the front;
`cut` applies it until nothing is left, and blanks become the gap in front of the next token, so the
text of any stretch of tokens can be given back. -/
namespace SourceAtlas.Syntax

inductive LexemeKind where
  | blank | comment | word | number | literal | mark | opener | closer
  deriving DecidableEq, Repr

structure Lexeme where
  kind : LexemeKind
  text : List Char
  /-- Whether the lexeme ends where its own rules say, not where the text does. -/
  complete : Bool
  deriving DecidableEq, Repr

/-- What a scanner answers: the kind of the lexeme, how many characters follow its first one, whether
it is complete, and its state for the next lexeme. -/
structure Scan (σ : Type) where
  kind : LexemeKind
  more : Nat
  state : σ
  complete : Bool := true

/-- Cuts a text into lexemes, in front of those already found, which are kept backwards. -/
def cutOnto {σ : Type} (scan : σ → Char → List Char → Scan σ) (found : List Lexeme) (state : σ) :
    List Char → List Lexeme
  | [] => found.reverse
  | c :: rest =>
    let s := scan state c rest
    cutOnto scan (⟨s.kind, c :: rest.take s.more, s.complete⟩ :: found) s.state (rest.drop s.more)
termination_by cs => cs.length
decreasing_by simp only [List.length_drop, List.length_cons]; omega

def cut {σ : Type} (scan : σ → Char → List Char → Scan σ) (state : σ) (cs : List Char) :
    List Lexeme :=
  cutOnto scan [] state cs

structure Token where
  kind : LexemeKind
  /-- Blanks between this token and the one before. -/
  gap : List Char
  text : List Char
  /-- Line breaks before the token in the source. -/
  breaks : Nat
  deriving DecidableEq, Repr

namespace Token

def isMark (t : Token) (c : Char) : Bool := t.kind = .mark && t.text = [c]

def isWord (t : Token) (word : String) : Bool := t.kind = .word && t.text = word.toList

def name (t : Token) : String := String.ofList t.text

/-- Whether a line break or more separates the token from the one before. -/
def startsLine (t : Token) : Bool := t.gap.contains '\n'

end Token

/-- Adds a lexeme to the tokens so far, kept backwards, the gap and the breaks since the start. -/
def addLexeme : List Token × List Char × Nat → Lexeme → List Token × List Char × Nat
  | (found, gap, breaks), l =>
    let after := breaks + l.text.count '\n'
    if l.kind = .blank then (found, gap ++ l.text, after)
    else (⟨l.kind, gap, l.text, breaks⟩ :: found, [], after)

def tokens (lexemes : List Lexeme) : List Token :=
  (lexemes.foldl addLexeme ([], [], 0)).1.reverse

/-- The source text of a stretch of tokens, without what stands in front of it. -/
def sourceText : List Token → List Char
  | [] => []
  | t :: rest => t.text ++ rest.flatMap fun u => u.gap ++ u.text

theorem cutOnto_text {σ : Type} (scan : σ → Char → List Char → Scan σ) (found : List Lexeme)
    (state : σ) (cs : List Char) :
    (cutOnto scan found state cs).flatMap (·.text) = found.reverse.flatMap (·.text) ++ cs := by
  fun_induction cutOnto scan found state cs with
  | case1 => simp
  | case2 found state c rest s ih => simp [ih]

/-- Nothing of the text is lost. -/
theorem cut_text {σ : Type} (scan : σ → Char → List Char → Scan σ) (state : σ) (cs : List Char) :
    (cut scan state cs).flatMap (·.text) = cs := by
  simp [cut, cutOnto_text]

end SourceAtlas.Syntax
