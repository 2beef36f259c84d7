import SourceAtlas.Glob.Rule
import SourceAtlas.Text.Brace

/-! Glob patterns for paths. A question mark stands for one byte, a star for any number; two stars alone
between slashes stand for any number of directories; brackets enclose a class, braces alternatives, and
a backslash takes away the meaning of what follows it. Whether a star may stand for a slash is decided
where the pattern is used. -/
namespace SourceAtlas

inductive Glob.Part where
  | char (c : Char)
  | any
  | many
  /-- Two stars at the start, with the slash behind them. -/
  | dirsBefore
  /-- Two stars at the end, with the slash in front of them. -/
  | dirsAfter
  | dirsBetween
  | oneOf (negated : Bool) (spans : List (Char × Char))
  | choice (alternatives : List (List Glob.Part))

structure Glob where
  parts : List Glob.Part

namespace Glob

/-- Reads a class behind its first character; gives the spans, backwards, and what follows. A minus
sign between two characters makes a span, and the first character is always a member. -/
def classFrom (first inSpan : Bool) (spans : List (Char × Char)) :
    List Char → Option (List (Char × Char) × List Char)
  | [] => none
  | c :: rest =>
    if c = ']' ∧ first = false then
      some (if inSpan then ('-', '-') :: spans else spans, rest)
    else if c = '-' ∧ first = false ∧ inSpan = false then classFrom false true spans rest
    else
      match inSpan, spans with
      | true, (low, _) :: more =>
        if c < low then none else classFrom false false ((low, c) :: more) rest
      | _, _ => classFrom false false ((c, c) :: spans) rest

theorem classFrom_length_lt {first inSpan : Bool} {spans result : List (Char × Char)}
    {cs rest : List Char} (h : classFrom first inSpan spans cs = some (result, rest)) :
    rest.length < cs.length := by
  fun_induction classFrom first inSpan spans cs with
  | case1 => cases h
  | case2 =>
    cases h
    exact Nat.lt_succ_self _
  | case3 _ _ _ _ _ _ _ ih => exact Nat.lt_succ_of_lt (ih h)
  | case4 => cases h
  | case5 _ _ _ _ _ _ _ _ _ ih => exact Nat.lt_succ_of_lt (ih h)
  | case6 _ _ _ _ _ _ _ _ ih => exact Nat.lt_succ_of_lt (ih h)

/-- A class behind its bracket. -/
def class? (cs : List Char) : Option (Part × List Char) :=
  match cs with
  | '!' :: rest | '^' :: rest =>
    (classFrom true false [] rest).map fun (spans, after) => (.oneOf true spans.reverse, after)
  | _ => (classFrom true false [] cs).map fun (spans, after) => (.oneOf false spans.reverse, after)

theorem class?_length_lt {cs rest : List Char} {part : Part} (h : class? cs = some (part, rest)) :
    rest.length < cs.length := by
  unfold class? at h
  split at h
  all_goals
    obtain ⟨⟨spans, after⟩, hc, he⟩ := Option.map_eq_some_iff.mp h
    simp only [Prod.mk.injEq] at he
    have := classFrom_length_lt hc
    rw [← he.2]
    first | exact this | (simp only [List.length_cons]; omega)

/-- Braces that are open: what stands in front of them and their complete alternatives, backwards. -/
structure Open where
  before : List Part
  complete : List (List Part)

/-- What two stars mean, given the part in front of them, and whether a slash follows. -/
def stars (before : Part) (atEnd : Bool) : Part :=
  match before with
  | .dirsBefore => .dirsBefore
  | .dirsAfter => .dirsAfter
  | _ => if atEnd then .dirsAfter else .dirsBetween

/-- What two stars become: the parts of the level, backwards, and what follows the stars. -/
def twoStars (previous : Option Char) (level : List Part) (inBraces : Bool) (rest : List Char) :
    List Part × List Char :=
  match level with
  | [] =>
    match rest with
    | [] => ([.dirsBefore], [])
    | '/' :: after => ([.dirsBefore], after)
    | _ => ([.many], rest)
  | part :: more =>
    if previous = some '/' ∨
        (inBraces = true ∧ (previous = some ',' ∨ previous = some Text.openBrace)) then
      match rest with
      | [] => (stars part true :: more, [])
      | c :: after =>
        if inBraces = true ∧ (c = ',' ∨ c = Text.closeBrace) then (stars part true :: more, rest)
        else if c = '/' then (stars part false :: more, after)
        else (.many :: level, rest)
    else (.many :: level, rest)

theorem twoStars_length_le (previous : Option Char) (level : List Part) (inBraces : Bool)
    (rest : List Char) : (twoStars previous level inBraces rest).2.length ≤ rest.length := by
  unfold twoStars
  split
  · split <;> simp
  · split
    · split
      · simp
      · split
        · simp
        · split <;> simp
    · simp

/-- Reads a pattern from here on; `level` are the parts of the current alternative, backwards, and
`previous` is the character in front. -/
def parseFrom (previous : Option Char) (level : List Part) (opened : List Open) (cs : List Char) :
    Option (List Part) :=
  match cs with
  | [] => if opened.isEmpty then some level.reverse else none
  | c :: rest =>
    if c = '?' then parseFrom (some c) (.any :: level) opened rest
    else if c = '*' then
      match rest with
      | '*' :: after =>
        let read := twoStars previous level (!opened.isEmpty) after
        parseFrom (if read.2.length < after.length then some '/' else some '*') read.1 opened read.2
      | after => parseFrom (some c) (.many :: level) opened after
    else if c = '[' then
      match _h : class? rest with
      | some (part, after) => parseFrom (some ']') (part :: level) opened after
      | none => none
    else if c = Text.openBrace then parseFrom (some c) [] (⟨level, []⟩ :: opened) rest
    else if c = Text.closeBrace then
      match opened with
      | [] => none
      | o :: outer =>
        parseFrom (some c) (.choice (level.reverse :: o.complete).reverse :: o.before) outer rest
    else if c = ',' then
      match opened with
      | [] => parseFrom (some c) (.char c :: level) [] rest
      | o :: outer => parseFrom (some c) [] (⟨o.before, level.reverse :: o.complete⟩ :: outer) rest
    else if c = '\\' then
      match rest with
      | [] => none
      | d :: after => parseFrom (some d) (.char d :: level) opened after
    else parseFrom (some c) (.char c :: level) opened rest
termination_by cs.length
decreasing_by
  all_goals first
    | (have shorter := twoStars_length_le previous level (!opened.isEmpty) after
       simp only [List.length_cons]; omega)
    | (have shorter := class?_length_lt _h; simp only [List.length_cons]; omega)
    | (simp only [List.length_cons]; omega)

/-- The pattern that a text writes, if it is well-formed. -/
def ofText? (text : String) : Option Glob := (parseFrom none [] [] text.toList).map Glob.mk

mutual

/-- Whether a part stands for nothing at all. -/
def Part.isBlank : Part → Bool
  | .choice alternatives => allBlank alternatives
  | _ => false

def allBlank : List (List Part) → Bool
  | [] => true
  | parts :: more => areBlank parts && allBlank more

def areBlank : List Part → Bool
  | [] => true
  | part :: rest => part.isBlank && areBlank rest

end

/-- The bytes of a span. Its ends are written byte by byte, and the span joins the last byte of the one
to the first of the other. -/
def spanBytes (low high : Char) : List (UInt8 × UInt8) :=
  let singles (bytes : Bytes) := bytes.map fun b => (b, b)
  let lowBytes := Text.utf8 (String.ofList [low])
  let highBytes := Text.utf8 (String.ofList [high])
  if low = high then singles lowBytes
  else match lowBytes.getLast?, highBytes with
    | some a, b :: rest => singles lowBytes.dropLast ++ (a, b) :: singles rest
    | _, _ => []

def slash : Rule := .byte (.single 0x2f)

def anything : Rule := .many .all

mutual

/-- The rule of a part; `name` are the bytes that a question mark or star may stand for. -/
def Part.rule (name : ByteSet) : Part → Rule
  | .char c => Rule.ofBytes (Text.utf8 (String.ofList [c]))
  | .any => .byte name
  | .many => .many name
  | .dirsBefore => (Rule.done.orElse slash).orElse (anything.followedBy slash)
  | .dirsAfter => slash.followedBy anything
  | .dirsBetween => slash.orElse (slash.followedBy (anything.followedBy slash))
  | .oneOf negated spans => .byte ⟨negated, spans.flatMap fun (low, high) => spanBytes low high⟩
  | .choice alternatives => if allBlank alternatives then .done else choiceRule name alternatives

/-- Alternatives that stand for nothing are left out. -/
def choiceRule (name : ByteSet) : List (List Part) → Rule
  | [] => .fail
  | parts :: more =>
    if areBlank parts then choiceRule name more
    else (partsRule name parts).orElse (choiceRule name more)

def partsRule (name : ByteSet) : List Part → Rule
  | [] => .done
  | part :: rest => (part.rule name).followedBy (partsRule name rest)

end

/-- The rule of a pattern. Two stars alone match everything. -/
def rule (name : ByteSet) (g : Glob) : Rule :=
  match g.parts with
  | [.dirsBefore] => anything
  | parts => partsRule name parts

/-- Whether a path matches; stars may stand for slashes. -/
def isMatch (g : Glob) (path : String) : Bool := (g.rule .all).allows (Text.utf8 path)

/-- Whether a path matches; stars stay inside of one component. -/
def isMatchByName (g : Glob) (path : String) : Bool := (g.rule .inName).allows (Text.utf8 path)

end Glob

end SourceAtlas
