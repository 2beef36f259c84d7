/-! Sets of code points as lists of spans. A span with step 2 holds every second code point, which
is how letters of alternating case are laid out. ASCII is answered by the callers, so the tables
start at U+0080. -/
namespace SourceAtlas.Text

structure Span where
  first : Nat
  last : Nat
  step : Nat
  deriving DecidableEq, Repr

def Span.contains (s : Span) (n : Nat) : Bool :=
  s.first ≤ n && n ≤ s.last && (n - s.first) % s.step == 0

def inSpans (spans : List Span) (n : Nat) : Bool := spans.any (·.contains n)

theorem inSpans_eq_true_iff (spans : List Span) (n : Nat) :
    inSpans spans n = true ↔ ∃ s ∈ spans, s.contains n = true := by
  simp [inSpans]

end SourceAtlas.Text
