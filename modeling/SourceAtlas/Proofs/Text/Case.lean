import SourceAtlas.Text.Alphanumeric
import SourceAtlas.Text.Case

/-! Lower case that stays as it is when it is read and put in lower case once more. Letters and numbers
come to such characters, except the dotted capital I, which leaves a mark that is neither, and the
capitals that have no lower case. The tables are compared span by span. -/
namespace SourceAtlas.Text

namespace Span

variable {s t : Span} {n : Nat}

theorem contains_iff : s.contains n = true ↔
    s.first ≤ n ∧ n ≤ s.last ∧ (n - s.first) % s.step = 0 := by
  simp [contains, and_assoc]

/-- All code points of the span are even, or all are odd. -/
def sameParity (s : Span) : Bool := Nat.beq s.step 2 || Nat.beq s.first s.last

/-- One span ends before the other starts, or one is even and the other is odd. -/
def apart (s t : Span) : Bool :=
  Nat.blt s.last t.first || Nat.blt t.last s.first ||
    (s.sameParity && t.sameParity && Nat.beq ((s.first + t.first) % 2) 1)

theorem parity_of_contains (same : s.sameParity = true) (h : s.contains n = true) :
    n % 2 = s.first % 2 := by
  obtain ⟨low, high, grid⟩ := contains_iff.mp h
  simp only [sameParity, Bool.or_eq_true, Nat.beq_eq] at same
  rcases same with alternating | single
  · rw [alternating] at grid
    omega
  · omega

theorem not_contains_of_apart (h : s.apart t = true) (hs : s.contains n = true) :
    t.contains n = false := by
  rw [Bool.eq_false_iff]
  intro ht
  obtain ⟨low, high, _⟩ := contains_iff.mp hs
  obtain ⟨low', high', _⟩ := contains_iff.mp ht
  simp only [apart, Bool.or_eq_true, Bool.and_eq_true, Nat.blt_eq, Nat.beq_eq] at h
  rcases h with (before | behind) | ⟨⟨even, odd⟩, differ⟩
  · omega
  · omega
  · have one := parity_of_contains even hs
    have other := parity_of_contains odd ht
    omega

end Span

theorem not_inSpans_of_apart {s : Span} {spans : List Span} {n : Nat}
    (h : spans.all s.apart = true) (hs : s.contains n = true) : inSpans spans n = false := by
  rw [inSpans, List.any_eq_false]
  intro t ht
  rw [Span.not_contains_of_apart (List.all_eq_true.mp h t ht) hs]
  exact Bool.false_ne_true

/-- A letter or a number that is not in upper case and is its own lower case. -/
structure Settled (c : Char) : Prop where
  alphanumeric : isAlphanumeric c = true
  small : isUppercase c = false
  kept : lowerChar c = [c]

instance (c : Char) : Decidable (Settled c) :=
  decidable_of_iff (isAlphanumeric c = true ∧ isUppercase c = false ∧ lowerChar c = [c])
    ⟨fun h => ⟨h.1, h.2.1, h.2.2⟩, fun h => ⟨h.1, h.2, h.3⟩⟩

namespace LowerRun

/-- The lower cases of the run. -/
def lowers (run : LowerRun) : Span :=
  ⟨run.target, run.target + (run.letters.last - run.letters.first), run.letters.step⟩

theorem lowers_contains {run : LowerRun} {n : Nat} (h : run.letters.contains n = true) :
    run.lowers.contains (run.target + (n - run.letters.first)) = true := by
  obtain ⟨low, high, grid⟩ := Span.contains_iff.mp h
  refine Span.contains_iff.mpr ⟨Nat.le_add_right _ _, ?_, ?_⟩
  · exact Nat.add_le_add_left (Nat.sub_le_sub_right high _) _
  · rw [lowers, Nat.add_sub_cancel_left]
    exact grid

/-- The lower cases are small letters of ASCII, or they are alphanumeric and have no lower case of their
own. -/
def settled (run : LowerRun) : Bool :=
  (Nat.ble 0x61 run.lowers.first && Nat.ble run.lowers.last 0x7A) ||
    (Nat.ble 128 run.lowers.first &&
      (Nat.blt run.lowers.last 0xD800 ||
        (Nat.ble 0xE000 run.lowers.first && Nat.blt run.lowers.last 0x110000)) &&
      alphanumericSpans.any (fun s =>
        Nat.beq s.step 1 && Nat.ble s.first run.lowers.first && Nat.ble run.lowers.last s.last) &&
      uppercaseSpans.all run.lowers.apart && lowerRuns.all fun other => run.lowers.apart other.letters)

end LowerRun

theorem lowerRuns_settled : ∀ run ∈ lowerRuns, run.settled = true := by
  rw [← List.all_eq_true]
  decide +kernel

theorem settled_of_ascii : ∀ n < 128, isAlphanumeric (Char.ofNat n) = true →
    Settled (asciiLower (Char.ofNat n)) := by
  decide +kernel

theorem settled_of_small : ∀ n ≤ 0x7A, 0x61 ≤ n → Settled (Char.ofNat n) := by
  decide +kernel

/-- The lower cases of the table are settled. -/
theorem settled_of_run {run : LowerRun} (known : run ∈ lowerRuns) {n : Nat}
    (h : run.letters.contains n = true) :
    Settled (Char.ofNat (run.target + (n - run.letters.first))) := by
  have inside := LowerRun.lowers_contains h
  have settled := lowerRuns_settled run known
  generalize run.target + (n - run.letters.first) = lower at inside ⊢
  obtain ⟨low, high, _⟩ := Span.contains_iff.mp inside
  simp only [LowerRun.settled, Bool.or_eq_true, Bool.and_eq_true, Nat.ble_eq, Nat.blt_eq] at settled
  rcases settled with ⟨first, last⟩ | ⟨⟨⟨⟨beyond, scalar⟩, spans⟩, capitals⟩, letters⟩
  · exact settled_of_small lower (Nat.le_trans high last) (Nat.le_trans first low)
  · have valid : lower.isValidChar := by
      unfold Nat.isValidChar
      omega
    have value : (Char.ofNat lower).toNat = lower := by
      rw [Char.ofNat, dif_pos valid]
      rfl
    have other : ¬ (Char.ofNat lower).toNat < 128 := by omega
    obtain ⟨s, hs, covered⟩ := List.any_eq_true.mp spans
    simp only [Bool.and_eq_true, Nat.beq_eq, Nat.ble_eq] at covered
    have small : isUppercase (Char.ofNat lower) = false := by
      rw [isUppercase, if_neg other, value]
      exact not_inSpans_of_apart capitals inside
    refine ⟨?_, small, ?_⟩
    · rw [isAlphanumeric, if_neg other, value]
      refine (inSpans_eq_true_iff _ _).mpr ⟨s, hs, Span.contains_iff.mpr ⟨?_, ?_, ?_⟩⟩
      · omega
      · omega
      · rw [covered.1.1, Nat.mod_one]
    · have plain : (Char.ofNat lower).toNat ≠ 0x130 := by
        intro dotted
        rw [show Char.ofNat lower = Char.ofNat 0x130 from Char.toNat_inj.mp dotted] at small
        revert small
        decide +kernel
      have none : lowerRuns.find? (fun run => run.letters.contains lower) = none := by
        rw [List.find?_eq_none]
        intro run hr
        rw [Span.not_contains_of_apart (List.all_eq_true.mp letters run hr) inside]
        exact Bool.false_ne_true
      rw [lowerChar, if_neg other, if_neg plain, value, none]

/-- There is a lower case, and it does not fall apart. -/
def Foldable (c : Char) : Prop := c.toNat ≠ 0x130 ∧ (isUppercase c = true → lowerChar c ≠ [c])

instance (c : Char) : Decidable (Foldable c) :=
  inferInstanceAs (Decidable (c.toNat ≠ 0x130 ∧ (isUppercase c = true → lowerChar c ≠ [c])))

theorem settled_of_foldable {c : Char} (alphanumeric : isAlphanumeric c = true) (h : Foldable c) :
    ∃ lower, lowerChar c = [lower] ∧ Settled lower := by
  by_cases ascii : c.toNat < 128
  · refine ⟨asciiLower c, by rw [lowerChar, if_pos ascii], ?_⟩
    have settled := settled_of_ascii c.toNat ascii
    rw [Char.ofNat_toNat] at settled
    exact settled alphanumeric
  · cases run : lowerRuns.find? (·.letters.contains c.toNat) with
    | none =>
      have kept : lowerChar c = [c] := by rw [lowerChar, if_neg ascii, if_neg h.1, run]
      have small : isUppercase c = false := by
        rw [Bool.eq_false_iff]
        exact fun capital => h.2 capital kept
      exact ⟨c, kept, alphanumeric, small, kept⟩
    | some run' =>
      refine ⟨_, by rw [lowerChar, if_neg ascii, if_neg h.1, run], ?_⟩
      exact settled_of_run (List.mem_of_find?_eq_some run)
        (List.find?_eq_some_iff_append.mp run).1

theorem settled_sigma : Settled (Char.ofNat 0x3C2) ∧ Settled (Char.ofNat 0x3C3) := by
  decide +kernel

theorem settled_of_lowerFrom (before : List Char) {cs : List Char}
    (h : ∀ c ∈ cs, isAlphanumeric c = true ∧ Foldable c) :
    (lowerFrom before cs).length = cs.length ∧ ∀ c ∈ lowerFrom before cs, Settled c := by
  induction cs generalizing before with
  | nil => exact ⟨rfl, fun c hc => nomatch hc⟩
  | cons first rest ih =>
    obtain ⟨length, settled⟩ := ih (first :: before) fun c hc => h c (List.mem_cons_of_mem _ hc)
    obtain ⟨alphanumeric, foldable⟩ := h first List.mem_cons_self
    have one : ∃ lower, Settled lower ∧
        lowerFrom before (first :: rest) = lower :: lowerFrom (first :: before) rest := by
      rw [lowerFrom]
      split
      · split
        · exact ⟨_, settled_sigma.1, rfl⟩
        · exact ⟨_, settled_sigma.2, rfl⟩
      · obtain ⟨lower, single, it⟩ := settled_of_foldable alphanumeric foldable
        exact ⟨lower, it, by rw [single]; rfl⟩
    obtain ⟨lower, it, shape⟩ := one
    rw [shape]
    exact ⟨congrArg Nat.succ length, List.forall_mem_cons.mpr ⟨it, settled⟩⟩

theorem lowerFrom_of_settled {before cs : List Char} (h : ∀ c ∈ cs, Settled c) :
    lowerFrom before cs = cs := by
  induction cs generalizing before with
  | nil => rfl
  | cons first rest ih =>
    obtain ⟨settled, others⟩ := List.forall_mem_cons.mp h
    have plain : first.toNat ≠ 0x3A3 := by
      intro sigma
      have small := settled.small
      rw [show first = Char.ofNat 0x3A3 from Char.toNat_inj.mp sigma] at small
      revert small
      decide +kernel
    rw [lowerFrom, if_neg plain, settled.kept, ih others]
    rfl

end SourceAtlas.Text
