import Mathlib.Algebra.Group.Nat.Defs
import Mathlib.Data.List.Induction
import SourceAtlas.NodeId

/-! Hexadecimal digits read back as the number that they are written for, and so the text of a node id
as the id. Nothing but digits is read, and only as the number whose digits they are. Texts of one length
stand in the order of their numbers. -/
namespace SourceAtlas

namespace Text.Hex

theorem value_digit : ∀ n < 16, value? (digit n) = some n := by decide

theorem readFrom_append (high : Nat) (before after : List Char) :
    readFrom high (before ++ after) = (readFrom high before).bind (readFrom · after) := by
  induction before generalizing high with
  | nil => rfl
  | cons c rest ih =>
    rw [List.cons_append, readFrom, readFrom]
    cases value? c with
    | none => rfl
    | some v => exact ih _

theorem readFrom_render (high width n : Nat) :
    readFrom high (render width n) = some (high * 16 ^ width + n % 16 ^ width) := by
  induction width generalizing n with
  | zero => simp [render, readFrom, Nat.mod_one]
  | succ width ih =>
    have last : value? (digit (n % 16)) = some (n % 16) := value_digit _ (Nat.mod_lt _ (by decide))
    rw [render, readFrom_append, ih, Option.bind_some, readFrom, last]
    change some ((high * 16 ^ width + n / 16 % 16 ^ width) * 16 + n % 16) = _
    rw [Nat.pow_succ, Nat.mul_comm (16 ^ width) 16, Nat.mod_mul]
    congr 1
    rw [Nat.add_mul, Nat.mul_assoc, Nat.mul_comm (16 ^ width) 16]
    omega

theorem read_render {width n : Nat} (small : n < 16 ^ width) : read? (render width n) = some n := by
  rw [read?, readFrom_render, Nat.zero_mul, Nat.zero_add, Nat.mod_eq_of_lt small]

/-- A decimal digit or a small letter up to `f`. -/
def IsDigit (c : Char) : Prop := ('0' ≤ c ∧ c ≤ '9') ∨ ('a' ≤ c ∧ c ≤ 'f')

instance : DecidablePred IsDigit := fun c =>
  inferInstanceAs (Decidable (('0' ≤ c ∧ c ≤ '9') ∨ ('a' ≤ c ∧ c ≤ 'f')))

theorem value_eq_none_iff {c : Char} : value? c = none ↔ ¬ IsDigit c := by
  simp only [value?, Bool.and_eq_true, decide_eq_true_eq, IsDigit]
  split
  · next decimal => simp [decimal]
  · next other =>
    split
    · next letter => simp [letter]
    · next more => simp [other, more]

/-- A digit is the only character of its value. -/
theorem value_eq_some_iff {c : Char} {v : Nat} : value? c = some v ↔ v < 16 ∧ c = digit v := by
  constructor
  · intro read
    have back : Char.ofNat c.toNat = c := Char.ofNat_toNat c
    unfold value? at read
    simp only [Bool.and_eq_true, decide_eq_true_eq] at read
    split at read
    · next within =>
      have bounds : 48 ≤ c.toNat ∧ c.toNat ≤ 57 := within
      cases read
      refine ⟨by omega, ?_⟩
      rw [digit, if_pos (by omega), show 48 + (c.toNat - 48) = c.toNat by omega, back]
    · split at read
      · next within =>
        have bounds : 97 ≤ c.toNat ∧ c.toNat ≤ 102 := within
        cases read
        refine ⟨by omega, ?_⟩
        rw [digit, if_neg (by omega), show 87 + (c.toNat - 87) = c.toNat by omega, back]
      · cases read
  · rintro ⟨small, rfl⟩
    exact value_digit v small

theorem isDigit_digit {n : Nat} (small : n < 16) : IsDigit (digit n) := by
  apply Decidable.of_not_not
  intro other
  have unread := value_eq_none_iff.mpr other
  rw [value_digit n small] at unread
  cases unread

theorem digit_lt_iff : ∀ m < 16, ∀ n < 16, (digit m < digit n ↔ m < n) := by decide

theorem isDigit_of_mem_render {width n : Nat} {c : Char} (h : c ∈ render width n) : IsDigit c := by
  induction width generalizing n with
  | zero => simp [render] at h
  | succ width ih =>
    rcases List.mem_append.mp h with front | last
    · exact ih front
    · rw [List.mem_singleton.mp last]
      exact isDigit_digit (Nat.mod_lt _ (by decide))

/-- The first digit counts sixteen to the number of the others. -/
theorem render_succ (width n : Nat) :
    render (width + 1) n = digit (n / 16 ^ width % 16) :: render width n := by
  induction width generalizing n with
  | zero => simp [render]
  | succ width ih =>
    rw [render, ih, render, List.cons_append, Nat.div_div_eq_div_mul, ← Nat.pow_succ']

/-- Numbers compare by their quotients first, and by their remainders where these agree. -/
theorem add_mul_lt_iff {base r s p q : Nat} (hr : r < base) (hs : s < base) :
    r + base * p < s + base * q ↔ p < q ∨ p = q ∧ r < s := by
  rcases Nat.lt_trichotomy p q with less | same | greater
  · have step : base * p + base ≤ base * q := by
      rw [← Nat.mul_succ]
      exact Nat.mul_le_mul_left base less
    omega
  · subst same
    omega
  · have step : base * q + base ≤ base * p := by
      rw [← Nat.mul_succ]
      exact Nat.mul_le_mul_left base greater
    omega

/-- Of texts of one length the one of the greater number comes later. -/
theorem render_lt_iff (width m n : Nat) :
    render width m < render width n ↔ m % 16 ^ width < n % 16 ^ width := by
  induction width with
  | zero => simp [render, Nat.mod_one]
  | succ width ih =>
    have high : ∀ k, k / 16 ^ width % 16 < 16 := fun k => Nat.mod_lt _ (by decide)
    have low : ∀ k, k % 16 ^ width < 16 ^ width := fun k => Nat.mod_lt _ (Nat.pow_pos (by decide))
    have same : digit (m / 16 ^ width % 16) = digit (n / 16 ^ width % 16) ↔
        m / 16 ^ width % 16 = n / 16 ^ width % 16 := by
      constructor
      · intro e
        have values := congrArg value? e
        rw [value_digit _ (high m), value_digit _ (high n)] at values
        exact Option.some.inj values
      · exact congrArg digit
    rw [render_succ, render_succ, List.cons_lt_cons_iff, digit_lt_iff _ (high m) _ (high n), same, ih,
      Nat.pow_succ, Nat.mod_mul, Nat.mod_mul]
    exact (add_mul_lt_iff (low m) (low n)).symm

/-- Digits are read as the number that they are written for. -/
theorem render_of_read {cs : List Char} {n : Nat} (h : read? cs = some n) :
    n < 16 ^ cs.length ∧ render cs.length n = cs := by
  induction cs using List.reverseRecOn generalizing n with
  | nil =>
    cases h
    exact ⟨by decide, rfl⟩
  | append_singleton before c ih =>
    rw [read?, readFrom_append, ← read?, Option.bind_eq_some_iff] at h
    obtain ⟨m, front, last⟩ := h
    obtain ⟨small, written⟩ := ih front
    simp only [readFrom] at last
    split at last
    · next v value =>
      obtain ⟨below, rfl⟩ := value_eq_some_iff.mp value
      cases last
      have quotient : (m * 16 + v) / 16 = m := by omega
      have remainder : (m * 16 + v) % 16 = v := by omega
      rw [List.length_append, List.length_singleton, render, quotient, remainder, written]
      refine ⟨?_, rfl⟩
      rw [Nat.pow_succ]
      omega
    · cases last

theorem read_eq_some_iff {cs : List Char} {n : Nat} :
    read? cs = some n ↔ n < 16 ^ cs.length ∧ cs = render cs.length n := by
  constructor
  · intro h
    obtain ⟨small, written⟩ := render_of_read h
    exact ⟨small, written.symm⟩
  · rintro ⟨small, written⟩
    rw [written, read_render small]

theorem exists_readFrom_iff {cs : List Char} (high : Nat) :
    (∃ n, readFrom high cs = some n) ↔ ∀ c ∈ cs, IsDigit c := by
  induction cs generalizing high with
  | nil => simp [readFrom]
  | cons c rest ih =>
    rw [List.forall_mem_cons, readFrom]
    cases value : value? c with
    | none => simp [value_eq_none_iff.mp value]
    | some v =>
      have digit : IsDigit c := by
        apply Decidable.of_not_not
        intro other
        rw [value_eq_none_iff.mpr other] at value
        cases value
      simp only [digit, true_and]
      exact ih _

end Text.Hex

theorem NodeId.ofText_toText (id : NodeId) : NodeId.ofText? id.toText = some id := by
  have small : id.val.toNat < 16 ^ 16 := id.val.toNat_lt
  simp [ofText?, toText, Text.Hex.read_render small]

end SourceAtlas
