import SourceAtlas.Proofs.Text.Lines
import SourceAtlas.Text.Pattern

/-! Patterns that accept no line break match line by line: what they find in a text is what they find in
each of its lines, at the place that the line has in the text. -/
namespace SourceAtlas.Text

/-- One place is reached from another over characters of the text. -/
def Cursor.Reaches (s t : Cursor) : Prop :=
  ∃ taken, s.rest = taken ++ t.rest ∧ t.offset = s.offset + taken.length

namespace Cursor

variable {accepts : Char → Bool} {s t u : Cursor}

theorem Reaches.refl (s : Cursor) : s.Reaches s := ⟨[], rfl, rfl⟩

theorem Reaches.trans (first : s.Reaches t) (second : t.Reaches u) : s.Reaches u := by
  obtain ⟨taken, rest, offset⟩ := first
  obtain ⟨more, rest', offset'⟩ := second
  refine ⟨taken ++ more, ?_, ?_⟩
  · rw [rest, rest', List.append_assoc]
  · rw [offset', offset, List.length_append, Nat.add_assoc]

/-- No more is taken than there is. -/
theorem Reaches.offset_le (h : s.Reaches t) : t.offset - s.offset ≤ s.rest.length := by
  obtain ⟨taken, rest, offset⟩ := h
  rw [rest, offset, List.length_append]
  omega

theorem step?_eq_some_iff : s.step? accepts = some t ↔ ∃ c rest, s.rest = c :: rest ∧
    accepts c = true ∧ t = ⟨s.offset + 1, some c, rest, s.groups⟩ := by
  unfold step?
  cases s.rest with
  | nil => simp
  | cons c rest =>
    simp only [Option.ite_none_right_eq_some, Option.some.injEq, List.cons.injEq]
    constructor
    · rintro ⟨fits, rfl⟩
      exact ⟨c, rest, ⟨rfl, rfl⟩, fits, rfl⟩
    · rintro ⟨_, _, ⟨rfl, rfl⟩, fits, rfl⟩
      exact ⟨fits, rfl⟩

theorem reaches_of_step (h : s.step? accepts = some t) : s.Reaches t := by
  obtain ⟨c, rest, cut, _, rfl⟩ := step?_eq_some_iff.mp h
  exact ⟨[c], cut, rfl⟩

/-- The places that are reached over accepted characters, and nothing else. -/
theorem mem_reached_iff : t ∈ s.reached accepts ↔ ∃ taken, s.rest = taken ++ t.rest ∧
    (∀ c ∈ taken, accepts c = true) ∧ t.offset = s.offset + taken.length ∧
    t.before = taken.getLast?.or s.before ∧ t.groups = s.groups := by
  obtain ⟨offset, before, rest, groups⟩ := s
  simp only [reached]
  induction rest generalizing offset before with
  | nil =>
    simp only [along, List.mem_singleton, List.nil_eq_append_iff]
    constructor
    · rintro rfl
      exact ⟨[], ⟨rfl, rfl⟩, by simp⟩
    · rintro ⟨taken, ⟨rfl, none⟩, _, place, front, same⟩
      cases t
      simp_all
  | cons c rest ih =>
    rw [along, List.mem_cons]
    constructor
    · rintro (rfl | further)
      · exact ⟨[], rfl, by simp⟩
      · by_cases fits : accepts c = true
        · rw [if_pos fits] at further
          obtain ⟨taken, cut, all, place, front, same⟩ := (ih _ _).mp further
          refine ⟨c :: taken, by rw [cut]; rfl, ?_, ?_, ?_, same⟩
          · simpa [fits] using all
          · rw [place, List.length_cons]
            omega
          · rw [front, List.getLast?_cons]
            cases taken.getLast? <;> rfl
        · rw [if_neg fits] at further
          cases further
    · rintro ⟨taken, cut, all, place, front, same⟩
      cases taken with
      | nil =>
        left
        cases t
        simp_all
      | cons d taken =>
        right
        obtain ⟨rfl, behind⟩ := List.cons.inj cut
        rw [if_pos (all c List.mem_cons_self)]
        refine (ih _ _).mpr ⟨taken, behind, fun x hx => all x (List.mem_cons_of_mem _ hx), ?_, ?_, same⟩
        · rw [place, List.length_cons]
          omega
        · rw [front, List.getLast?_cons]
          cases taken.getLast? <;> rfl

theorem reaches_of_mem_reached (h : t ∈ s.reached accepts) : s.Reaches t := by
  obtain ⟨taken, cut, _, offset, _⟩ := mem_reached_iff.mp h
  exact ⟨taken, cut, offset⟩

end Cursor

namespace Pattern

variable {p : Pattern} {s t : Cursor} {m : Match} {accepts : Char → Bool}

theorem mem_ends_run {least : Nat} {most : Option Nat} (h : t ∈ (run accepts least most).ends s) :
    t ∈ s.reached accepts := by
  simp only [ends, List.mem_reverse] at h
  have allowed := List.mem_of_mem_drop h
  cases most with
  | none => exact allowed
  | some n => exact List.mem_of_mem_take allowed

/-- Every match takes characters that stand there. -/
theorem reaches_of_mem_ends (h : t ∈ p.ends s) : s.Reaches t := by
  induction p generalizing s t with
  | empty => rw [List.mem_singleton.mp h]; exact .refl s
  | textStart | lineStart | lineEnd =>
    simp only [ends] at h
    split at h
    · rw [List.mem_singleton.mp h]; exact .refl s
    · cases h
  | char accepts => exact Cursor.reaches_of_step (Option.mem_toList.mp h)
  | run accepts least most => exact Cursor.reaches_of_mem_reached (mem_ends_run h)
  | lazyRun accepts => exact Cursor.reaches_of_mem_reached h
  | seq first second ih ih' =>
    obtain ⟨u, between, last⟩ := List.mem_flatMap.mp h
    exact (ih between).trans (ih' last)
  | either first second ih ih' => exact (List.mem_append.mp h).elim ih ih'
  | group index inner ih =>
    obtain ⟨u, last, rfl⟩ := List.mem_map.mp h
    exact (ih last : s.Reaches u)

/-- Whether the pattern accepts no line break, and asks for nothing beyond the line. -/
def inLine : Pattern → Bool
  | empty | lineStart | lineEnd => true
  | textStart => false
  | char accepts | run accepts _ _ | lazyRun accepts => !accepts '\n'
  | seq first second | either first second => first.inLine && second.inLine
  | group _ inner => inner.inLine

end Pattern

/-- The same further down in a text. -/
def Group.behind (g : Group) (offset : Nat) : Group := { g with start := offset + g.start }

def Match.behind (m : Match) (offset : Nat) : Match :=
  ⟨offset + m.start, offset + m.stop, m.groups.map (·.behind offset)⟩

/-- A place in a line, as a place in the text that has more lines in front and behind. -/
def Cursor.within (front back : List Char) (s : Cursor) : Cursor :=
  ⟨front.length + s.offset, s.before.or front.getLast?, s.rest ++ back,
    s.groups.map (·.behind front.length)⟩

/-- What stands in front of a line is empty or ends with a line break. -/
def EndsLine (front : List Char) : Prop := front.getLast?.all (· == '\n') = true

/-- What stands behind a line is empty or starts with a line break. -/
def StartsLine (back : List Char) : Prop := back.head?.all (· == '\n') = true

section Within

variable {front back : List Char} (above : EndsLine front) (below : StartsLine back)
include above below

variable {p : Pattern} {accepts : Char → Bool}

omit above in
theorem Cursor.step?_within (rejects : accepts '\n' = false) (s : Cursor) :
    (s.within front back).step? accepts = (s.step? accepts).map (·.within front back) := by
  obtain ⟨offset, before, rest, groups⟩ := s
  cases rest with
  | nil =>
    cases back with
    | nil => rfl
    | cons c more =>
      have break_ : c = '\n' := by simpa [StartsLine] using below
      simp [step?, within, break_, rejects]
  | cons c more =>
    by_cases fits : accepts c = true
    · simp [step?, within, fits, Nat.add_assoc]
    · simp [step?, within, fits]

omit above in
theorem Cursor.reached_within (rejects : accepts '\n' = false) (s : Cursor) :
    (s.within front back).reached accepts = (s.reached accepts).map (·.within front back) := by
  obtain ⟨offset, before, rest, groups⟩ := s
  simp only [reached, within]
  induction rest generalizing offset before with
  | nil =>
    cases back with
    | nil => rfl
    | cons c more =>
      have break_ : c = '\n' := by simpa [StartsLine] using below
      simp [along, break_, rejects]
  | cons c more ih =>
    have next := ih (offset + 1) (some c)
    rw [Option.some_or, ← Nat.add_assoc] at next
    rw [List.cons_append, along, along, List.map_cons, next]
    congr 1
    split <;> rfl

/-- In a text, a pattern of lines can end where it can end in the line. -/
theorem Pattern.ends_within (lines : p.inLine = true) (s : Cursor) :
    p.ends (s.within front back) = (p.ends s).map (·.within front back) := by
  induction p generalizing s with
  | empty => rfl
  | textStart => cases lines
  | lineStart =>
    have same : (s.within front back).atLineStart = s.atLineStart := by
      cases shape : s.before with
      | none => simpa [Cursor.atLineStart, Cursor.within, shape, EndsLine] using above
      | some c => simp [Cursor.atLineStart, Cursor.within, shape]
    rw [ends, ends, same]
    split <;> rfl
  | lineEnd =>
    have same : (s.within front back).atLineEnd = s.atLineEnd := by
      cases shape : s.rest with
      | nil => simpa [Cursor.atLineEnd, Cursor.within, shape, StartsLine] using below
      | cons c more => simp [Cursor.atLineEnd, Cursor.within, shape]
    rw [ends, ends, same]
    split <;> rfl
  | char accepts =>
    rw [ends, ends, Cursor.step?_within below (by simpa [inLine] using lines), Option.toList_map]
  | run accepts least most =>
    simp only [ends]
    rw [Cursor.reached_within below (by simpa [inLine] using lines)]
    cases most with
    | none => rw [List.map_reverse, List.map_drop]
    | some n => rw [List.map_reverse, List.map_drop, List.map_take]
  | lazyRun accepts => exact Cursor.reached_within below (by simpa [inLine] using lines) s
  | seq first second ih ih' =>
    simp only [inLine, Bool.and_eq_true] at lines
    rw [ends, ends, ih lines.1, List.flatMap_map, List.map_flatMap]
    exact List.flatMap_congr fun t _ => ih' lines.2 t
  | either first second ih ih' =>
    simp only [inLine, Bool.and_eq_true] at lines
    rw [ends, ends, ih lines.1, ih' lines.2, List.map_append]
  | group index inner ih =>
    rw [ends, ends, ih lines, List.map_map, List.map_map]
    apply List.map_congr_left
    intro t ended
    have inside := (reaches_of_mem_ends ended).offset_le
    have taken : (s.rest ++ back).take (front.length + t.offset - (front.length + s.offset)) =
        s.rest.take (t.offset - s.offset) := by
      rw [Nat.add_sub_add_left, List.take_append_of_le_length inside]
    simp [Cursor.close, Cursor.within, Group.behind, taken]

end Within

namespace Match

@[simp] theorem behind_zero (m : Match) : m.behind 0 = m := by
  simp [behind, Group.behind]

theorem group?_behind (m : Match) (offset index : Nat) :
    (m.behind offset).group? index = (m.group? index).map (·.behind offset) :=
  List.find?_map ..

end Match

/-- A match inside a text, with all its groups. -/
structure Match.Inside (m : Match) (length : Nat) : Prop where
  start_le : m.start ≤ length
  stop_le : m.stop ≤ length
  group_start_le : ∀ g ∈ m.groups, g.start ≤ length

namespace Pattern

variable {p : Pattern} {s t : Cursor} {m : Match} {front back text : List Char}
  {taken offset : Nat} {before : Option Char} {rest : List Char}

/-- Groups start in front of what is left of the text. -/
theorem group_start_le (h : t ∈ p.ends s) {g : Group} (closed : g ∈ t.groups) :
    g ∈ s.groups ∨ g.start ≤ s.offset + s.rest.length := by
  induction p generalizing s t with
  | empty => rw [List.mem_singleton.mp h] at closed; exact .inl closed
  | textStart | lineStart | lineEnd =>
    simp only [ends] at h
    split at h
    · rw [List.mem_singleton.mp h] at closed; exact .inl closed
    · cases h
  | char accepts =>
    obtain ⟨_, _, _, _, rfl⟩ := Cursor.step?_eq_some_iff.mp (Option.mem_toList.mp h)
    exact .inl closed
  | run accepts least most =>
    obtain ⟨_, _, _, _, _, same⟩ := Cursor.mem_reached_iff.mp (mem_ends_run h)
    exact .inl (same ▸ closed)
  | lazyRun accepts =>
    obtain ⟨_, _, _, _, _, same⟩ := Cursor.mem_reached_iff.mp h
    exact .inl (same ▸ closed)
  | seq first second ih ih' =>
    obtain ⟨u, between, last⟩ := List.mem_flatMap.mp h
    obtain ⟨taken, cut, offset⟩ := reaches_of_mem_ends between
    rcases ih' last closed with earlier | start
    · exact ih between earlier
    · right
      rw [cut, List.length_append]
      omega
  | either first second ih ih' =>
    exact (List.mem_append.mp h).elim (ih · closed) (ih' · closed)
  | group index inner ih =>
    obtain ⟨u, last, rfl⟩ := List.mem_map.mp h
    rcases List.mem_cons.mp closed with rfl | earlier
    · exact .inr (Nat.le_add_right ..)
    · exact ih last earlier

theorem inside_of_matchAt (h : p.matchAt? offset before rest = some m) :
    m.start = offset ∧ m.Inside (offset + rest.length) := by
  obtain ⟨t, first, rfl⟩ := Option.map_eq_some_iff.mp h
  have ended := List.mem_of_head? first
  refine ⟨rfl, Nat.le_add_right .., ?_, ?_⟩
  · have reach := (reaches_of_mem_ends ended).offset_le
    simp only at reach ⊢
    omega
  · intro g closed
    exact (group_start_le ended closed).resolve_left (List.not_mem_nil)

theorem inside_of_mem_scan (h : m ∈ p.scan taken offset before rest) :
    m.Inside (offset + rest.length) := by
  induction rest generalizing taken offset before with
  | nil =>
    cases taken with
    | zero => exact (inside_of_matchAt (Option.mem_toList.mp h)).2
    | succ taken => cases h
  | cons c rest ih =>
    rw [List.length_cons, Nat.add_comm rest.length, ← Nat.add_assoc]
    cases taken with
    | succ taken => exact ih h
    | zero =>
      rw [scan] at h
      split at h
      · next found =>
        rcases List.mem_cons.mp h with rfl | later
        · rw [Nat.add_assoc, Nat.add_comm 1]
          exact (inside_of_matchAt found).2
        · exact ih later
      · exact ih h

theorem inside_of_mem_findAll (h : m ∈ p.findAll text) : m.Inside text.length := by
  simpa using inside_of_mem_scan h

theorem matchAt?_within (lines : p.inLine = true) (above : EndsLine front) (below : StartsLine back)
    (offset : Nat) (before : Option Char) (rest : List Char) :
    p.matchAt? (front.length + offset) (before.or front.getLast?) (rest ++ back) =
      (p.matchAt? offset before rest).map (·.behind front.length) := by
  have ends := ends_within above below lines ⟨offset, before, rest, []⟩
  simp only [Cursor.within, List.map_nil] at ends
  rw [matchAt?, matchAt?, ends, List.head?_map, Option.map_map, Option.map_map]
  rfl

/-- A search comes to the line break with nothing taken, whatever stands behind it. -/
theorem scan_append (lines : p.inLine = true) (after : List Char) (inside : taken ≤ rest.length) :
    p.scan taken offset before (rest ++ '\n' :: after) =
      p.scan taken offset before rest ++ p.scan 0 (offset + rest.length + 1) (some '\n') after := by
  have here : ∀ offset before rest, p.matchAt? offset before (rest ++ '\n' :: after) =
      p.matchAt? offset before rest := by
    intro offset before rest
    have start : EndsLine [] := rfl
    have stop : StartsLine ('\n' :: after) := rfl
    simpa using matchAt?_within lines start stop offset before rest
  induction rest generalizing taken offset before with
  | nil =>
    obtain rfl := Nat.le_zero.mp inside
    have first := here offset before []
    rw [List.nil_append] at first ⊢
    rw [scan, scan, first]
    cases found : p.matchAt? offset before [] with
    | none => rfl
    | some m =>
      have stop := (inside_of_matchAt found).2.stop_le
      rw [List.length_nil, Nat.add_zero] at stop
      simp only [Option.toList_some, List.singleton_append]
      rw [Nat.sub_eq_zero_of_le stop]
      rfl
  | cons c rest ih =>
    have shift : offset + (c :: rest).length + 1 = offset + 1 + rest.length + 1 := by
      rw [List.length_cons]
      omega
    rw [shift]
    cases taken with
    | succ taken => exact ih (Nat.le_of_succ_le_succ inside)
    | zero =>
      have first := here offset before (c :: rest)
      rw [List.cons_append] at first ⊢
      rw [scan, scan, first]
      cases found : p.matchAt? offset before (c :: rest) with
      | none => exact ih (Nat.zero_le _)
      | some m =>
        have stop := (inside_of_matchAt found).2.stop_le
        rw [List.length_cons] at stop
        simp only [List.cons_append]
        rw [ih (by omega)]

/-- A search behind a line break is the search of the text that starts there. -/
theorem scan_behind (lines : p.inLine = true) (above : EndsLine front) (taken offset : Nat)
    (before : Option Char) (rest : List Char) :
    p.scan taken (front.length + offset) (before.or front.getLast?) rest =
      (p.scan taken offset before rest).map (·.behind front.length) := by
  have here : ∀ offset before rest,
      p.matchAt? (front.length + offset) (before.or front.getLast?) rest =
        (p.matchAt? offset before rest).map (·.behind front.length) := by
    intro offset before rest
    have stop : StartsLine [] := rfl
    have same := matchAt?_within lines above stop offset before rest
    rwa [List.append_nil] at same
  induction rest generalizing taken offset before with
  | nil =>
    cases taken with
    | zero => rw [scan, scan, here, Option.toList_map]
    | succ taken => rfl
  | cons c rest ih =>
    have next : ∀ taken, p.scan taken (front.length + offset + 1) (some c) rest =
        (p.scan taken (offset + 1) (some c) rest).map (·.behind front.length) :=
      fun taken => ih taken (offset + 1) (some c)
    cases taken with
    | succ taken => exact next taken
    | zero =>
      rw [scan, scan, here]
      cases p.matchAt? offset before (c :: rest) with
      | none => exact next 0
      | some m =>
        have same : front.length + m.stop - (front.length + offset) - 1 = m.stop - offset - 1 := by
          rw [Nat.add_sub_add_left]
        simp only [Option.map_some, List.map_cons, Match.behind, same, next]

/-- What is found in a text of two parts is found in the parts. -/
theorem findAll_append (lines : p.inLine = true) (above below : List Char) :
    p.findAll (above ++ '\n' :: below) =
      p.findAll above ++ (p.findAll below).map (·.behind (above.length + 1)) := by
  have ends : EndsLine (above ++ ['\n']) := by simp [EndsLine]
  have second := scan_behind lines ends 0 0 none below
  simp only [List.length_append, List.length_singleton, Nat.add_zero, Option.none_or,
    List.getLast?_concat] at second
  rw [findAll, scan_append lines below (Nat.zero_le _), Nat.zero_add, second]
  rfl

end Pattern

variable {above below text : List Char} {offset : Nat}

theorem lineOf_append (inside : offset ≤ above.length) :
    lineOf (above ++ '\n' :: below) offset = lineOf above offset := by
  rw [lineOf, lineOf, List.take_append_of_le_length inside]

theorem lineOf_behind : lineOf (above ++ '\n' :: below) (above.length + 1 + offset) =
    lineOf below offset + UInt32.ofNat (above.count '\n' + 1) := by
  have cut : (above ++ '\n' :: below).take (above.length + 1 + offset) =
      above ++ '\n' :: below.take offset := by
    rw [Nat.add_assoc, List.take_length_add_append, Nat.add_comm 1, List.take_succ_cons]
  rw [lineOf, cut, List.count_append, List.count_cons_self, Nat.add_comm _ 1, ← Nat.add_assoc,
    lineNumber_add]
  rfl

/-- A text without breaks is a single line. -/
theorem lineOf_of_not_mem (single : '\n' ∉ text) : lineOf text offset = lineNumber 0 := by
  rw [lineOf, List.count_eq_zero_of_not_mem fun inside => single (List.mem_of_mem_take inside)]

/-- What divides at line breaks is known from the lines. -/
theorem eq_flatMap_split {α : Type} {f : List Char → List α}
    (divides : ∀ above below, f (above ++ '\n' :: below) = f above ++ f below) (text : List Char) :
    f text = (split '\n' text).flatMap f := by
  by_cases single : '\n' ∈ text
  · obtain ⟨above, below, cut⟩ := List.mem_iff_append.mp single
    rw [cut, divides, split_append, List.flatMap_append, eq_flatMap_split divides above,
      eq_flatMap_split divides below]
  · rw [split_of_not_mem single, List.flatMap_singleton]
termination_by text.length
decreasing_by
  all_goals rw [cut, List.length_append, List.length_cons]; omega

end SourceAtlas.Text
