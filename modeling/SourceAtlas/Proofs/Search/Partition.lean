import SourceAtlas.Proofs.Search.Terms

/-! The terms of a text divide its letters and numbers. They are the pieces of its maximal runs, in order
and in lower case; where a run is cut is said of the characters beside the cut alone. Both divisions are
settled by what is asked of them, so a text has no other. -/
namespace SourceAtlas.Term

open Text

variable {p : Char → Bool} {c : Char} {cs gap run rest : List Char}

section Runs

variable {found others : List (List Char)}

/-- The maximal runs of characters in the class, in order. What stands before and behind a run is the end
of the text or a character that is not in the class. -/
inductive MaximalRuns (p : Char → Bool) : List Char → List (List Char) → Prop where
  | none {gap : List Char} : (∀ c ∈ gap, p c = false) → MaximalRuns p gap []
  | run {gap run rest : List Char} {others : List (List Char)} : (∀ c ∈ gap, p c = false) → run ≠ [] →
      (∀ c ∈ run, p c = true) → (∀ c ∈ rest.head?, p c = false) → MaximalRuns p rest others →
      MaximalRuns p (gap ++ run ++ rest) (run :: others)

theorem MaximalRuns.behind_gap (clear : ∀ c ∈ gap, p c = false) (divided : MaximalRuns p cs found) :
    MaximalRuns p (gap ++ cs) found := by
  cases divided with
  | none none => exact .none fun c hc => (List.mem_append.mp hc).elim (clear c) (none c)
  | @run more run rest others none some all stop later =>
    rw [← List.append_assoc, ← List.append_assoc]
    exact .run (fun c hc => (List.mem_append.mp hc).elim (clear c) (none c)) some all stop later

theorem runs_maximal (p : Char → Bool) (cs : List Char) : MaximalRuns p cs (runs p cs) := by
  induction cs using runs.induct p with
  | case1 =>
    rw [runs]
    exact .none fun _ h => absurd h List.not_mem_nil
  | case2 first rest inside ih =>
    have all : ∀ c ∈ first :: rest.takeWhile p, p c = true :=
      List.forall_mem_cons.mpr ⟨inside, fun c hc => List.mem_takeWhile_imp hc⟩
    have stop : ∀ c ∈ (rest.dropWhile p).head?, p c = false := by
      intro c hc
      have other := List.head?_dropWhile_not p rest
      rw [Option.mem_def.mp hc] at other
      exact other
    have divided := MaximalRuns.run (fun _ h => absurd h List.not_mem_nil) (List.cons_ne_nil _ _) all stop ih
    rw [List.nil_append, List.cons_append, List.takeWhile_append_dropWhile] at divided
    rw [runs, if_pos inside]
    exact divided
  | case3 first rest outside ih =>
    rw [runs, if_neg outside]
    exact ih.behind_gap (List.forall_mem_singleton.mpr (Bool.eq_false_iff.mpr outside))

theorem runs_behind_gap (clear : ∀ c ∈ gap, p c = false) : runs p (gap ++ cs) = runs p cs := by
  induction gap with
  | nil => rfl
  | cons c gap ih =>
    obtain ⟨first, later⟩ := List.forall_mem_cons.mp clear
    rw [List.cons_append, runs, if_neg (by simp [first]), ih later]

theorem runs_run (some : run ≠ []) (all : ∀ c ∈ run, p c = true) (stop : ∀ c ∈ rest.head?, p c = false) :
    runs p (run ++ rest) = run :: runs p rest := by
  obtain ⟨first, more, rfl⟩ := List.exists_cons_of_ne_nil some
  obtain ⟨inside, others⟩ := List.forall_mem_cons.mp all
  have ends : rest.takeWhile p = [] ∧ rest.dropWhile p = rest := by
    cases rest with
    | nil => exact ⟨rfl, rfl⟩
    | cons c rest => simp [stop c rfl]
  rw [List.cons_append, runs, if_pos inside, List.takeWhile_append_of_pos others,
    List.dropWhile_append_of_pos others, ends.1, ends.2, List.append_nil]

theorem MaximalRuns.runs_eq (divided : MaximalRuns p cs found) : runs p cs = found := by
  induction divided with
  | @none gap clear =>
    rw [← List.append_nil gap, runs_behind_gap clear, runs]
  | run clear some all stop _ ih =>
    rw [List.append_assoc, runs_behind_gap clear, runs_run some all stop, ih]

theorem MaximalRuns.flatten_eq (divided : MaximalRuns p cs found) : found.flatten = cs.filter p := by
  have none : ∀ {gap : List Char}, (∀ c ∈ gap, p c = false) → gap.filter p = [] := by
    intro gap clear
    exact List.filter_eq_nil_iff.mpr fun c hc => by simp [clear c hc]
  induction divided with
  | none clear => exact (none clear).symm
  | run clear _ all _ _ ih =>
    rw [List.filter_append, List.filter_append, none clear, List.filter_eq_self.mpr all, List.nil_append,
      List.flatten_cons, ih]

theorem MaximalRuns.append (before : MaximalRuns p cs found) (between : p c = false)
    (behind : MaximalRuns p rest others) : MaximalRuns p (cs ++ c :: rest) (found ++ others) := by
  have later : MaximalRuns p (c :: rest) others :=
    behind.behind_gap (List.forall_mem_singleton.mpr between)
  induction before with
  | none clear => exact later.behind_gap clear
  | @run gap run more runs clear some all stop _ ih =>
    have next : ∀ d ∈ (more ++ c :: rest).head?, p d = false := by
      cases more with
      | nil =>
        rintro d ⟨⟩
        exact between
      | cons first more => exact stop
    rw [List.append_assoc]
    exact .run clear some all next ih

end Runs

section Cuts

variable {piece first : List Char} {pieces others more : List (List Char)} {i : Nat}

/-- Whether a capital starts a word at the position: it follows a small letter or a digit, or it follows a
capital and a small letter follows it. -/
def WordStartsAt (run : List Char) (i : Nat) : Prop :=
  ∃ prev cur, 0 < i ∧ run[i - 1]? = some prev ∧ run[i]? = some cur ∧
    ((isLowercase prev = true ∨ '0' ≤ prev ∧ prev ≤ '9') ∧ isUppercase cur = true ∨
      isUppercase prev = true ∧ isUppercase cur = true ∧
        ∃ next, run[i + 1]? = some next ∧ isLowercase next = true)

/-- Some of the pieces make up the text in front of the position. -/
def CutAt (pieces : List (List Char)) (i : Nat) : Prop :=
  ∃ before behind, pieces = before ++ behind ∧ before.flatten.length = i

/-- The pieces make up the run and none is empty; inside the run it is cut exactly where words start. -/
structure CutIntoWords (run : List Char) (pieces : List (List Char)) : Prop where
  whole : pieces.flatten = run
  full : ∀ piece ∈ pieces, piece ≠ []
  cut_iff : ∀ i, 0 < i → i < run.length → (CutAt pieces i ↔ WordStartsAt run i)

theorem cutAt_zero (pieces : List (List Char)) : CutAt pieces 0 := ⟨[], pieces, rfl, rfl⟩

theorem cutAt_cons : CutAt (piece :: more) i ↔ i = 0 ∨ ∃ j, CutAt more j ∧ i = piece.length + j := by
  constructor
  · rintro ⟨before, behind, same, rfl⟩
    cases before with
    | nil => exact .inl rfl
    | cons head before =>
      obtain ⟨rfl, rfl⟩ := List.cons.inj same
      exact .inr ⟨_, ⟨before, behind, rfl, rfl⟩, by rw [List.flatten_cons, List.length_append]⟩
  · rintro (rfl | ⟨j, ⟨before, behind, rfl, rfl⟩, rfl⟩)
    · exact cutAt_zero _
    · exact ⟨piece :: before, behind, rfl, by rw [List.flatten_cons, List.length_append]⟩

theorem cutAt_cons_shift (piece : List Char) (more : List (List Char)) (full : piece ≠ []) :
    CutAt (piece :: more) (piece.length + i) ↔ CutAt more i := by
  have size := List.length_pos_iff.mpr full
  rw [cutAt_cons]
  constructor
  · rintro (none | ⟨j, cut, same⟩)
    · omega
    · rwa [Nat.add_left_cancel same]
  · exact fun cut => .inr ⟨i, cut, rfl⟩

theorem not_cutAt_within (above : 0 < i) (below : i < piece.length) : ¬ CutAt (piece :: more) i := by
  rw [cutAt_cons]
  rintro (none | ⟨j, _, same⟩) <;> omega

theorem cutAt_grow (c : Char) (full : first ≠ []) (above : 0 < i) :
    CutAt ((c :: first) :: more) (i + 1) ↔ CutAt (first :: more) i := by
  have size := List.length_pos_iff.mpr full
  simp only [cutAt_cons, List.length_cons]
  constructor
  · rintro (none | ⟨j, cut, same⟩)
    · omega
    · exact .inr ⟨j, cut, by omega⟩
  · rintro (none | ⟨j, cut, same⟩)
    · omega
    · exact .inr ⟨j, cut, by omega⟩

theorem wordStartsAt_one (prev cur : Char) (rest : List Char) :
    WordStartsAt (prev :: cur :: rest) 1 ↔ cutBefore prev cur rest.head? = true := by
  have next : (∃ next, rest[0]? = some next ∧ isLowercase next = true) ↔
      rest.head?.any isLowercase = true := by
    rw [List.head?_eq_getElem?, Option.any_eq_true]
  simp [WordStartsAt, cutBefore, next, and_assoc]

theorem wordStartsAt_cons (c : Char) (cs : List Char) (above : 0 < i) :
    WordStartsAt (c :: cs) (i + 1) ↔ WordStartsAt cs i := by
  obtain ⟨j, rfl⟩ := Nat.exists_eq_succ_of_ne_zero (Nat.ne_of_gt above)
  simp [WordStartsAt]

/-- On the run: its first character stays with the first piece of the rest, or is a piece of its own. -/
theorem pieces_cutIntoWords (run : List Char) : CutIntoWords run (Term.pieces run) := by
  refine ⟨(pieces_spec run).1, (pieces_spec run).2, ?_⟩
  induction run using pieces.induct with
  | case1 =>
    intro i _ below
    exact absurd below (Nat.not_lt_zero i)
  | case2 c =>
    intro i above below
    exact absurd above (Nat.not_lt.mpr (Nat.le_of_lt_succ below))
  | case3 prev cur rest none ih =>
    have whole := (pieces_spec (cur :: rest)).1
    rw [none] at whole
    cases whole
  | case4 prev cur rest first more shape cut ih =>
    intro i above below
    obtain ⟨i, rfl⟩ := Nat.exists_eq_succ_of_ne_zero (Nat.ne_of_gt above)
    rw [Term.pieces, shape]
    simp only [if_pos cut]
    have shift : CutAt ([prev] :: first :: more) ([prev].length + i) ↔ CutAt (first :: more) i :=
      cutAt_cons_shift [prev] (first :: more) (List.cons_ne_nil _ _)
    rw [List.length_singleton, Nat.add_comm] at shift
    rw [Nat.succ_eq_add_one, shift]
    rcases Nat.eq_zero_or_pos i with rfl | inner
    · exact iff_of_true (cutAt_zero _) ((wordStartsAt_one prev cur rest).mpr cut)
    · rw [wordStartsAt_cons _ _ inner, ← shape]
      exact ih i inner (Nat.lt_of_succ_lt_succ below)
  | case5 prev cur rest first more shape uncut ih =>
    intro i above below
    obtain ⟨i, rfl⟩ := Nat.exists_eq_succ_of_ne_zero (Nat.ne_of_gt above)
    have full : first ≠ [] := (pieces_spec (cur :: rest)).2 first (shape ▸ List.mem_cons_self)
    rw [Term.pieces, shape]
    simp only [if_neg uncut]
    rcases Nat.eq_zero_or_pos i with rfl | inner
    · refine iff_of_false (not_cutAt_within Nat.one_pos ?_) fun starts =>
        uncut ((wordStartsAt_one prev cur rest).mp starts)
      exact Nat.succ_lt_succ (List.length_pos_iff.mpr full)
    · rw [Nat.succ_eq_add_one, cutAt_grow prev full inner, wordStartsAt_cons _ _ inner, ← shape]
      exact ih i inner (Nat.lt_of_succ_lt_succ below)

theorem length_le_of_cutAt (full : first ≠ []) (cut : CutAt (piece :: more) first.length) :
    piece.length ≤ first.length := by
  by_contra less
  exact not_cutAt_within (List.length_pos_iff.mpr full) (Nat.lt_of_not_le less) cut

/-- Pieces that make up the same text and are divided at the same positions are the same. -/
theorem eq_of_cuts (whole : pieces.flatten = others.flatten) (full : ∀ piece ∈ pieces, piece ≠ [])
    (full' : ∀ piece ∈ others, piece ≠ [])
    (cuts : ∀ i, 0 < i → i < pieces.flatten.length → (CutAt pieces i ↔ CutAt others i)) :
    pieces = others := by
  have none : ∀ {pieces : List (List Char)}, [] = pieces.flatten → (∀ piece ∈ pieces, piece ≠ []) →
      pieces = [] := by
    intro pieces whole full
    exact List.eq_nil_iff_forall_not_mem.mpr fun piece h =>
      full piece h (List.flatten_eq_nil_iff.mp whole.symm piece h)
  induction pieces generalizing others with
  | nil => exact (none whole full').symm
  | cons piece more ih =>
    cases others with
    | nil => exact none whole.symm full
    | cons other rest =>
      obtain ⟨here, later⟩ := List.forall_mem_cons.mp full
      obtain ⟨here', later'⟩ := List.forall_mem_cons.mp full'
      have ends : ∀ first more, CutAt (first :: more) first.length := fun first more =>
        cutAt_cons.mpr (.inr ⟨0, cutAt_zero more, rfl⟩)
      have total : (piece :: more).flatten.length = piece.length + more.flatten.length := by
        rw [List.flatten_cons, List.length_append]
      have total' : (piece :: more).flatten.length = other.length + rest.flatten.length := by
        rw [whole, List.flatten_cons, List.length_append]
      have size : piece.length = other.length := by
        have pos := List.length_pos_iff.mpr here
        have pos' := List.length_pos_iff.mpr here'
        rcases Nat.lt_trichotomy piece.length other.length with less | same | greater
        · have cut := (cuts piece.length pos (by omega)).mp (ends piece more)
          exact absurd (length_le_of_cutAt here cut) (Nat.not_le.mpr less)
        · exact same
        · have cut := (cuts other.length pos' (by omega)).mpr (ends other rest)
          exact absurd (length_le_of_cutAt here' cut) (Nat.not_le.mpr greater)
      rw [List.flatten_cons, List.flatten_cons] at whole
      obtain ⟨rfl, behind⟩ := List.append_inj whole size
      refine congrArg (piece :: ·) (ih behind later later' fun i above below => ?_)
      have shifted := cuts (piece.length + i) (by omega) (by omega)
      rwa [cutAt_cons_shift piece more here, cutAt_cons_shift piece rest here] at shifted

theorem CutIntoWords.pieces_eq (words : CutIntoWords run pieces) : Term.pieces run = pieces := by
  have own := pieces_cutIntoWords run
  refine eq_of_cuts (own.whole.trans words.whole.symm) own.full words.full fun i above below => ?_
  rw [own.whole] at below
  rw [own.cut_iff i above below, words.cut_iff i above below]

end Cuts

/-- A division of the letters and numbers of a text: its maximal runs, each of them cut into words. -/
structure Divides (text : String) (parts : List (List (List Char))) : Prop where
  runs : MaximalRuns isAlphanumeric text.toList (parts.map List.flatten)
  words : ∀ pieces ∈ parts, CutIntoWords pieces.flatten pieces

theorem divides_iff {text : String} {parts : List (List (List Char))} :
    Divides text parts ↔ (runs isAlphanumeric text.toList).map pieces = parts := by
  constructor
  · intro divided
    have own : ∀ part ∈ parts, pieces part.flatten = part := fun part h => (divided.words part h).pieces_eq
    rw [divided.runs.runs_eq, List.map_map]
    exact (List.map_congr_left own).trans (List.map_id parts)
  · rintro rfl
    refine ⟨?_, ?_⟩
    · have whole : ∀ run, (pieces run).flatten = run := fun run => (pieces_spec run).1
      simpa [Function.comp_def, whole] using runs_maximal isAlphanumeric text.toList
    · intro part h
      obtain ⟨run, _, rfl⟩ := List.mem_map.mp h
      rw [(pieces_spec run).1]
      exact pieces_cutIntoWords run

theorem tokenize_between (text behind : String) {c : Char} (between : isAlphanumeric c = false) :
    tokenize (text ++ String.singleton c ++ behind) = tokenize text ++ tokenize behind := by
  have divided := (runs_maximal isAlphanumeric text.toList).append between
    (runs_maximal isAlphanumeric behind.toList)
  have chars : (text ++ String.singleton c ++ behind).toList = text.toList ++ c :: behind.toList := by
    simp
  rw [tokenize, ofChars, chars, divided.runs_eq, List.flatMap_append]
  rfl

/-- A text has one division of its letters and numbers into words, and its terms are these words in lower
case. At any other character the text can be divided: its terms are those before it and those behind it. -/
theorem terms_divide_text (text : String) :
    (∃ parts, Divides text parts ∧ (∀ other, Divides text other → other = parts) ∧
      tokenize text = parts.flatten.map (fun piece => String.ofList (lowercase piece)) ∧
      parts.flatten.flatten = text.toList.filter isAlphanumeric) ∧
    ∀ (behind : String) (c : Char), isAlphanumeric c = false →
      tokenize (text ++ String.singleton c ++ behind) = tokenize text ++ tokenize behind := by
  refine ⟨⟨_, divides_iff.mpr rfl, fun other divided => (divides_iff.mp divided).symm, ?_, ?_⟩,
    fun behind c between => tokenize_between text behind between⟩
  · rw [tokenize, ofChars, List.flatMap_def, List.map_flatten, List.map_map]
    rfl
  · have divided : Divides text ((runs isAlphanumeric text.toList).map pieces) := divides_iff.mpr rfl
    rw [List.flatten_flatten]
    exact divided.runs.flatten_eq

theorem response_terms_divide_text :
    isAlphanumeric '_' = false ∧
    tokenize ("parseHTTPResponse" ++ String.singleton '_' ++ "v2Api") =
      tokenize "parseHTTPResponse" ++ tokenize "v2Api" ∧
    tokenize "parseHTTPResponse" = ["parse", "http", "response"] ∧ tokenize "v2Api" = ["v2", "api"] :=
  ⟨by decide +kernel, (terms_divide_text "parseHTTPResponse").2 "v2Api" '_' (by decide +kernel),
    by decide +kernel, by decide +kernel⟩

end SourceAtlas.Term
