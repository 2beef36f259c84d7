import Mathlib.Data.List.TakeWhile
import SourceAtlas.Proofs.Text.Word
import SourceAtlas.UseTree

/-! How the text of a `use` tree is taken apart. A shape is a text by its braces and commas: the flat texts
between them, and the groups. As long as the flat texts hold no brace and no comma of their own, dropping
aliases and white space works on each of them alone, and the leaves of the text are those of its shape.
What is said of texts without a shape is that the expansion ends: it goes no deeper than there are opening
braces. -/
namespace SourceAtlas.UseTree

/-- Dropping aliases stops at every mark: an alias is white space and words. -/
structure IsMark (c : Char) : Prop where
  notBlank : Text.isBlank c = false
  notWord : Text.isWord c = false

section Aliases

variable {p : Char} {before after rest : List Char}

theorem dropAliases_nil : dropAliases [] = [] := by
  rw [dropAliases]
  rfl

theorem dropAliases_of_alias (h : afterAlias? before = some rest) :
    dropAliases before = dropAliases rest := by
  rw [dropAliases]
  split
  · next found => rw [Option.some.inj (found.symm.trans h)]
  · next none => rw [none] at h; cases h

theorem dropAliases_cons {c : Char} (h : afterAlias? (c :: rest) = none) :
    dropAliases (c :: rest) = c :: dropAliases rest := by
  rw [dropAliases]
  split
  · next found => rw [found] at h; cases h
  · rfl

theorem dropWhile_append_stop {q : Char → Bool} (stop : q p = false) :
    (before ++ p :: after).dropWhile q = before.dropWhile q ++ p :: after := by
  induction before with
  | nil => simp [stop]
  | cons c before ih =>
    by_cases passed : q c = true
    · simp [passed, ih]
    · simp [passed]

theorem afterAlias_append (mark : IsMark p) : afterAlias? (before ++ p :: after) =
    (afterAlias? before).map (· ++ p :: after) := by
  have stop : ∀ cs : List Char, Text.trimStart (cs ++ p :: after) = Text.trimStart cs ++ p :: after :=
    fun cs => dropWhile_append_stop mark.notBlank
  have head : ∀ (q : Char → Bool), q p = false → ∀ cs : List Char,
      (cs ++ p :: after).head?.any q = cs.head?.any q := by
    intro q stop cs
    cases cs with
    | nil => simp [stop]
    | cons c cs => rfl
  have notLetter : ∀ c : Char, Text.isWord c = true → p ≠ c := by
    rintro _ letter rfl
    rw [mark.notWord] at letter
    cases letter
  unfold afterAlias?
  rw [head _ mark.notBlank, stop]
  split
  · -- The words of an alias are read one character after the other, and none of them is the mark.
    rcases Text.trimStart before with _ | ⟨a, _ | ⟨s, word⟩⟩
    · simp [notLetter 'a' (by decide)]
    · by_cases isA : a = 'a'
      · simp [isA, notLetter 's' (by decide)]
      · simp [isA]
    · by_cases isA : a = 'a'
      · by_cases isS : s = 's'
        · subst isA isS
          simp only [List.cons_append, stop, head _ mark.notBlank, head _ mark.notWord,
            dropWhile_append_stop mark.notWord]
          split <;> rfl
        · simp [isS]
      · simp [isA]
  · rfl

theorem dropAliases_append (mark : IsMark p) :
    dropAliases (before ++ p :: after) = dropAliases before ++ p :: dropAliases after := by
  have alone : afterAlias? (p :: after) = none := by
    simpa [afterAlias?] using @afterAlias_append p [] after mark
  fun_induction dropAliases before with
  | case1 before rest found ih =>
    have skip : afterAlias? (before ++ p :: after) = some (rest ++ p :: after) := by
      rw [afterAlias_append mark, found]
      rfl
    rw [dropAliases_of_alias skip, ih]
  | case2 => exact dropAliases_cons alone
  | case3 c before none ih =>
    have clear : afterAlias? (c :: (before ++ p :: after)) = .none := by
      have both := @afterAlias_append p (c :: before) after mark
      rw [none] at both
      exact both
    rw [List.cons_append, dropAliases_cons clear, ih, List.cons_append]

theorem compact_append (mark : IsMark p) :
    compact (before ++ p :: after) = compact before ++ p :: compact after := by
  simp [compact, dropAliases_append mark, mark.notBlank]

theorem compact_cons (mark : IsMark p) : compact (p :: after) = p :: compact after := by
  have nothing : compact [] = [] := by simp [compact, dropAliases, afterAlias?]
  simpa [nothing] using @compact_append p [] after mark

theorem afterAlias_suffix (h : afterAlias? before = some rest) : rest <:+ before := by
  unfold afterAlias? at h
  split at h
  · split at h
    · next word spelled =>
      dsimp only at h
      split at h
      · rw [← Option.some.inj h]
        have skipped : 'a' :: 's' :: word <:+ before := spelled ▸ List.dropWhile_suffix _
        exact (List.dropWhile_suffix _).trans <| (List.dropWhile_suffix _).trans <|
          ((List.suffix_cons _ _).trans (List.suffix_cons _ _)).trans skipped
      · cases h
    · cases h
  · cases h

theorem mem_of_mem_dropAliases {c : Char} (h : c ∈ dropAliases before) : c ∈ before := by
  fun_induction dropAliases before with
  | case1 before rest found ih => exact (afterAlias_suffix found).subset (ih h)
  | case2 => exact h
  | case3 d before none ih =>
    rcases List.mem_cons.mp h with here | later
    · exact here ▸ List.mem_cons_self
    · exact List.mem_cons_of_mem _ (ih later)

end Aliases

section Items

variable {depth : Nat} {cs before after inside : List Char} {parts : List (List Char)}

/-- The marks that a text is divided at. -/
def dividers : List Char := [',', Text.openBrace, Text.closeBrace]

theorem isMark_of_divider {c : Char} (h : c ∈ dividers) : IsMark c := by
  simp only [dividers, List.mem_cons, List.not_mem_nil, or_false] at h
  rcases h with rfl | rfl | rfl <;> exact ⟨by decide, by decide⟩

/-- Free of braces and commas. -/
def Clear (cs : List Char) : Prop := ∀ c ∈ cs, c ∉ dividers

instance (cs : List Char) : Decidable (Clear cs) :=
  List.decidableBAll (fun c => c ∉ dividers) cs

theorem Clear.compact (clear : Clear cs) : Clear (compact cs) := fun c hc =>
  clear c (mem_of_mem_dropAliases (List.mem_filter.mp hc).1)

theorem Clear.notOpening (clear : Clear cs) : ∀ c ∈ cs, c ≠ Text.openBrace := by
  rintro c hc rfl
  exact clear _ hc (by decide)

theorem Clear.notClosing (clear : Clear cs) : ∀ c ∈ cs, c ≠ Text.closeBrace := by
  rintro c hc rfl
  exact clear _ hc (by decide)

def glue (cs : List Char) : List (List Char) → List (List Char)
  | [] => [cs]
  | part :: more => (cs ++ part) :: more

theorem glue_append (cs ds : List Char) (parts : List (List Char)) :
    glue (cs ++ ds) parts = glue cs (glue ds parts) := by
  cases parts <;> simp [glue]

theorem splitItems_ne_nil (depth : Nat) (cs : List Char) : splitItems depth cs ≠ [] := by
  cases cs with
  | nil => simp [splitItems]
  | cons c rest =>
    unfold splitItems
    split
    · simp
    · dsimp only
      split <;> simp

theorem splitItems_cons {c : Char} (inner : Nat)
    (next : inner = if c = Text.openBrace then depth + 1 else if c = Text.closeBrace then depth - 1 else depth)
    (stays : ¬ (c = ',' ∧ depth = 0)) (rest : List Char) :
    splitItems depth (c :: rest) = glue [c] (splitItems inner rest) := by
  obtain ⟨part, more, parts⟩ := List.exists_cons_of_ne_nil (splitItems_ne_nil inner rest)
  rw [splitItems, if_neg stays, ← next]
  dsimp only
  rw [parts]
  rfl

/-- Passed as a whole at depth `depth`: no comma of it divides, and its braces close one another. -/
def PassedAt (depth : Nat) (cs : List Char) : Prop :=
  ∀ rest, splitItems depth (cs ++ rest) = glue cs (splitItems depth rest)

theorem PassedAt.append (first : PassedAt depth cs) (second : PassedAt depth after) :
    PassedAt depth (cs ++ after) := by
  intro rest
  rw [List.append_assoc, first, second, glue_append]

theorem passedAt_nil : PassedAt depth [] := by
  intro rest
  obtain ⟨part, more, parts⟩ := List.exists_cons_of_ne_nil (splitItems_ne_nil depth rest)
  rw [List.nil_append, parts]
  rfl

theorem Clear.passedAt (clear : Clear cs) (depth : Nat) : PassedAt depth cs := by
  induction cs with
  | nil => exact passedAt_nil
  | cons c cs ih =>
    intro rest
    have here : c ∉ dividers := clear c List.mem_cons_self
    simp only [dividers, List.mem_cons, List.not_mem_nil, or_false, not_or] at here
    have later := ih (fun d hd => clear d (List.mem_cons_of_mem _ hd)) rest
    rw [List.cons_append, splitItems_cons depth (by simp [here]) (by simp [here]), later, ← glue_append]
    rfl

theorem passedAt_comma (depth : Nat) : PassedAt (depth + 1) [','] := fun rest =>
  splitItems_cons (depth + 1) (by simp [Text.openBrace, Text.closeBrace]) (by simp) rest

theorem passedAt_braces (inner : PassedAt (depth + 1) inside) :
    PassedAt depth (Text.openBrace :: inside ++ [Text.closeBrace]) := by
  intro rest
  have opening := @splitItems_cons depth Text.openBrace (depth + 1) (by simp)
    (by simp [Text.openBrace]) (inside ++ Text.closeBrace :: rest)
  have closing := @splitItems_cons (depth + 1) Text.closeBrace depth
    (by simp [Text.openBrace, Text.closeBrace]) (by simp) rest
  rw [List.append_assoc, List.cons_append, List.singleton_append, opening, inner, closing,
    ← glue_append, ← glue_append]
  simp

theorem passedAt_joinWith (parts : List (List Char)) (all : ∀ part ∈ parts, PassedAt (depth + 1) part) :
    PassedAt (depth + 1) (Text.joinWith [','] parts) := by
  induction parts with
  | nil => exact passedAt_nil
  | cons part more ih =>
    have here := all part List.mem_cons_self
    cases more with
    | nil => exact here
    | cons next more =>
      have later := ih fun part hp => all part (List.mem_cons_of_mem _ hp)
      exact (here.append (passedAt_comma depth)).append later

theorem splitItems_joinWith (some : parts ≠ []) (all : ∀ part ∈ parts, PassedAt 0 part) :
    splitItems 0 (Text.joinWith [','] parts) = parts := by
  induction parts with
  | nil => exact absurd rfl some
  | cons part more ih =>
    have here := all part List.mem_cons_self
    cases more with
    | nil =>
      have alone := here []
      rw [List.append_nil] at alone
      simp [Text.joinWith, alone, splitItems, glue]
    | cons next more =>
      have later := ih (by simp) fun part hp => all part (List.mem_cons_of_mem _ hp)
      have divided : splitItems 0 ([','] ++ Text.joinWith [','] (next :: more)) =
          [] :: next :: more := by
        simp [splitItems, later]
      have joined : Text.joinWith [','] (part :: next :: more) =
          part ++ ([','] ++ Text.joinWith [','] (next :: more)) := by
        simp [Text.joinWith]
      rw [joined, here, divided, glue, List.append_nil]

theorem takeWhile_append_stop {q : Char → Bool} {p : Char} (pass : ∀ c ∈ before, q c = true)
    (stop : q p = false) : (before ++ p :: after).takeWhile q = before := by
  rw [List.takeWhile_append_of_pos pass, List.takeWhile_cons_of_neg (by simp [stop]), List.append_nil]

theorem dropWhile_append_reach {q : Char → Bool} {p : Char} (pass : ∀ c ∈ before, q c = true)
    (stop : q p = false) : (before ++ p :: after).dropWhile q = p :: after := by
  rw [List.dropWhile_append_of_pos pass, List.dropWhile_cons_of_neg (by simp [stop])]

/-- What stands behind the last closing brace is not looked at. -/
theorem group_of_braces (front : ∀ c ∈ before, c ≠ Text.openBrace)
    (back : ∀ c ∈ after, c ≠ Text.closeBrace) :
    group? (before ++ (Text.openBrace :: inside ++ [Text.closeBrace]) ++ after) = some (before, inside) := by
  have pass : ∀ c ∈ before, decide (c ≠ Text.openBrace) = true := fun c hc =>
    decide_eq_true (front c hc)
  have passBack : ∀ c ∈ after.reverse, decide (c ≠ Text.closeBrace) = true := fun c hc =>
    decide_eq_true (back c (List.mem_reverse.mp hc))
  have text : before ++ (Text.openBrace :: inside ++ [Text.closeBrace]) ++ after =
      before ++ Text.openBrace :: (inside ++ Text.closeBrace :: after) := by simp
  have turned : (inside ++ Text.closeBrace :: after).reverse =
      after.reverse ++ Text.closeBrace :: inside.reverse := by simp
  unfold group?
  rw [text, dropWhile_append_reach pass (by simp), takeWhile_append_stop pass (by simp)]
  dsimp only
  rw [turned, dropWhile_append_reach passBack (by simp)]
  simp

theorem group_of_no_brace (front : ∀ c ∈ cs, c ≠ Text.openBrace) : group? cs = none := by
  have pass : cs.dropWhile (fun c => decide (c ≠ Text.openBrace)) = [] :=
    List.dropWhile_eq_nil_iff.mpr fun c hc => decide_eq_true (front c hc)
  unfold group?
  rw [pass]

end Items

section Leaves

variable {above : List String} {cs before inside : List Char}

/-- What an item of a group contributes. -/
def itemLeaves (base : List String) (item : List Char) : List (List String) :=
  if item = "self".toList then if base.isEmpty then [] else [base] else leaves base item

theorem leaves_of_path (h : group? cs = none) : leaves above cs =
    if (dropSelf (above ++ segments cs)).isEmpty then [] else [dropSelf (above ++ segments cs)] := by
  rw [leaves]
  split
  · next found => rw [found] at h; cases h
  · rfl

theorem leaves_of_group (h : group? cs = some (before, inside)) : leaves above cs =
    ((splitItems 0 inside).filter (· ≠ [])).flatMap (itemLeaves (above ++ segments before)) := by
  rw [leaves]
  split
  · next b i found =>
    rw [found, Option.some.injEq, Prod.mk.injEq] at h
    obtain ⟨rfl, rfl⟩ := h
    dsimp only
    rw [List.flatMap_subtype (g := itemLeaves (above ++ segments b)) fun _ _ => rfl,
      List.unattach_attach]
  · next none => rw [none] at h; cases h

end Leaves

/-- A text by its braces and commas. -/
inductive Shape where
  | flat (text : List Char)
  | group (before : List Char) (items : List Shape) (after : List Char)

namespace Shape

mutual

def text : Shape → List Char
  | .flat text => text
  | .group before items after =>
    before ++ (Text.openBrace :: Text.joinWith [','] (texts items) ++ [Text.closeBrace]) ++ after

def texts : List Shape → List (List Char)
  | [] => []
  | s :: rest => s.text :: texts rest

end

theorem texts_eq_map (items : List Shape) : texts items = items.map text := by
  induction items with
  | nil => rfl
  | cons s rest ih => rw [texts, ih, List.map_cons]

inductive IsClear : Shape → Prop where
  | flat {text : List Char} : Clear text → IsClear (.flat text)
  | group {before after : List Char} {items : List Shape} :
      Clear before → (∀ s ∈ items, IsClear s) → Clear after → IsClear (.group before items after)

variable {above : List String} {before after : List Char} {items : List Shape}

theorem compact_joinWith (parts : List (List Char)) :
    compact (Text.joinWith [','] parts) = Text.joinWith [','] (parts.map compact) := by
  induction parts with
  | nil => simp [Text.joinWith, compact, dropAliases_nil]
  | cons part more ih =>
    cases more with
    | nil => rfl
    | cons next more =>
      have comma := @compact_append ',' part (Text.joinWith [','] (next :: more))
        (isMark_of_divider (c := ',') (by decide))
      simp only [Text.joinWith, List.append_assoc, List.singleton_append] at comma ⊢
      rw [comma, ih]
      simp [Text.joinWith]

theorem compact_group : compact (Shape.group before items after).text =
    compact before ++ (Text.openBrace :: Text.joinWith [','] (items.map fun s => compact s.text) ++
      [Text.closeBrace]) ++ compact after := by
  have opening := isMark_of_divider (c := Text.openBrace) (by decide)
  have closing := isMark_of_divider (c := Text.closeBrace) (by decide)
  have regroup : (Shape.group before items after).text = before ++ Text.openBrace ::
      (Text.joinWith [','] (items.map text) ++ Text.closeBrace :: after) := by
    simp [text, texts_eq_map]
  rw [regroup, compact_append opening, compact_append closing, compact_joinWith, List.map_map]
  simp [Function.comp_def]

theorem IsClear.of_mem {s : Shape} (clear : (Shape.group before items after).IsClear) (listed : s ∈ items) :
    s.IsClear := by
  obtain _ | ⟨_, inner, _⟩ := clear
  exact inner s listed

theorem IsClear.passedAt {s : Shape} (clear : s.IsClear) (depth : Nat) :
    PassedAt depth (compact s.text) := by
  induction clear generalizing depth with
  | flat clear => exact clear.compact.passedAt depth
  | @group before after items first _ last ih =>
    have inner : PassedAt (depth + 1) (Text.joinWith [','] (items.map fun s => compact s.text)) := by
      apply passedAt_joinWith
      intro part hp
      obtain ⟨s, hs, rfl⟩ := List.mem_map.mp hp
      exact ih s hs (depth + 1)
    rw [compact_group]
    exact ((first.compact.passedAt depth).append (passedAt_braces inner)).append
      (last.compact.passedAt depth)

theorem leaves_flat {cs : List Char} (clear : Clear cs) : leaves above (compact cs) =
    if (dropSelf (above ++ segments (compact cs))).isEmpty then []
    else [dropSelf (above ++ segments (compact cs))] :=
  leaves_of_path (group_of_no_brace clear.compact.notOpening)

/-- The leaves of a group are those of its items; what stands behind its closing brace is lost. -/
theorem leaves_group (clear : (Shape.group before items after).IsClear) :
    leaves above (compact (Shape.group before items after).text) =
      ((items.map fun s => compact s.text).filter (· ≠ [])).flatMap
        (itemLeaves (above ++ segments (compact before))) := by
  have inner : ∀ s ∈ items, s.IsClear := fun s => clear.of_mem
  obtain _ | ⟨first, _, last⟩ := clear
  have divided : splitItems 0 (Text.joinWith [','] (items.map fun s => compact s.text)) =
      if items = [] then [[]] else items.map fun s => compact s.text := by
    split
    · next none => rw [none]; rfl
    · next some =>
      apply splitItems_joinWith (by simpa using some)
      intro part hp
      obtain ⟨s, hs, rfl⟩ := List.mem_map.mp hp
      exact (inner s hs).passedAt 0
  rw [compact_group, leaves_of_group (group_of_braces first.compact.notOpening last.compact.notClosing),
    divided]
  split
  · next none => simp [none]
  · rfl

end Shape

section Depth

variable {cs before inside item : List Char}

/-- The expansion of the text calls itself at most so often within itself. -/
inductive NestsWithin : Nat → List Char → Prop where
  | path {depth : Nat} {cs : List Char} : group? cs = none → NestsWithin depth cs
  | group {depth : Nat} {cs before inside : List Char} : group? cs = some (before, inside) →
      (∀ item ∈ splitItems 0 inside, NestsWithin depth item) → NestsWithin (depth + 1) cs

theorem sublist_of_mem_splitItems {depth : Nat} (h : item ∈ splitItems depth cs) : item.Sublist cs := by
  induction cs generalizing depth item with
  | nil => simp_all [splitItems]
  | cons c rest ih =>
    by_cases divides : c = ',' ∧ depth = 0
    · rw [splitItems, if_pos divides] at h
      rcases List.mem_cons.mp h with rfl | later
      · exact List.nil_sublist _
      · exact (ih later).cons c
    · rw [splitItems_cons _ rfl divides] at h
      obtain ⟨part, more, parts⟩ := List.exists_cons_of_ne_nil (splitItems_ne_nil _ rest)
      rw [parts, glue] at h
      rcases List.mem_cons.mp h with rfl | later
      · exact (ih (parts ▸ List.mem_cons_self)).cons_cons c
      · exact (ih (parts ▸ List.mem_cons_of_mem _ later)).cons c

theorem count_lt_of_group (h : group? cs = some (before, inside)) :
    inside.count Text.openBrace < cs.count Text.openBrace := by
  unfold group? at h
  split at h
  · cases h
  · next c rest opened =>
    have brace : c = Text.openBrace := by
      by_contra other
      have stop := List.head?_dropWhile_not (fun c => decide (c ≠ Text.openBrace)) cs
      rw [opened] at stop
      simp [other] at stop
    have all : (c :: rest).Sublist cs := opened ▸ List.dropWhile_sublist _
    split at h
    · cases h
    · next d inner closed =>
      obtain ⟨_, rfl⟩ := Prod.mk.inj (Option.some.inj h)
      have part : inner.reverse.Sublist rest := by
        have tail := (List.sublist_cons_self d inner).trans
          (closed ▸ List.dropWhile_sublist (l := rest.reverse) _)
        simpa using tail.reverse
      have outer := all.count_le Text.openBrace
      have within := part.count_le Text.openBrace
      rw [brace, List.count_cons_self] at outer
      omega

theorem nestsWithin_count (cs : List Char) : NestsWithin (cs.count Text.openBrace) cs := by
  have bounded : ∀ depth, ∀ cs : List Char, cs.count Text.openBrace ≤ depth → NestsWithin depth cs := by
    intro depth
    induction depth with
    | zero =>
      intro cs none
      refine .path (group_of_no_brace ?_)
      rintro c hc rfl
      have some := List.count_pos_iff.mpr hc
      omega
    | succ depth ih =>
      intro cs few
      cases found : group? cs with
      | none => exact .path found
      | some parts =>
        obtain ⟨before, inside⟩ := parts
        refine .group found fun item hitem => ih item ?_
        have fewer := count_lt_of_group found
        have within := (sublist_of_mem_splitItems hitem).count_le Text.openBrace
        omega
  exact bounded _ cs (Nat.le_refl _)

end Depth

end SourceAtlas.UseTree
