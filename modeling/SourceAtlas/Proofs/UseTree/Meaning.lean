import Mathlib.Data.List.Basic
import SourceAtlas.Proofs.UseTree.Shape

/-! What a `use` tree means, and the texts that it can be written as. A tree imports one path for each of
its leaves, below the prefixes of the groups around it. However it is laid out, with any white space
between its words and marks, with or without leading `::`, aliases and trailing commas, the expansion of
the text is that list of paths. -/
namespace SourceAtlas.UseTree

/-- An identifier: one word, but not the one that announces an alias. -/
structure Name where
  chars : List Char
  notEmpty : chars ≠ []
  word : ∀ c ∈ chars, Text.isWord c = true
  notAs : chars ≠ ['a', 's']

def Name.text (n : Name) : String := String.ofList n.chars

/-- A tree without its layout. An alias and a leading `::` do not change what it imports, and `self` in a
group is a path of that one name. -/
inductive Tree where
  | path (parents : List Name) (last : Name)
  | glob (parents : List Name)
  | group (parents : List Name) (items : List Tree)

namespace Tree

mutual

/-- The paths that the tree imports below the prefix, one for each leaf. `self` at the end of a path stands
for what is in front of it. -/
def meaning (above : List String) : Tree → List (List String)
  | .path parents last =>
    let before := above ++ parents.map Name.text
    if last.text = "self" ∧ before ≠ [] then [before] else [before ++ [last.text]]
  | .glob parents =>
    let before := above ++ parents.map Name.text
    if before = [] then [] else [before]
  | .group parents items => meanings (above ++ parents.map Name.text) items

def meanings (above : List String) : List Tree → List (List String)
  | [] => []
  | t :: rest => t.meaning above ++ meanings above rest

end

theorem meanings_eq_flatMap (above : List String) (items : List Tree) :
    meanings above items = items.flatMap (meaning above) := by
  induction items with
  | nil => rfl
  | cons t rest ih => rw [meanings, ih, List.flatMap_cons]

def IsSelf : Tree → Prop
  | .path [] last => last.text = "self"
  | _ => False

/-- A glob is not taken from a `self` behind other names, and an item that is just `self` has a prefix to
stand for. -/
inductive SelfPlaced : List String → Tree → Prop where
  | path {above : List String} {parents : List Name} {last : Name} : SelfPlaced above (.path parents last)
  | glob {above : List String} {parents : List Name} :
      "self" ∉ (above ++ parents.map Name.text).tail → SelfPlaced above (.glob parents)
  | group {above : List String} {parents : List Name} {items : List Tree} :
      (∀ item ∈ items, SelfPlaced (above ++ parents.map Name.text) item) →
      (∀ item ∈ items, item.IsSelf → above ++ parents.map Name.text ≠ []) →
      SelfPlaced above (.group parents items)

end Tree

/-! Layout. `gap` says what may stand between two words or marks. -/
section Layout

variable (gap : List Char → Prop)

/-- What stands behind the last name of a path: an alias or not. -/
inductive Closing : List Char → Prop where
  | bare {g : List Char} : gap g → Closing g
  | aliased {g h k : List Char} (n : Name) : gap g → g ≠ [] → gap h → h ≠ [] → gap k →
      Closing (g ++ 'a' :: 's' :: (h ++ n.chars ++ k))

def EndsInName (last : Name) (text : List Char) : Prop :=
  ∃ g rest, gap g ∧ Closing gap rest ∧ text = g ++ last.chars ++ rest

def EndsInStar (text : List Char) : Prop := ∃ g h, gap g ∧ gap h ∧ text = g ++ '*' :: h

/-- Names with `::` behind each of them, and then the end. -/
inductive Spaced (ending : List Char → Prop) : List Name → List Char → Prop where
  | ending {text : List Char} : ending text → Spaced ending [] text
  | name {n : Name} {names : List Name} {g h text : List Char} : gap g → gap h →
      Spaced ending names text → Spaced ending (n :: names) (g ++ n.chars ++ h ++ ':' :: ':' :: text)

/-- The same, perhaps behind a leading `::`. -/
inductive Written (ending : List Char → Prop) (parents : List Name) : List Char → Prop where
  | bare {text : List Char} : Spaced gap ending parents text → Written ending parents text
  | rooted {g text : List Char} : gap g → Spaced gap ending parents text →
      Written ending parents (g ++ ':' :: ':' :: text)

/-- Behind the last item of a group stands nothing, or a comma and a gap; a group without items may hold
a gap. -/
inductive TrailsOff : List Shape → Prop where
  | nothing : TrailsOff []
  | gap {g : List Char} : gap g → TrailsOff [.flat g]

end Layout

/-- What may stand between the words and marks of a tree, and what behind the closing brace of a group. -/
structure Spacing where
  gap : List Char → Prop
  behind : List Char → Prop

/-- The shapes of the texts that a tree can be written as, given the spacing within its braces; the other
spacing is that of the tree itself. -/
inductive Spelled (inner : Spacing) : Spacing → Tree → Shape → Prop where
  | path {here : Spacing} {parents : List Name} {last : Name} {text : List Char} :
      Written here.gap (EndsInName here.gap last) parents text →
      Spelled inner here (.path parents last) (.flat text)
  | glob {here : Spacing} {parents : List Name} {text : List Char} :
      Written here.gap (EndsInStar here.gap) parents text →
      Spelled inner here (.glob parents) (.flat text)
  | group {here : Spacing} {parents : List Name} {before after : List Char}
      {pairs : List (Tree × Shape)} {trail : List Shape} :
      Written here.gap here.gap parents before →
      (∀ p ∈ pairs, Spelled inner inner p.1 p.2) → TrailsOff inner.gap trail → here.behind after →
      Spelled inner here (.group parents (pairs.map Prod.fst))
        (.group before (pairs.map Prod.snd ++ trail) after)

def Blank (cs : List Char) : Prop := ∀ c ∈ cs, Text.isBlank c = true

instance (cs : List Char) : Decidable (Blank cs) :=
  List.decidableBAll (fun c => Text.isBlank c = true) cs

section Compaction

variable {g h k cs text : List Char} {n : Name}

theorem trimStart_blank (blank : Blank g) (cs : List Char) :
    Text.trimStart (g ++ cs) = Text.trimStart cs :=
  List.dropWhile_append_of_pos blank

theorem Name.trimStart (n : Name) (cs : List Char) :
    Text.trimStart (n.chars ++ cs) = n.chars ++ cs := by
  obtain ⟨c, more, chars⟩ := List.exists_cons_of_ne_nil n.notEmpty
  have here := Text.isBlank_of_isWord (n.word c (chars ▸ List.mem_cons_self))
  rw [chars, List.cons_append, Text.trimStart, List.dropWhile_cons_of_neg (by simp [here])]

theorem afterAlias_solid {c : Char} (solid : Text.isBlank c = false) (cs : List Char) :
    afterAlias? (c :: cs) = none := by
  simp [afterAlias?, solid]

theorem dropAliases_solid (solid : ∀ c ∈ cs, Text.isBlank c = false) (text : List Char) :
    dropAliases (cs ++ text) = cs ++ dropAliases text := by
  induction cs with
  | nil => rfl
  | cons c cs ih =>
    rw [List.cons_append, dropAliases_cons (afterAlias_solid (solid c List.mem_cons_self) _),
      ih fun d hd => solid d (List.mem_cons_of_mem _ hd), List.cons_append]

theorem dropAliases_gap (blank : Blank g)
    (other : ∀ b, Text.isBlank b = true → ∀ g, Blank g → afterAlias? (b :: (g ++ text)) = none) :
    dropAliases (g ++ text) = g ++ dropAliases text := by
  induction g with
  | nil => rfl
  | cons b g ih =>
    have later : Blank g := fun c hc => blank c (List.mem_cons_of_mem _ hc)
    rw [List.cons_append, dropAliases_cons (other b (blank b List.mem_cons_self) g later), ih later,
      List.cons_append]

theorem dropAliases_blank (blank : Blank g) : dropAliases g = g := by
  have pass := @dropAliases_gap g [] blank fun b hb g hg => by
    have nothing : Text.trimStart (b :: g) = [] := by
      refine List.dropWhile_eq_nil_iff.mpr fun c hc => ?_
      rcases List.mem_cons.mp hc with rfl | hc
      · exact hb
      · exact hg c hc
    rw [List.append_nil, afterAlias?, nothing]
    simp [hb]
  simpa [dropAliases_nil] using pass

/-- A name is no alias: it is not the word `as`, and what only starts with it goes on as a word. -/
theorem dropAliases_name (blank : Blank g) (n : Name) (ends : text.head?.any Text.isWord = false) :
    dropAliases (g ++ n.chars ++ text) = g ++ n.chars ++ dropAliases text := by
  rw [List.append_assoc, dropAliases_gap blank, List.append_assoc,
    dropAliases_solid fun c hc => Text.isBlank_of_isWord (n.word c hc)]
  intro b hb g hg
  have reach : Text.trimStart (b :: (g ++ (n.chars ++ text))) = n.chars ++ text := by
    rw [Text.trimStart, List.dropWhile_cons_of_pos hb]
    exact (trimStart_blank hg _).trans (n.trimStart text)
  have word := n.word
  have notAs := n.notAs
  unfold afterAlias?
  rw [reach]
  simp only [List.head?_cons, Option.any_some, hb, if_true]
  rcases chars : n.chars with _ | ⟨a, _ | ⟨s, _ | ⟨c, more⟩⟩⟩
  · exact absurd chars n.notEmpty
  · rcases text with _ | ⟨d, text⟩
    · simp
    · have other : d ≠ 's' := by
        rintro rfl
        have letter : Text.isWord 's' = true := by decide
        simp [letter] at ends
      simp [other]
  · rw [chars] at notAs
    by_cases isA : a = 'a'
    · have other : s ≠ 's' := fun isS => notAs (by rw [isA, isS])
      simp [other]
    · simp [isA]
  · have solid : Text.isBlank c = false := Text.isBlank_of_isWord (word c (by simp [chars]))
    by_cases isA : a = 'a'
    · by_cases isS : s = 's'
      · simp [isA, isS, solid]
      · simp [isS]
    · simp [isA]

theorem Blank.head (blank : Blank g) : g.head?.any Text.isWord = false := by
  cases g with
  | nil => rfl
  | cons c g => exact Text.isWord_of_isBlank (blank c List.mem_cons_self)

theorem afterAlias_alias (hg : Blank g) (gs : g ≠ []) (hh : Blank h) (hs : h ≠ []) (n : Name)
    (ends : text.head?.any Text.isWord = false) :
    afterAlias? (g ++ 'a' :: 's' :: (h ++ n.chars ++ text)) = some text := by
  obtain ⟨b, g, rfl⟩ := List.exists_cons_of_ne_nil gs
  obtain ⟨d, h, rfl⟩ := List.exists_cons_of_ne_nil hs
  obtain ⟨c, more, chars⟩ := List.exists_cons_of_ne_nil n.notEmpty
  have hb := hg b List.mem_cons_self
  have hd := hh d List.mem_cons_self
  have hc := n.word c (chars ▸ List.mem_cons_self)
  have letter : Text.trimStart ('a' :: 's' :: (d :: h ++ n.chars ++ text)) =
      'a' :: 's' :: (d :: h ++ n.chars ++ text) := List.dropWhile_cons_of_neg (by decide)
  have word : Text.trimStart (d :: h ++ n.chars ++ text) = n.chars ++ text := by
    rw [List.append_assoc, trimStart_blank hh, n.trimStart]
  have rest : (n.chars ++ text).dropWhile Text.isWord = text := by
    rw [List.dropWhile_append_of_pos n.word]
    cases text with
    | nil => rfl
    | cons e text => exact List.dropWhile_cons_of_neg (by simpa using ends)
  unfold afterAlias?
  rw [trimStart_blank hg, letter]
  simp only [List.cons_append, List.head?_cons, Option.any_some, hb, hd, if_true] at word ⊢
  rw [word, rest, chars]
  simp [hc]

theorem compact_blank (blank : Blank g) : compact g = [] := by
  rw [compact, dropAliases_blank blank, List.filter_eq_nil_iff]
  intro c hc
  simp [blank c hc]

theorem filter_name (n : Name) : n.chars.filter (fun c => !Text.isBlank c) = n.chars :=
  List.filter_eq_self.mpr fun c hc => by simp [Text.isBlank_of_isWord (n.word c hc)]

theorem filter_blank (blank : Blank g) : g.filter (fun c => !Text.isBlank c) = [] :=
  List.filter_eq_nil_iff.mpr fun c hc => by simp [blank c hc]

theorem Closing.compact (closing : Closing Blank text) : compact text = [] := by
  cases closing with
  | bare blank => exact compact_blank blank
  | aliased n hg gs hh hs hk =>
    rw [UseTree.compact, dropAliases_of_alias (afterAlias_alias hg gs hh hs n hk.head)]
    exact compact_blank hk

theorem Closing.head (closing : Closing Blank text) : text.head?.any Text.isWord = false := by
  cases closing with
  | bare blank => exact blank.head
  | aliased n hg gs =>
    obtain ⟨b, g, rfl⟩ := List.exists_cons_of_ne_nil gs
    exact Text.isWord_of_isBlank (hg b List.mem_cons_self)

theorem EndsInName.compact (ends : EndsInName Blank n text) : compact text = n.chars := by
  obtain ⟨g, rest, blank, closing, rfl⟩ := ends
  have nothing : (dropAliases rest).filter (fun c => !Text.isBlank c) = [] := closing.compact
  rw [UseTree.compact, dropAliases_name blank n closing.head, List.filter_append, List.filter_append,
    filter_blank blank, filter_name, nothing]
  simp

theorem EndsInStar.compact (ends : EndsInStar Blank text) : compact text = ['*'] := by
  obtain ⟨g, h, hg, hh, rfl⟩ := ends
  have star : IsMark '*' := ⟨by decide, by decide⟩
  rw [compact_append star, compact_blank hg, compact_blank hh, List.nil_append]

end Compaction

section Segments

variable {cs text : List Char} {parents : List Name}

/-- The names in front of the end of a path, without white space. -/
def spelled (rooted : Bool) (parents : List Name) : List Char :=
  (if rooted then [':', ':'] else []) ++ parents.flatMap fun n => n.chars ++ [':', ':']

theorem Name.notColon (n : Name) : ∀ c ∈ n.chars, c ≠ ':' := by
  rintro c hc rfl
  exact absurd (n.word _ hc) (by decide)

theorem splitPath_cons {c : Char} (other : c ≠ ':') (cs : List Char) :
    splitPath (c :: cs) = match splitPath cs with
      | [] => [[c]]
      | part :: more => (c :: part) :: more :=
  splitPath.eq_3 c cs fun _ colon _ => other colon

theorem splitPath_name (names : ∀ c ∈ cs, c ≠ ':') (rest : List Char) :
    splitPath (cs ++ ':' :: ':' :: rest) = cs :: splitPath rest := by
  induction cs with
  | nil => rw [List.nil_append, splitPath]
  | cons c cs ih =>
    rw [List.cons_append, splitPath_cons (names c List.mem_cons_self),
      ih fun d hd => names d (List.mem_cons_of_mem _ hd)]

theorem splitPath_alone (names : ∀ c ∈ cs, c ≠ ':') : splitPath cs = [cs] := by
  induction cs with
  | nil => rw [splitPath]
  | cons c cs ih =>
    rw [splitPath_cons (names c List.mem_cons_self), ih fun d hd => names d (List.mem_cons_of_mem _ hd)]

theorem Name.isSegment (n : Name) : (n.chars ≠ [] && n.chars ≠ ['*']) = true := by
  have star : n.chars ≠ ['*'] := by
    intro same
    exact absurd (n.word '*' (same ▸ List.mem_cons_self)) (by decide)
  simp [n.notEmpty, star]

theorem segments_name (n : Name) (cs : List Char) :
    segments (n.chars ++ ':' :: ':' :: cs) = n.text :: segments cs := by
  rw [segments, splitPath_name n.notColon, List.filter_cons_of_pos (by exact n.isSegment), List.map_cons]
  rfl

theorem segments_alone (n : Name) : segments n.chars = [n.text] := by
  rw [segments, splitPath_alone n.notColon, List.filter_cons_of_pos (by exact n.isSegment)]
  rfl

theorem segments_spelled (rooted : Bool) (parents : List Name) (cs : List Char) :
    segments (spelled rooted parents ++ cs) = parents.map Name.text ++ segments cs := by
  have names : segments ((parents.flatMap fun n => n.chars ++ [':', ':']) ++ cs) =
      parents.map Name.text ++ segments cs := by
    induction parents with
    | nil => rfl
    | cons n parents ih =>
      rw [List.map_cons, List.cons_append, ← ih, ← segments_name]
      simp
  cases rooted with
  | false => exact names
  | true =>
    rw [← names, spelled, List.append_assoc]
    simp [segments, splitPath]

variable {ending : List Char → Prop}

theorem Spaced.compact (spaced : Spaced Blank ending parents text) : ∃ last, ending last ∧
    compact text = (parents.flatMap fun n => n.chars ++ [':', ':']) ++ compact last := by
  have colon : IsMark ':' := ⟨by decide, by decide⟩
  induction spaced with
  | ending ends => exact ⟨_, ends, rfl⟩
  | @name n names g h text hg hh _ ih =>
    obtain ⟨last, ends, rest⟩ := ih
    have name : UseTree.compact (g ++ n.chars ++ h) = n.chars :=
      EndsInName.compact ⟨g, h, hg, .bare hh, rfl⟩
    refine ⟨last, ends, ?_⟩
    rw [compact_append colon, name, compact_cons colon, rest]
    simp

theorem Written.compact (written : Written Blank ending parents text) : ∃ rooted last, ending last ∧
    compact text = spelled rooted parents ++ compact last := by
  cases written with
  | bare spaced =>
    obtain ⟨last, ends, same⟩ := spaced.compact
    exact ⟨false, last, ends, same⟩
  | @rooted g text hg spaced =>
    obtain ⟨last, ends, same⟩ := spaced.compact
    have colon : IsMark ':' := ⟨by decide, by decide⟩
    refine ⟨true, last, ends, ?_⟩
    rw [compact_append colon, compact_blank hg, compact_cons colon, same]
    simp [spelled]

end Segments

section Clearness

variable {cs text : List Char} {parents : List Name} {ending : List Char → Prop}

theorem Clear.append (first : Clear cs) (second : Clear text) : Clear (cs ++ text) := fun c hc =>
  (List.mem_append.mp hc).elim (first c) (second c)

theorem Clear.cons {c : Char} (here : c ∉ dividers) (rest : Clear cs) : Clear (c :: cs) := by
  intro d hd
  rcases List.mem_cons.mp hd with rfl | hd
  · exact here
  · exact rest d hd

theorem Blank.clear (blank : Blank cs) : Clear cs := by
  intro c hc divider
  have solid := (isMark_of_divider divider).notBlank
  rw [blank c hc] at solid
  cases solid

theorem Name.clear (n : Name) : Clear n.chars := by
  intro c hc divider
  have mark := (isMark_of_divider divider).notWord
  rw [n.word c hc] at mark
  cases mark

theorem Clear.colons (clear : Clear cs) : Clear (':' :: ':' :: cs) :=
  .cons (by decide) (.cons (by decide) clear)

variable {gap : List Char → Prop} (gaps : ∀ g, gap g → Clear g)

include gaps

theorem Closing.clear (closing : Closing gap text) : Clear text := by
  cases closing with
  | bare hg => exact gaps _ hg
  | aliased n hg _ hh _ hk =>
    exact (gaps _ hg).append
      (.cons (by decide) (.cons (by decide) (((gaps _ hh).append n.clear).append (gaps _ hk))))

theorem EndsInName.clear {n : Name} (ends : EndsInName gap n text) : Clear text := by
  obtain ⟨g, rest, hg, closing, rfl⟩ := ends
  exact ((gaps g hg).append n.clear).append (closing.clear gaps)

theorem EndsInStar.clear (ends : EndsInStar gap text) : Clear text := by
  obtain ⟨g, h, hg, hh, rfl⟩ := ends
  exact (gaps g hg).append (.cons (by decide) (gaps h hh))

theorem Spaced.clear (ends : ∀ last, ending last → Clear last) (spaced : Spaced gap ending parents text) :
    Clear text := by
  induction spaced with
  | ending last => exact ends _ last
  | @name n _ g h _ hg hh _ ih =>
    exact (((gaps g hg).append n.clear).append (gaps h hh)).append ih.colons

theorem Written.clear (ends : ∀ last, ending last → Clear last) (written : Written gap ending parents text) :
    Clear text := by
  cases written with
  | bare spaced => exact spaced.clear gaps ends
  | rooted hg spaced => exact (gaps _ hg).append (spaced.clear gaps ends).colons

end Clearness

/-- Only white space between words and marks, and no brace and no comma behind a group. -/
structure Spacing.Quiet (spacing : Spacing) : Prop where
  gap : spacing.gap = Blank
  behind : ∀ g, spacing.behind g → Clear g

section Expansion

variable {above : List String} {parents : List Name} {inner here : Spacing} {t : Tree} {s : Shape}

theorem Spelled.isClear (spelled : Spelled inner here t s) (within : inner.Quiet) (around : here.Quiet) :
    s.IsClear := by
  have gaps : ∀ g, Blank g → Clear g := fun _ => Blank.clear
  induction spelled with
  | path written =>
    rw [around.gap] at written
    exact .flat (written.clear gaps fun _ => EndsInName.clear gaps)
  | glob written =>
    rw [around.gap] at written
    exact .flat (written.clear gaps fun _ => EndsInStar.clear gaps)
  | group written _ trails behind ih =>
    rw [around.gap] at written
    rw [within.gap] at trails
    refine .group (written.clear gaps gaps) ?_ (around.behind _ behind)
    intro s hs
    rcases List.mem_append.mp hs with item | trail
    · obtain ⟨p, hp, rfl⟩ := List.mem_map.mp item
      exact ih p hp within
    · cases trails with
      | nothing => cases trail
      | gap blank =>
        rw [List.mem_singleton.mp trail]
        exact .flat blank.clear

theorem spelled_cases (rooted : Bool) (parents : List Name) :
    ':' ∈ spelled rooted parents ∨ spelled rooted parents = [] ∧ parents = [] := by
  cases rooted with
  | true => exact .inl (by simp [spelled])
  | false =>
    cases parents with
    | nil => exact .inr ⟨rfl, rfl⟩
    | cons n parents => exact .inl (by simp [spelled])

/-- An item is never read as nothing, and as the word `self` only if it is that. -/
theorem Spelled.item_text (spelled : Spelled inner here t s) (around : here.Quiet) :
    compact s.text ≠ [] ∧ (compact s.text = "self".toList → t.IsSelf) := by
  have not_mem : ∀ {c : Char} {cs : List Char}, c ∈ cs → c ∉ "self".toList →
      cs ≠ [] ∧ (cs = "self".toList → t.IsSelf) := by
    intro c cs hc other
    refine ⟨List.ne_nil_of_mem hc, ?_⟩
    rintro rfl
    exact absurd hc other
  cases spelled with
  | @path _ parents last text written =>
    rw [around.gap] at written
    obtain ⟨rooted, _, ends, same⟩ := written.compact
    rw [ends.compact] at same
    rw [Shape.text, same]
    rcases spelled_cases rooted parents with colon | ⟨none, rfl⟩
    · exact not_mem (List.mem_append_left _ colon) (by decide)
    · rw [none, List.nil_append]
      exact ⟨last.notEmpty, fun word => by rw [Tree.IsSelf, Name.text, word, String.ofList_toList]⟩
  | glob written =>
    rw [around.gap] at written
    obtain ⟨rooted, _, ends, same⟩ := written.compact
    rw [ends.compact] at same
    rw [Shape.text, same]
    exact not_mem (List.mem_append_right _ List.mem_cons_self) (by decide)
  | group =>
    rw [Shape.compact_group]
    exact not_mem (c := Text.openBrace) (by simp) (by decide)

theorem dropSelf_concat (before : List String) (last : String) : dropSelf (before ++ [last]) =
    if last = "self" ∧ before ≠ [] then before else before ++ [last] := by
  have long : 1 < (before ++ [last]).length ↔ before ≠ [] := by
    rw [List.length_append, List.length_singleton, ← List.length_pos_iff]
    omega
  simp only [dropSelf, List.getLast?_concat, List.dropLast_concat, Option.some.injEq, long]

theorem dropSelf_of_not_mem {path : List String} (h : "self" ∉ path.tail) : dropSelf path = path := by
  rw [dropSelf, if_neg]
  rintro ⟨last, long⟩
  cases path with
  | nil => cases last
  | cons first rest =>
    have inside : rest ≠ [] := by
      rintro rfl
      exact Nat.lt_irrefl _ long
    rw [List.getLast?_cons_of_ne_nil inside] at last
    exact h (List.mem_of_getLast? last)

theorem segments_self : segments "self".toList = ["self"] := by
  rw [segments, splitPath_alone (by simp)]
  decide

theorem itemLeaves_eq {item : List Char} (prefixed : item = "self".toList → above ≠ []) :
    itemLeaves above item = leaves above item := by
  unfold itemLeaves
  split
  · next self =>
    have inside := prefixed self
    have drops := dropSelf_concat above "self"
    rw [if_pos ⟨rfl, inside⟩] at drops
    rw [self, leaves_of_path (group_of_no_brace (by simp [Text.openBrace])), segments_self, drops]
  · rfl

theorem leaves_spelled (spelled : Spelled inner here t s) (within : inner.Quiet) (around : here.Quiet)
    (placed : t.SelfPlaced above) : leaves above (compact s.text) = t.meaning above := by
  -- Along the tree. The prefix grows on the way down, and the items of a group are read one by one.
  induction spelled generalizing above with
  | @path _ parents last text written =>
    have whole : Spelled inner _ (.path parents last) (.flat text) := .path written
    have clear := whole.isClear within around
    rw [around.gap] at written
    obtain ⟨rooted, _, ends, same⟩ := written.compact
    obtain ⟨clear⟩ := clear
    rw [ends.compact] at same
    rw [Shape.text, Shape.leaves_flat clear, same, segments_spelled, segments_alone,
      ← List.append_assoc, dropSelf_concat, Tree.meaning]
    split
    · next self => simp [self.2]
    · simp
  | @glob _ parents text written =>
    have whole : Spelled inner _ (.glob parents) (.flat text) := .glob written
    have clear := whole.isClear within around
    rw [around.gap] at written
    obtain ⟨rooted, _, ends, same⟩ := written.compact
    obtain ⟨clear⟩ := clear
    obtain _ | ⟨notSelf⟩ := placed
    have star : segments ['*'] = [] := by decide
    rw [ends.compact] at same
    rw [Shape.text, Shape.leaves_flat clear, same, segments_spelled, star, List.append_nil,
      dropSelf_of_not_mem notSelf, Tree.meaning]
    simp only [List.isEmpty_iff]
  | @group _ parents before after pairs trail written items trails behind ih =>
    have clear := (Spelled.group written items trails behind).isClear within around
    rw [around.gap] at written
    rw [within.gap] at trails
    obtain _ | _ | ⟨placed, prefixed⟩ := placed
    obtain ⟨rooted, last, ends, same⟩ := written.compact
    have base : segments (compact before) = parents.map Name.text := by
      rw [same, segments_spelled, compact_blank ends]
      simp [segments, splitPath]
    have kept : ((pairs.map Prod.snd ++ trail).map fun s => compact s.text).filter (· ≠ []) =
        pairs.map fun p => compact p.2.text := by
      have gone : (trail.map fun s => compact s.text).filter (· ≠ []) = [] := by
        cases trails with
        | nothing => rfl
        | gap blank => simp [Shape.text, compact_blank blank]
      rw [List.map_append, List.filter_append, gone, List.append_nil, List.map_map]
      refine List.filter_eq_self.mpr fun text ht => ?_
      obtain ⟨p, hp, rfl⟩ := List.mem_map.mp ht
      exact decide_eq_true ((items p hp).item_text within).1
    rw [Shape.leaves_group clear, kept, base, Tree.meaning, Tree.meanings_eq_flatMap, List.flatMap_map,
      List.flatMap_map]
    refine List.flatMap_congr fun p hp => ?_
    have item := List.mem_map_of_mem (f := Prod.fst) hp
    rw [itemLeaves_eq fun self => prefixed p.1 item (((items p hp).item_text within).2 self)]
    exact ih p hp within (placed p.1 item)

end Expansion

def blankSpacing : Spacing := ⟨Blank, Blank⟩

theorem blankSpacing_quiet : blankSpacing.Quiet := ⟨rfl, fun _ => Blank.clear⟩

/-- However a tree is laid out, its text expands to what it means; and whatever the text, also with braces
that are not balanced, the expansion ends. -/
theorem expansion_is_meaning :
    (∀ (t : Tree) (s : Shape), Spelled blankSpacing blankSpacing t s → t.SelfPlaced [] →
      expand (String.ofList s.text) = t.meaning []) ∧
    ∀ tree : String, NestsWithin ((compact tree.toList).count Text.openBrace) (compact tree.toList) := by
  refine ⟨fun t s spelled placed => ?_, fun tree => nestsWithin_count _⟩
  rw [expand, String.toList_ofList]
  exact leaves_spelled spelled blankSpacing_quiet blankSpacing_quiet placed

def named (chars : List Char)
    (valid : chars ≠ [] ∧ chars.all Text.isWord = true ∧ chars ≠ ['a', 's']) : Name :=
  ⟨chars, valid.1, List.all_eq_true.mp valid.2.1, valid.2.2⟩

/-- A group within a group, with an alias, a glob, `self` as an item and at the end of a path. -/
def nestedTree : Tree :=
  .group [named ['m'] (by decide)]
    [.path [] (named ['x'] (by decide)),
     .group [named ['n'] (by decide)] [.glob [], .path [] (named ['s', 'e', 'l', 'f'] (by decide))],
     .path [named ['y'] (by decide)] (named ['s', 'e', 'l', 'f'] (by decide))]

def nestedShape : Shape :=
  .group "::m::".toList
    [.flat " x as _".toList,
     .group "\n  n :: ".toList [.flat "*".toList, .flat " self\tas z ".toList, .flat " ".toList] " ".toList,
     .flat "y::self".toList] []

theorem nestedShape_spelled : Spelled blankSpacing blankSpacing nestedTree nestedShape := by
  have empty : Blank [] := fun _ h => absurd h List.not_mem_nil
  have space : Blank [' '] := by decide
  have x : Written Blank (EndsInName Blank (named ['x'] (by decide))) [] " x as _".toList :=
    .bare (.ending ⟨[' '], _, space,
      .aliased (named ['_'] (by decide)) space (by decide) space (by decide) empty, rfl⟩)
  have star : Written Blank (EndsInStar Blank) [] "*".toList :=
    .bare (.ending ⟨[], [], empty, empty, rfl⟩)
  have self : Written Blank (EndsInName Blank (named ['s', 'e', 'l', 'f'] (by decide))) []
      " self\tas z ".toList :=
    .bare (.ending ⟨[' '], _, space,
      .aliased (g := ['\t']) (named ['z'] (by decide)) (by decide) (by decide) space (by decide) space, rfl⟩)
  have y : Written Blank (EndsInName Blank (named ['s', 'e', 'l', 'f'] (by decide)))
      [named ['y'] (by decide)] "y::self".toList :=
    .bare (.name empty empty (.ending ⟨[], [], empty, .bare empty, rfl⟩))
  have n : Written Blank Blank [named ['n'] (by decide)] "\n  n :: ".toList :=
    .bare (.name (g := ['\n', ' ', ' ']) (by decide) space (.ending space))
  have m : Written Blank Blank [named ['m'] (by decide)] "::m::".toList :=
    .rooted empty (.name empty empty (.ending empty))
  have inside : Spelled blankSpacing blankSpacing
      (.group [named ['n'] (by decide)] [.glob [], .path [] (named ['s', 'e', 'l', 'f'] (by decide))])
      (.group "\n  n :: ".toList [.flat "*".toList, .flat " self\tas z ".toList, .flat " ".toList]
        " ".toList) := by
    refine @Spelled.group _ _ _ _ _ [(.glob [], .flat "*".toList),
      (.path [] (named ['s', 'e', 'l', 'f'] (by decide)), .flat " self\tas z ".toList)] _ n ?_
      (.gap space) space
    simp only [List.forall_mem_cons]
    exact ⟨.glob star, .path self, fun _ h => absurd h List.not_mem_nil⟩
  refine @Spelled.group _ _ _ _ _ [(_, .flat " x as _".toList), (_, _), (_, .flat "y::self".toList)] _ m ?_
    .nothing empty
  simp only [List.forall_mem_cons]
  exact ⟨.path x, inside, .path y, fun _ h => absurd h List.not_mem_nil⟩

theorem nested_expansion_is_meaning :
    Spelled blankSpacing blankSpacing nestedTree nestedShape ∧ nestedTree.SelfPlaced [] ∧
    String.ofList nestedShape.text = "::m::\x7b x as _,\n  n :: \x7b*, self\tas z , \x7d ,y::self\x7d" ∧
    expand (String.ofList nestedShape.text) =
      [["m", "x"], ["m", "n"], ["m", "n"], ["m", "y"]] := by
  have placed : nestedTree.SelfPlaced [] := by
    have glob : ((Tree.glob []).SelfPlaced ["m", "n"]) := .glob (by decide)
    have inside : (Tree.group [named ['n'] (by decide)]
        [.glob [], .path [] (named ['s', 'e', 'l', 'f'] (by decide))]).SelfPlaced ["m"] := by
      refine .group ?_ fun _ _ _ => by decide
      simp only [List.forall_mem_cons]
      exact ⟨glob, .path, fun _ h => absurd h List.not_mem_nil⟩
    refine .group ?_ fun _ _ _ => by decide
    simp only [List.forall_mem_cons]
    exact ⟨.path, inside, .path, fun _ h => absurd h List.not_mem_nil⟩
  exact ⟨nestedShape_spelled, placed, by decide,
    (expansion_is_meaning.1 nestedTree nestedShape nestedShape_spelled placed).trans (by decide)⟩

end SourceAtlas.UseTree
