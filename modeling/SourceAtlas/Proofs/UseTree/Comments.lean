import SourceAtlas.Proofs.UseTree.Commas
import SourceAtlas.Syntax.Literal

/-! Comments within the braces of a `use` tree. The expansion does not know them: their characters stay in
the text, and what is left of them is read as a part of a name. So a comment is harmless only where the text
is not looked at, which is behind the closing brace of a nested group, and there only up to the first comma
of its own. The main statement says so of all comments without braces. With braces, one comment may hide an
item and another one name it again, so nothing can be said of either alone. -/
namespace SourceAtlas.UseTree

/-- White space and comments. Block comments may hold others, line comments end with their line. -/
inductive Commented : List Char → Prop where
  | nothing : Commented []
  | blank {c : Char} {cs : List Char} : Text.isBlank c = true → Commented cs → Commented (c :: cs)
  | line {body cs : List Char} : '\n' ∉ body → Commented cs →
      Commented ('/' :: '/' :: (body ++ '\n' :: cs))
  | block {body cs : List Char} :
      Syntax.nestedCommentLength 1 0 (body ++ ['*', '/']) = some (body.length + 2) → Commented cs →
      Commented ('/' :: '*' :: (body ++ '*' :: '/' :: cs))

/-- Comments wherever white space may stand. -/
def commentSpacing : Spacing := ⟨Commented, Commented⟩

theorem Blank.commented {g : List Char} (blank : Blank g) : Commented g := by
  induction g with
  | nil => exact .nothing
  | cons c g ih =>
    exact .blank (blank c List.mem_cons_self) (ih fun d hd => blank d (List.mem_cons_of_mem _ hd))

theorem Commented.blank_of_not_mem {g : List Char} (commented : Commented g) (none : '/' ∉ g) : Blank g := by
  induction commented with
  | nothing => exact fun _ h => absurd h List.not_mem_nil
  | blank here _ ih =>
    intro c hc
    rcases List.mem_cons.mp hc with rfl | hc
    · exact here
    · exact ih (fun later => none (List.mem_cons_of_mem _ later)) c hc
  | line => exact absurd List.mem_cons_self none
  | block => exact absurd List.mem_cons_self none

/-- A slash where the expansion looks: in an item, or in the prefix of a group. -/
inductive Shape.Marked : Shape → Prop where
  | flat {text : List Char} : '/' ∈ text → Marked (.flat text)
  | before {before after : List Char} {items : List Shape} :
      '/' ∈ before → Marked (.group before items after)
  | item {before after : List Char} {items : List Shape} {s : Shape} :
      s ∈ items → Marked s → Marked (.group before items after)

theorem Shape.marked_flat {text : List Char} : (Shape.flat text).Marked ↔ '/' ∈ text :=
  ⟨fun mark => by cases mark with | flat slash => exact slash, .flat⟩

theorem Shape.marked_group {before after : List Char} {items : List Shape} :
    (Shape.group before items after).Marked ↔ '/' ∈ before ∨ ∃ s ∈ items, s.Marked := by
  constructor
  · intro mark
    cases mark with
    | before slash => exact .inl slash
    | item listed mark => exact .inr ⟨_, listed, mark⟩
  · rintro (slash | ⟨s, listed, mark⟩)
    · exact .before slash
    · exact .item listed mark

section Unmarked

variable {gap ending quiet : List Char → Prop} {parents : List Name} {text : List Char}
variable (gaps : ∀ g, gap g → '/' ∉ g → Blank g)

include gaps

theorem Closing.unmarked (closing : Closing gap text) (none : '/' ∉ text) : Closing Blank text := by
  cases closing with
  | bare hg => exact .bare (gaps _ hg none)
  | aliased n hg gs hh hs hk =>
    simp only [List.mem_append, List.mem_cons, not_or] at none
    exact .aliased n (gaps _ hg none.1) gs (gaps _ hh none.2.2.2.1.1) hs (gaps _ hk none.2.2.2.2)

theorem EndsInName.unmarked {n : Name} (ends : EndsInName gap n text) (none : '/' ∉ text) :
    EndsInName Blank n text := by
  obtain ⟨g, rest, hg, closing, rfl⟩ := ends
  simp only [List.mem_append, not_or] at none
  exact ⟨g, rest, gaps g hg none.1.1, closing.unmarked gaps none.2, rfl⟩

theorem EndsInStar.unmarked (ends : EndsInStar gap text) (none : '/' ∉ text) : EndsInStar Blank text := by
  obtain ⟨g, h, hg, hh, rfl⟩ := ends
  simp only [List.mem_append, List.mem_cons, not_or] at none
  exact ⟨g, h, gaps g hg none.1, gaps h hh none.2.2, rfl⟩

theorem Spaced.unmarked (ends : ∀ last, ending last → '/' ∉ last → quiet last)
    (spaced : Spaced gap ending parents text) (none : '/' ∉ text) : Spaced Blank quiet parents text := by
  induction spaced with
  | ending last => exact .ending (ends _ last none)
  | name hg hh _ ih =>
    simp only [List.mem_append, List.mem_cons, not_or] at none
    exact .name (gaps _ hg none.1.1.1) (gaps _ hh none.1.2) (ih none.2.2.2)

theorem Written.unmarked (ends : ∀ last, ending last → '/' ∉ last → quiet last)
    (written : Written gap ending parents text) (none : '/' ∉ text) : Written Blank quiet parents text := by
  cases written with
  | bare spaced => exact .bare (spaced.unmarked gaps ends none)
  | rooted hg spaced =>
    simp only [List.mem_append, List.mem_cons, not_or] at none
    exact .rooted (gaps _ hg none.1) (spaced.unmarked gaps ends none.2.2.2)

end Unmarked

/-- White space between words and marks, and behind groups anything that holds no brace and no comma. -/
def looseSpacing : Spacing := ⟨Blank, Clear⟩

theorem looseSpacing_quiet : looseSpacing.Quiet := ⟨rfl, fun _ clear => clear⟩

theorem Spelled.unmarked {inner here : Spacing} {t : Tree} {s : Shape} (spelled : Spelled inner here t s)
    (within : ∀ g, inner.gap g → '/' ∉ g → Blank g) (around : ∀ g, here.gap g → '/' ∉ g → Blank g)
    (unbraced : s.Unbraced) (none : ¬ s.Marked) : Spelled looseSpacing looseSpacing t s.core := by
  induction spelled with
  | path written =>
    have none := fun slash => none (.flat slash)
    exact .path (written.unmarked around (fun _ => EndsInName.unmarked around) none)
  | glob written =>
    have none := fun slash => none (.flat slash)
    exact .glob (written.unmarked around (fun _ => EndsInStar.unmarked around) none)
  | @group _ _ before after pairs trail written _ trails behind ih =>
    obtain _ | ⟨_, items, last⟩ := unbraced
    have front : '/' ∉ before := fun slash => none (.before slash)
    have inside : ∀ s ∈ pairs.map Prod.snd ++ trail, ¬ s.Marked := fun s hs mark => none (.item hs mark)
    have clear : Clear ((Text.split ',' after).headD []) := by
      obtain ⟨first, back, parts⟩ := List.exists_cons_of_ne_nil (Text.split_ne_nil ',' after)
      rw [parts, List.headD_cons]
      exact last.clear (parts ▸ List.mem_cons_self)
    have shapes : Shape.cores (pairs.map Prod.snd ++ trail) =
        (pairs.map fun p => (p.1, p.2.core)).map Prod.snd ++ trail.map Shape.core := by
      rw [Shape.cores_eq_map, List.map_append, List.map_map, List.map_map]
      rfl
    have trees : pairs.map Prod.fst = (pairs.map fun p => (p.1, p.2.core)).map Prod.fst := by
      rw [List.map_map]
      rfl
    rw [Shape.core, shapes, trees]
    refine .group (written.unmarked around around front) ?_ ?_ clear
    · intro q hq
      obtain ⟨p, hp, rfl⟩ := List.mem_map.mp hq
      have listed := List.mem_append_left trail (List.mem_map_of_mem (f := Prod.snd) hp)
      exact ih p hp within (items _ listed) (inside _ listed)
    · cases trails with
      | nothing => exact .nothing
      | gap hg =>
        refine .gap (within _ hg fun slash => ?_)
        exact inside _ (List.mem_append_right _ List.mem_cons_self) (.flat slash)

section Marked

variable {cs item : List Char} {above path : List String} {paths : List (List String)} {name : String}

/-- Some name of some path holds a slash. -/
def Slashed (paths : List (List String)) : Prop := ∃ path ∈ paths, ∃ name ∈ path, '/' ∈ name.toList

theorem slash_compact (h : '/' ∈ cs) : '/' ∈ compact cs := by
  obtain ⟨before, after, rfl⟩ := List.append_of_mem h
  rw [compact_append ⟨by decide, by decide⟩]
  exact List.mem_append_right _ List.mem_cons_self

theorem exists_part {c : Char} (h : c ∈ cs) (other : c ≠ ':') : ∃ part ∈ splitPath cs, c ∈ part := by
  fun_induction splitPath cs with
  | case1 => cases h
  | case2 rest ih =>
    simp only [List.mem_cons, other, false_or] at h
    obtain ⟨part, hp, hc⟩ := ih h
    exact ⟨part, List.mem_cons_of_mem _ hp, hc⟩
  | case3 d rest _ none ih =>
    rcases List.mem_cons.mp h with rfl | h
    · exact ⟨_, List.mem_cons_self, List.mem_cons_self⟩
    · obtain ⟨part, hp, _⟩ := ih h
      rw [none] at hp
      cases hp
  | case4 d rest _ part more parts ih =>
    rcases List.mem_cons.mp h with rfl | h
    · exact ⟨_, List.mem_cons_self, List.mem_cons_self⟩
    · obtain ⟨found, hp, hc⟩ := ih h
      rw [parts] at hp
      rcases List.mem_cons.mp hp with rfl | hp
      · exact ⟨_, List.mem_cons_self, List.mem_cons_of_mem _ hc⟩
      · exact ⟨found, List.mem_cons_of_mem _ hp, hc⟩

theorem exists_segment (h : '/' ∈ cs) : ∃ name ∈ segments cs, '/' ∈ name.toList := by
  obtain ⟨part, hp, slash⟩ := exists_part h (by decide)
  have full : part ≠ [] := List.ne_nil_of_mem slash
  have notStar : part ≠ ['*'] := by
    rintro rfl
    revert slash
    decide
  refine ⟨String.ofList part, ?_, by rwa [String.toList_ofList]⟩
  exact List.mem_map_of_mem (List.mem_filter.mpr ⟨hp, by simp [full, notStar]⟩)

theorem mem_dropSelf (h : name ∈ path) (slash : '/' ∈ name.toList) : name ∈ dropSelf path := by
  have other : name ≠ "self" := by
    rintro rfl
    revert slash
    decide
  unfold dropSelf
  split
  · next self =>
    rw [← List.dropLast_append_getLast? _ self.1, List.mem_append, List.mem_singleton] at h
    exact h.resolve_right other
  · exact h

theorem slashed_flat (clear : Clear cs) (h : name ∈ above ++ segments (compact cs))
    (slash : '/' ∈ name.toList) : Slashed (leaves above (compact cs)) := by
  have kept := mem_dropSelf h slash
  rw [Shape.leaves_flat clear, if_neg (by simpa using List.ne_nil_of_mem kept)]
  exact ⟨_, List.mem_cons_self, name, kept, slash⟩

/-- An item that is not lost has a leaf of its own. -/
inductive Shape.Full : Shape → Prop where
  | flat {text : List Char} : compact text ≠ [] → Full (.flat text)
  | group {before after : List Char} {items : List Shape} {s : Shape} :
      s ∈ items → Full s → Full (.group before items after)

variable {s : Shape}

theorem Shape.Full.text (full : s.Full) : compact s.text ≠ [] := by
  cases full with
  | flat full => exact full
  | group => exact List.ne_nil_of_mem (Shape.opening_mem_compact _ _ _)

theorem slashed_group {before after : List Char} {items : List Shape}
    (clear : (Shape.group before items after).IsClear) (listed : s ∈ items) (text : compact s.text ≠ [])
    (slashed : Slashed (itemLeaves (above ++ segments (compact before)) (compact s.text))) :
    Slashed (itemLeaves above (compact (Shape.group before items after).text)) := by
  obtain ⟨path, hp, name, hn, slash⟩ := slashed
  refine ⟨path, ?_, name, hn, slash⟩
  rw [Shape.itemLeaves_of_mem (Shape.opening_mem_compact _ _ _) (by decide), Shape.leaves_group clear]
  exact List.mem_flatMap.mpr ⟨_, List.mem_filter.mpr
    ⟨List.mem_map_of_mem listed, decide_eq_true text⟩, hp⟩

theorem slashed_of_above (full : s.Full) (clear : s.IsClear) (h : name ∈ above)
    (slash : '/' ∈ name.toList) : Slashed (itemLeaves above (compact s.text)) := by
  induction full generalizing above with
  | flat =>
    obtain ⟨clear⟩ := clear
    rw [itemLeaves_eq fun _ => List.ne_nil_of_mem h]
    exact slashed_flat clear (List.mem_append_left _ h) slash
  | group listed full ih =>
    exact slashed_group clear listed full.text (ih (clear.of_mem listed) (List.mem_append_left _ h))

/-- Every group has an item with a leaf. -/
inductive Shape.Populated : Shape → Prop where
  | flat {text : List Char} : Populated (.flat text)
  | group {before after : List Char} {items : List Shape} {s : Shape} : s ∈ items → s.Full →
      (∀ s ∈ items, Populated s) → Populated (.group before items after)

theorem slashed_of_marked (marked : s.Marked) (populated : s.Populated) (clear : s.IsClear)
    (above : List String) :
    compact s.text ≠ [] ∧ Slashed (itemLeaves above (compact s.text)) := by
  induction marked generalizing above with
  | flat slash =>
    obtain ⟨clear⟩ := clear
    have kept := slash_compact slash
    obtain ⟨name, hn, inside⟩ := exists_segment kept
    rw [Shape.text, Shape.itemLeaves_of_mem kept (by decide)]
    exact ⟨List.ne_nil_of_mem kept, slashed_flat clear (List.mem_append_right _ hn) inside⟩
  | before slash =>
    obtain _ | ⟨listed, full, _⟩ := populated
    obtain ⟨name, hn, inside⟩ := exists_segment (slash_compact slash)
    exact ⟨List.ne_nil_of_mem (Shape.opening_mem_compact _ _ _), slashed_group clear listed full.text
      (slashed_of_above full (clear.of_mem listed) (List.mem_append_right _ hn) inside)⟩
  | item listed _ ih =>
    obtain _ | ⟨_, _, populated⟩ := populated
    obtain ⟨text, slashed⟩ := ih (populated _ listed) (clear.of_mem listed) _
    exact ⟨List.ne_nil_of_mem (Shape.opening_mem_compact _ _ _), slashed_group clear listed text slashed⟩

/-- A slash that is looked at is in one of the items that the shape falls into. -/
theorem Shape.Marked.divide (marked : s.Marked) : ∃ p ∈ s.divide, p.Marked := by
  have comma : '/' ≠ ',' := by decide
  induction marked with
  | flat slash =>
    obtain ⟨part, listed, inside⟩ := mem_parts_iff.mpr ⟨slash, comma⟩
    exact ⟨.flat part, List.mem_map_of_mem listed, .flat inside⟩
  | @before before after items slash =>
    obtain ⟨front, last, first, back, ahead, _, divided⟩ := Shape.divide_group before after items
    obtain ⟨part, listed, inside⟩ := mem_parts_iff.mpr ⟨slash, comma⟩
    rw [ahead] at listed
    rw [divided]
    rcases List.mem_append.mp listed with listed | here
    · exact ⟨.flat part, List.mem_append_left _ (List.mem_map_of_mem listed), .flat inside⟩
    · rw [List.mem_singleton.mp here] at inside
      exact ⟨_, List.mem_append_right _ List.mem_cons_self, .before inside⟩
  | @item before after items s listed _ ih =>
    obtain ⟨front, last, first, back, _, _, divided⟩ := Shape.divide_group before after items
    obtain ⟨p, hp, mark⟩ := ih
    rw [divided]
    exact ⟨_, List.mem_append_right _ List.mem_cons_self,
      .item (List.mem_flatMap.mpr ⟨s, listed, hp⟩) mark⟩

end Marked

inductive Tree.Populated : Tree → Prop where
  | path {parents : List Name} {last : Name} : Populated (.path parents last)
  | glob {parents : List Name} : Populated (.glob parents)
  | group {parents : List Name} {items : List Tree} : items ≠ [] → (∀ item ∈ items, Populated item) →
      Populated (.group parents items)

section Trees

variable {inner here : Spacing} {t : Tree} {s : Shape} {above : List String}

theorem Shape.populated_of_flat {text : List Char} : ∀ p ∈ (Shape.flat text).divide, p.Populated := by
  intro p hp
  obtain ⟨part, _, rfl⟩ := List.mem_map.mp hp
  exact .flat

/-- A comment may swallow the name of an item, but then a part of the item holds the comment. -/
theorem Spelled.full_of_flat {text : List Char} (spelled : Spelled inner here t (.flat text))
    (within : ∀ g, inner.gap g → '/' ∉ g → Blank g) (around : ∀ g, here.gap g → '/' ∉ g → Blank g)
    (unbraced : (Shape.flat text).Unbraced) : ∃ p ∈ (Shape.flat text).divide, p.Full := by
  by_cases slash : '/' ∈ text
  · obtain ⟨part, listed, inside⟩ := mem_parts_iff.mpr ⟨slash, (by decide : '/' ≠ ',')⟩
    exact ⟨.flat part, List.mem_map_of_mem listed, .flat (List.ne_nil_of_mem (slash_compact inside))⟩
  · have loose := spelled.unmarked within around unbraced fun mark => slash (Shape.marked_flat.mp mark)
    rw [Shape.core] at loose
    obtain ⟨clear⟩ := loose.isClear looseSpacing_quiet looseSpacing_quiet
    rw [Shape.divide, clear.split]
    exact ⟨_, List.mem_singleton_self _, .flat (loose.item_text looseSpacing_quiet).1⟩

theorem Spelled.populated (spelled : Spelled inner here t s)
    (within : ∀ g, inner.gap g → '/' ∉ g → Blank g) (around : ∀ g, here.gap g → '/' ∉ g → Blank g)
    (unbraced : s.Unbraced) (populated : t.Populated) :
    (∃ p ∈ s.divide, p.Full) ∧ ∀ p ∈ s.divide, p.Populated := by
  induction spelled with
  | path written =>
    exact ⟨full_of_flat (.path written) within around unbraced, Shape.populated_of_flat⟩
  | glob written =>
    exact ⟨full_of_flat (.glob written) within around unbraced, Shape.populated_of_flat⟩
  | @group _ _ before after pairs trail _ _ trails _ ih =>
    obtain _ | ⟨_, unbraced, _⟩ := unbraced
    obtain _ | _ | ⟨some, populated⟩ := populated
    have items : ∀ p ∈ pairs, (∃ q ∈ p.2.divide, q.Full) ∧ ∀ q ∈ p.2.divide, q.Populated := fun p hp =>
      ih p hp within (unbraced _ (List.mem_append_left _ (List.mem_map_of_mem hp)))
        (populated _ (List.mem_map_of_mem hp))
    obtain ⟨p, hp⟩ := List.exists_mem_of_ne_nil pairs fun none => some (by rw [none]; rfl)
    obtain ⟨q, hq, leaf⟩ := (items p hp).1
    have listed : q ∈ (pairs.map Prod.snd ++ trail).flatMap Shape.divide :=
      List.mem_flatMap.mpr ⟨p.2, List.mem_append_left _ (List.mem_map_of_mem hp), hq⟩
    have every : ∀ q ∈ (pairs.map Prod.snd ++ trail).flatMap Shape.divide, q.Populated := by
      intro q hq
      obtain ⟨s, hs, inside⟩ := List.mem_flatMap.mp hq
      rcases List.mem_append.mp hs with item | last
      · obtain ⟨r, hr, rfl⟩ := List.mem_map.mp item
        exact (items r hr).2 q inside
      · cases trails with
        | nothing => cases last
        | gap =>
          rw [List.mem_singleton.mp last] at inside
          exact Shape.populated_of_flat q inside
    obtain ⟨front, last, first, back, _, _, divided⟩ :=
      Shape.divide_group before after (pairs.map Prod.snd ++ trail)
    rw [divided]
    refine ⟨⟨_, List.mem_append_right _ List.mem_cons_self, .group listed leaf⟩, ?_⟩
    intro r hr
    rcases List.mem_append.mp hr with hr | hr
    · obtain ⟨part, _, rfl⟩ := List.mem_map.mp hr
      exact .flat
    · rcases List.mem_cons.mp hr with rfl | hr
      · exact .group listed leaf every
      · obtain ⟨part, _, rfl⟩ := List.mem_map.mp hr
        exact .flat

/-- The tree itself has no comment around it, so it is one item. -/
theorem Spelled.divide_root (spelled : Spelled inner blankSpacing t s) : ∃ p, s.divide = [p] := by
  have gaps : ∀ g, Blank g → Clear g := fun _ => Blank.clear
  cases spelled with
  | path written =>
    have clear := written.clear gaps fun _ => EndsInName.clear gaps
    exact ⟨_, by rw [Shape.divide, clear.split]; rfl⟩
  | glob written =>
    have clear := written.clear gaps fun _ => EndsInStar.clear gaps
    exact ⟨_, by rw [Shape.divide, clear.split]; rfl⟩
  | group written _ _ behind =>
    have front := written.clear gaps gaps
    have back : Clear _ := gaps _ behind
    exact ⟨_, by rw [Shape.divide, front.split, back.split]; rfl⟩

theorem Name.no_slash (n : Name) : '/' ∉ n.text.toList := by
  intro slash
  rw [Name.text, String.toList_ofList] at slash
  exact absurd (n.word _ slash) (by decide)

theorem Spelled.not_slashed (spelled : Spelled inner here t s)
    (clean : ∀ name ∈ above, '/' ∉ name.toList) : ¬ Slashed (t.meaning above) := by
  have names : ∀ {above : List String} (parents : List Name), (∀ name ∈ above, '/' ∉ name.toList) →
      ∀ name ∈ above ++ parents.map Name.text, '/' ∉ name.toList := by
    intro above parents clean name hn
    rcases List.mem_append.mp hn with hn | hn
    · exact clean name hn
    · obtain ⟨n, _, rfl⟩ := List.mem_map.mp hn
      exact n.no_slash
  induction spelled generalizing above with
  | @path _ parents last =>
    rintro ⟨path, hp, name, hn, slash⟩
    have before := names parents clean
    rw [Tree.meaning] at hp
    split at hp
    · rw [List.mem_singleton.mp hp] at hn
      exact before name hn slash
    · rw [List.mem_singleton.mp hp] at hn
      rcases List.mem_append.mp hn with hn | hn
      · exact before name hn slash
      · rw [List.mem_singleton.mp hn] at slash
        exact last.no_slash slash
  | @glob _ parents =>
    rintro ⟨path, hp, name, hn, slash⟩
    rw [Tree.meaning] at hp
    split at hp
    · cases hp
    · rw [List.mem_singleton.mp hp] at hn
      exact names parents clean name hn slash
  | @group _ parents _ _ pairs _ _ _ _ _ ih =>
    rintro ⟨path, hp, rest⟩
    rw [Tree.meaning, Tree.meanings_eq_flatMap, List.mem_flatMap] at hp
    obtain ⟨t, ht, hp⟩ := hp
    obtain ⟨p, listed, rfl⟩ := List.mem_map.mp ht
    exact ih p listed (names parents clean) ⟨path, hp, rest⟩

end Trees

/-- Comments without braces, wherever they stand within the braces of a tree. If one of them is looked at,
which is everywhere but behind the closing braces of nested groups, the expansion is another one, unless the
tree has groups without items. If none is, the expansion is the same just if the parts that fall off behind
the groups, at commas of the comments there, contribute nothing. -/
theorem comments_matter_within_items (t : Tree) (plain s : Shape)
    (laid : Spelled blankSpacing blankSpacing t plain) (commented : Spelled commentSpacing blankSpacing t s)
    (placed : t.SelfPlaced []) (unbraced : s.Unbraced) :
    (¬ s.Marked → (expand (String.ofList s.text) = expand (String.ofList plain.text) ↔ ¬ s.Adds [])) ∧
    (t.Populated → s.Marked → expand (String.ofList s.text) ≠ expand (String.ofList plain.text)) := by
  have within : ∀ g, commentSpacing.gap g → '/' ∉ g → Blank g := fun _ => Commented.blank_of_not_mem
  have around : ∀ g, blankSpacing.gap g → '/' ∉ g → Blank g := fun _ blank _ => blank
  have meaning := leaves_spelled laid blankSpacing_quiet blankSpacing_quiet placed
  obtain ⟨p, single⟩ := commented.divide_root
  simp only [expand, String.toList_ofList, meaning]
  constructor
  · intro none
    have loose := commented.unmarked within around unbraced none
    rw [← leaves_spelled loose looseSpacing_quiet looseSpacing_quiet placed]
    exact Shape.leaves_core unbraced (loose.isClear looseSpacing_quiet looseSpacing_quiet) single
  · intro populated marked same
    have here : p ∈ s.divide := by rw [single]; exact List.mem_singleton_self p
    have clear := Shape.isClear_of_mem_divide unbraced p here
    have full := (commented.populated within around unbraced populated).2 p here
    have mark : p.Marked := by
      obtain ⟨q, hq, mark⟩ := marked.divide
      rw [single] at hq
      rwa [List.mem_singleton.mp hq] at mark
    have slashed := (slashed_of_marked mark full clear []).2
    rw [Shape.text_of_single unbraced single] at slashed
    unfold itemLeaves at slashed
    split at slashed
    · obtain ⟨_, hp, _⟩ := slashed
      cases hp
    · rw [same] at slashed
      exact laid.not_slashed (fun _ h => absurd h List.not_mem_nil) slashed

/-- Neither of two comments alone leaves the expansion as it is, and both together do. -/
example :
    expand "a::\x7bc::\x7bd\x7d, b\x7d" = [["a", "c", "d"], ["a", "b"]] ∧
    expand "a::\x7bc::\x7bd\x7d // , b\n, b\x7d" = [["a", "c", "d"], ["a", "b"], ["a", "b"]] ∧
    expand "a::\x7bc::\x7bd\x7d, /* \x7b\x7d */ b\x7d" = [["a", "c", "d"]] ∧
    expand "a::\x7bc::\x7bd\x7d // , b\n, /* \x7b\x7d */ b\x7d" = [["a", "c", "d"], ["a", "b"]] := by
  decide +kernel

section Store

/-- Two items on lines of their own. -/
def storeTree : Tree :=
  .group [named "crate".toList (by decide)]
    [.group [named "net".toList (by decide)] [.path [] (named "Client".toList (by decide))],
     .path [] (named "store".toList (by decide))]

/-- The tree on four lines, with something behind the group and the second item as it is written. -/
def storeShape (behind store : List Char) : Shape :=
  .group "crate::".toList
    [.group "\n  net::".toList [.flat "Client".toList] behind, .flat store, .flat "\n".toList] []

theorem storeShape_spelled {inner : Spacing} {behind store : List Char}
    (blanks : ∀ g, Blank g → inner.gap g) (last : inner.behind behind)
    (item : Written inner.gap (EndsInName inner.gap (named "store".toList (by decide))) [] store) :
    Spelled inner blankSpacing storeTree (storeShape behind store) := by
  have empty : Blank [] := by decide
  have crate : Written Blank Blank [named "crate".toList (by decide)] "crate::".toList :=
    .bare (.name empty empty (.ending empty))
  have net : Written inner.gap inner.gap [named "net".toList (by decide)] "\n  net::".toList :=
    .bare (.name (g := "\n  ".toList) (blanks _ (by decide)) (blanks _ empty) (.ending (blanks _ empty)))
  have client : Written inner.gap (EndsInName inner.gap (named "Client".toList (by decide))) []
      "Client".toList :=
    .bare (.ending ⟨[], [], blanks _ empty, .bare (blanks _ empty), rfl⟩)
  have group : Spelled inner inner
      (.group [named "net".toList (by decide)] [.path [] (named "Client".toList (by decide))])
      (.group "\n  net::".toList [.flat "Client".toList] behind) := by
    refine @Spelled.group _ _ _ _ _ [(_, .flat "Client".toList)] _ net ?_ .nothing last
    simp only [List.forall_mem_cons]
    exact ⟨.path client, fun _ h => absurd h List.not_mem_nil⟩
  refine @Spelled.group _ _ _ _ _ [(_, _), (_, .flat store)] _ crate ?_ (.gap (blanks _ (by decide))) empty
  simp only [List.forall_mem_cons]
  exact ⟨group, .path item, fun _ h => absurd h List.not_mem_nil⟩

def noteChars : List Char := " // a client\n".toList

theorem noteChars_commented : Commented noteChars :=
  .blank (by decide) (@Commented.line " a client".toList _ (by decide) .nothing)

def listChars : List Char := " // a client, or two\n".toList

theorem listChars_commented : Commented listChars :=
  .blank (by decide) (@Commented.line " a client, or two".toList _ (by decide) .nothing)

theorem plainStore_spelled :
    Spelled blankSpacing blankSpacing storeTree (storeShape [] "\n  store".toList) := by
  refine storeShape_spelled (fun _ blank => blank) (by decide : Blank []) ?_
  have indent : Blank "\n  ".toList := by decide
  exact .bare (.ending ⟨_, [], indent, .bare (by decide : Blank []), rfl⟩)

theorem notedStore_spelled :
    Spelled commentSpacing blankSpacing storeTree (storeShape [] (noteChars ++ "  store".toList)) := by
  refine storeShape_spelled (fun _ => Blank.commented) .nothing ?_
  refine .bare (.ending ⟨noteChars ++ "  ".toList, [], ?_, .bare .nothing, rfl⟩)
  have indent : Commented "  ".toList := Blank.commented (by decide)
  exact .blank (by decide) (@Commented.line " a client".toList _ (by decide) indent)

/-- The second item as it is, and comments behind the first one. -/
theorem commentedStore_spelled {behind : List Char} (commented : Commented behind) :
    Spelled commentSpacing blankSpacing storeTree (storeShape behind "  store".toList) := by
  refine storeShape_spelled (fun _ => Blank.commented) commented ?_
  exact .bare (.ending ⟨"  ".toList, [], Blank.commented (by decide), .bare .nothing, rfl⟩)

theorem storeTree_placed : storeTree.SelfPlaced [] := by
  refine .group ?_ fun _ _ _ => by decide
  simp only [List.forall_mem_cons]
  refine ⟨.group ?_ fun _ _ _ => by decide, .path, fun _ h => absurd h List.not_mem_nil⟩
  exact List.forall_mem_singleton.mpr .path

theorem storeTree_populated : storeTree.Populated := by
  refine .group (List.cons_ne_nil _ _) ?_
  simp only [List.forall_mem_cons]
  refine ⟨.group (List.cons_ne_nil _ _) ?_, .path, fun _ h => absurd h List.not_mem_nil⟩
  exact List.forall_mem_singleton.mpr .path

theorem storeShape_unbraced {behind store : List Char} (first : Unbraced behind) (last : Unbraced store) :
    (storeShape behind store).Unbraced := by
  refine .group (by decide) ?_ (by decide)
  simp only [List.forall_mem_cons]
  refine ⟨.group (by decide) ?_ first, .flat last, .flat (by decide), fun _ h => absurd h List.not_mem_nil⟩
  exact List.forall_mem_singleton.mpr (.flat (by decide))

theorem storeShape_unmarked (behind : List Char) : ¬ (storeShape behind "  store".toList).Marked := by
  simp only [storeShape, Shape.marked_group, Shape.marked_flat, List.exists_mem_cons_iff,
    List.not_mem_nil, false_and, exists_false]
  decide

/-- Behind the comma in front of it, a comment becomes a part of the name of an item. -/
theorem comment_becomes_name :
    Spelled blankSpacing blankSpacing storeTree (storeShape [] "\n  store".toList) ∧
    Spelled commentSpacing blankSpacing storeTree (storeShape [] (noteChars ++ "  store".toList)) ∧
    expand "crate::\x7b\n  net::\x7bClient\x7d,\n  store,\n\x7d" =
      [["crate", "net", "Client"], ["crate", "store"]] ∧
    expand "crate::\x7b\n  net::\x7bClient\x7d, // a client\n  store,\n\x7d" =
      [["crate", "net", "Client"], ["crate", "//aclientstore"]] ∧
    String.ofList (storeShape [] "\n  store".toList).text =
      "crate::\x7b\n  net::\x7bClient\x7d,\n  store,\n\x7d" ∧
    String.ofList (storeShape [] (noteChars ++ "  store".toList)).text =
      "crate::\x7b\n  net::\x7bClient\x7d, // a client\n  store,\n\x7d" :=
  ⟨plainStore_spelled, notedStore_spelled, by decide +kernel, by decide +kernel, by decide +kernel,
    by decide +kernel⟩

/-- In front of the comma, the same comment changes nothing; with a comma of its own, what stands behind that
is read as an item. -/
theorem moved_comment_is_harmless :
    let plain := storeShape [] "\n  store".toList
    let noted := storeShape [] (noteChars ++ "  store".toList)
    let moved := storeShape noteChars "  store".toList
    let listed := storeShape listChars "  store".toList
    Spelled commentSpacing blankSpacing storeTree moved ∧
    Spelled commentSpacing blankSpacing storeTree listed ∧ storeTree.SelfPlaced [] ∧
    storeTree.Populated ∧ moved.Unbraced ∧ noted.Unbraced ∧ listed.Unbraced ∧ ¬ moved.Marked ∧
    noted.Marked ∧ ¬ listed.Marked ∧ ¬ moved.Adds [] ∧ listed.Adds [] ∧
    expand (String.ofList moved.text) = expand (String.ofList plain.text) ∧
    expand (String.ofList noted.text) ≠ expand (String.ofList plain.text) ∧
    expand (String.ofList listed.text) ≠ expand (String.ofList plain.text) := by
  intro plain noted moved listed
  have marked : noted.Marked := .item (List.mem_cons_of_mem _ List.mem_cons_self) (.flat (by decide))
  have kept : ¬ moved.Adds [] := by
    simp only [moved, storeShape, Shape.adds_group, Shape.adds_flat, List.exists_mem_cons_iff,
      List.not_mem_nil, false_and, exists_false]
    decide
  have adds : listed.Adds [] := .item List.mem_cons_self
    (.behind (by decide : " or two\n".toList ∈ (Text.split ',' listChars).tail) (by decide +kernel))
  have movedSpelled := commentedStore_spelled noteChars_commented
  have listedSpelled := commentedStore_spelled listChars_commented
  have movedOpen := @storeShape_unbraced noteChars "  store".toList (by decide) (by decide)
  have notedOpen := @storeShape_unbraced [] (noteChars ++ "  store".toList) (by decide) (by decide)
  have listedOpen := @storeShape_unbraced listChars "  store".toList (by decide) (by decide)
  have same := (comments_matter_within_items _ _ _ plainStore_spelled movedSpelled storeTree_placed
    movedOpen).1 (storeShape_unmarked _)
  have other := (comments_matter_within_items _ _ _ plainStore_spelled notedStore_spelled storeTree_placed
    notedOpen).2 storeTree_populated marked
  have more := (comments_matter_within_items _ _ _ plainStore_spelled listedSpelled storeTree_placed
    listedOpen).1 (storeShape_unmarked _)
  exact ⟨movedSpelled, listedSpelled, storeTree_placed, storeTree_populated, movedOpen, notedOpen,
    listedOpen, storeShape_unmarked _, marked, storeShape_unmarked _, kept, adds, same.mpr kept, other,
    fun equal => more.mp equal adds⟩

end Store

end SourceAtlas.UseTree
