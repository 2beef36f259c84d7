import SourceAtlas.Proofs.Path
import SourceAtlas.Proofs.UseTree.Meaning

/-! Shapes whose flat texts hold commas. The expansion divides them there as well: a shape falls into several
items, and those hold no comma any more. Only behind the closing brace of a group is a comma harmless, and
only if the parts behind it contribute nothing to the group around. -/
namespace SourceAtlas.UseTree

section Joining

variable {α : Type} {sep : List α}

theorem joinWith_cons {parts : List (List α)} (some : parts ≠ []) (part : List α) :
    Text.joinWith sep (part :: parts) = part ++ sep ++ Text.joinWith sep parts := by
  obtain ⟨next, more, rfl⟩ := List.exists_cons_of_ne_nil some
  rfl

theorem joinWith_append {first second : List (List α)} (some : first ≠ []) (more : second ≠ []) :
    Text.joinWith sep (first ++ second) = Text.joinWith sep first ++ sep ++ Text.joinWith sep second := by
  induction first with
  | nil => exact absurd rfl some
  | cons part rest ih =>
    by_cases last : rest = []
    · subst last
      exact joinWith_cons more part
    · have both : rest ++ second ≠ [] := List.append_ne_nil_of_left_ne_nil last second
      rw [List.cons_append, joinWith_cons both, ih last, joinWith_cons last]
      simp only [List.append_assoc]

/-- Parts that are joined themselves. -/
theorem joinWith_flatMap {β : Type} {f : β → List (List α)} {xs : List β} (full : ∀ x ∈ xs, f x ≠ []) :
    Text.joinWith sep (xs.flatMap f) = Text.joinWith sep (xs.map fun x => Text.joinWith sep (f x)) := by
  induction xs with
  | nil => rfl
  | cons x rest ih =>
    have here := full x List.mem_cons_self
    have later := ih fun y hy => full y (List.mem_cons_of_mem _ hy)
    by_cases last : rest = []
    · subst last
      simp [Text.joinWith]
    · have more : rest.flatMap f ≠ [] := by
        obtain ⟨y, hy⟩ := List.exists_mem_of_ne_nil rest last
        exact fun none => full y (List.mem_cons_of_mem _ hy) (List.flatMap_eq_nil_iff.mp none y hy)
      rw [List.flatMap_cons, joinWith_append here more, later, List.map_cons, joinWith_cons (by simpa)]

/-- The last part in front and the first one behind go together with what stands between them. -/
theorem joinWith_fuse (front back : List (List α)) (last inside first : List α) :
    Text.joinWith sep (front ++ (last ++ inside ++ first) :: back) =
      Text.joinWith sep (front ++ [last]) ++ inside ++ Text.joinWith sep (first :: back) := by
  have behind : Text.joinWith sep ((last ++ inside ++ first) :: back) =
      last ++ inside ++ Text.joinWith sep (first :: back) := by
    cases back with
    | nil => rfl
    | cons next more => simp [Text.joinWith]
  by_cases none : front = []
  · subst none
    exact behind
  · rw [joinWith_append none (List.cons_ne_nil _ _), joinWith_append none (List.cons_ne_nil _ _), behind]
    simp [Text.joinWith]

variable [DecidableEq α]

theorem mem_parts_iff {a c : α} {cs : List α} :
    (∃ part ∈ Text.split a cs, c ∈ part) ↔ c ∈ cs ∧ c ≠ a := by
  induction cs with
  | nil => simp [Text.split]
  | cons d rest ih =>
    obtain ⟨part, more, parts⟩ := List.exists_cons_of_ne_nil (Text.split_ne_nil a rest)
    rw [parts, List.exists_mem_cons_iff] at ih
    rw [Text.split_cons, parts, List.mem_cons, or_and_right]
    split
    · next same =>
      rw [List.exists_mem_cons_iff, List.exists_mem_cons_iff, ih, or_iff_right List.not_mem_nil,
        or_iff_right fun here : c = d ∧ c ≠ a => here.2 (here.1.trans same)]
    · next other =>
      have here : c = d ∧ c ≠ a ↔ c = d := and_iff_left_of_imp fun same => same ▸ other
      rw [List.exists_mem_cons_iff, List.mem_cons, or_assoc, ih, here]

end Joining

section Sublists

variable {α β : Type} {xs : List α} {f g : α → List β} {as bs cs ds : List β}

theorem append_eq_iff_of_sublist (first : as.Sublist bs) (second : cs.Sublist ds) :
    bs ++ ds = as ++ cs ↔ bs = as ∧ ds = cs := by
  constructor
  · intro same
    have lengths := congrArg List.length same
    have short := first.length_le
    have low := second.length_le
    simp only [List.length_append] at lengths
    exact ⟨(first.eq_of_length (by omega)).symm, (second.eq_of_length (by omega)).symm⟩
  · rintro ⟨rfl, rfl⟩
    rfl

theorem flatMap_sublist (each : ∀ x ∈ xs, (f x).Sublist (g x)) : (xs.flatMap f).Sublist (xs.flatMap g) := by
  induction xs with
  | nil => exact .refl _
  | cons x rest ih =>
    exact (each x List.mem_cons_self).append (ih fun y hy => each y (List.mem_cons_of_mem _ hy))

theorem flatMap_eq_iff_of_sublist (each : ∀ x ∈ xs, (f x).Sublist (g x)) :
    xs.flatMap g = xs.flatMap f ↔ ∀ x ∈ xs, g x = f x := by
  induction xs with
  | nil => simp
  | cons x rest ih =>
    have later : ∀ y ∈ rest, (f y).Sublist (g y) := fun y hy => each y (List.mem_cons_of_mem _ hy)
    rw [List.flatMap_cons, List.flatMap_cons,
      append_eq_iff_of_sublist (each x List.mem_cons_self) (flatMap_sublist later), ih later,
      List.forall_mem_cons]

end Sublists

/-- Free of braces. -/
def Unbraced (cs : List Char) : Prop := ∀ c ∈ cs, c ≠ Text.openBrace ∧ c ≠ Text.closeBrace

instance (cs : List Char) : Decidable (Unbraced cs) :=
  List.decidableBAll (fun c => c ≠ Text.openBrace ∧ c ≠ Text.closeBrace) cs

theorem Unbraced.clear {cs part : List Char} (unbraced : Unbraced cs) (listed : part ∈ Text.split ',' cs) :
    Clear part := by
  intro c hc
  obtain ⟨inside, other⟩ := mem_parts_iff.mp ⟨part, listed, hc⟩
  obtain ⟨opening, closing⟩ := unbraced c inside
  simp [dividers, other, opening, closing]

theorem Clear.split {cs : List Char} (clear : Clear cs) : Text.split ',' cs = [cs] :=
  Text.split_of_not_mem fun comma => clear _ comma (by decide)

namespace Shape

inductive Unbraced : Shape → Prop where
  | flat {text : List Char} : UseTree.Unbraced text → Unbraced (.flat text)
  | group {before after : List Char} {items : List Shape} : UseTree.Unbraced before →
      (∀ s ∈ items, Unbraced s) → UseTree.Unbraced after → Unbraced (.group before items after)

mutual

/-- The items that the text of a shape falls into. -/
def divide : Shape → List Shape
  | .flat text => (Text.split ',' text).map .flat
  | .group before items after =>
    let front := Text.split ',' before
    let back := Text.split ',' after
    front.dropLast.map .flat ++
      .group (front.getLastD []) (divides items) (back.headD []) :: back.tail.map .flat

def divides : List Shape → List Shape
  | [] => []
  | s :: rest => s.divide ++ divides rest

end

mutual

/-- The shape without the parts behind its groups that fall off. -/
def core : Shape → Shape
  | .flat text => .flat text
  | .group before items after => .group before (cores items) ((Text.split ',' after).headD [])

def cores : List Shape → List Shape
  | [] => []
  | s :: rest => s.core :: cores rest

end

theorem divides_eq_flatMap (items : List Shape) : divides items = items.flatMap divide := by
  induction items with
  | nil => rfl
  | cons s rest ih => rw [divides, ih, List.flatMap_cons]

theorem cores_eq_map (items : List Shape) : cores items = items.map core := by
  induction items with
  | nil => rfl
  | cons s rest ih => rw [cores, ih, List.map_cons]

theorem divide_ne_nil (s : Shape) : s.divide ≠ [] := by
  cases s with
  | flat text => simpa [divide] using Text.split_ne_nil ',' text
  | group before items after => simp [divide]

variable {s : Shape} {above : List String} {before after : List Char} {items : List Shape}

/-- A shape falls into its groups and flat parts around them. -/
theorem divide_group (before after : List Char) (items : List Shape) : ∃ front last first back,
    Text.split ',' before = front ++ [last] ∧ Text.split ',' after = first :: back ∧
    (Shape.group before items after).divide =
      front.map .flat ++ .group last (items.flatMap divide) first :: back.map .flat := by
  obtain none | ⟨front, last, ahead⟩ := (Text.split ',' before).eq_nil_or_concat
  · exact absurd none (Text.split_ne_nil ',' before)
  · obtain ⟨first, back, behind⟩ := List.exists_cons_of_ne_nil (Text.split_ne_nil ',' after)
    rw [List.concat_eq_append] at ahead
    refine ⟨front, last, first, back, ahead, behind, ?_⟩
    simp [divide, ahead, behind, divides_eq_flatMap]

theorem text_divide (unbraced : s.Unbraced) : Text.joinWith [','] (s.divide.map text) = s.text := by
  have flat : ∀ parts : List (List Char), (parts.map Shape.flat).map text = parts := fun parts => by
    rw [List.map_map]
    exact List.map_id'' (fun _ => rfl) parts
  induction unbraced with
  | flat => rw [divide, flat, Text.joinWith_split, text]
  | @group before after items _ _ _ ih =>
    obtain ⟨front, last, first, back, ahead, behind, divided⟩ := divide_group before after items
    have inside : Text.joinWith [','] ((items.flatMap divide).map text) =
        Text.joinWith [','] (items.map text) := by
      rw [List.map_flatMap, joinWith_flatMap fun s _ none => divide_ne_nil s (List.map_eq_nil_iff.mp none)]
      exact congrArg _ (List.map_congr_left ih)
    rw [divided, List.map_append, List.map_cons, flat, flat, text, texts_eq_map, inside, joinWith_fuse,
      ← ahead, ← behind, Text.joinWith_split, Text.joinWith_split, text, texts_eq_map]

theorem isClear_of_mem_divide (unbraced : s.Unbraced) : ∀ p ∈ s.divide, p.IsClear := by
  induction unbraced with
  | flat unbraced =>
    intro p hp
    obtain ⟨part, listed, rfl⟩ := List.mem_map.mp hp
    exact .flat (unbraced.clear listed)
  | @group before after items ahead _ behind ih =>
    obtain ⟨front, last, first, back, parts, rest, divided⟩ := divide_group before after items
    rw [divided]
    intro p hp
    rcases List.mem_append.mp hp with hp | hp
    · obtain ⟨part, listed, rfl⟩ := List.mem_map.mp hp
      exact .flat (ahead.clear (parts ▸ List.mem_append_left _ listed))
    · rcases List.mem_cons.mp hp with rfl | hp
      · refine .group (ahead.clear (parts ▸ by simp)) ?_ (behind.clear (rest ▸ List.mem_cons_self))
        intro item listed
        obtain ⟨s, hs, hi⟩ := List.mem_flatMap.mp listed
        exact ih s hs item hi
      · obtain ⟨part, listed, rfl⟩ := List.mem_map.mp hp
        exact .flat (behind.clear (rest ▸ List.mem_cons_of_mem _ listed))

/-- What an item contributes to the group around it. -/
def paths (above : List String) (s : Shape) : List (List String) :=
  if compact s.text = [] then [] else itemLeaves above (compact s.text)

theorem itemLeaves_of_mem {c : Char} {item : List Char} (h : c ∈ item) (other : c ∉ "self".toList) :
    itemLeaves above item = leaves above item := by
  refine itemLeaves_eq ?_
  rintro rfl
  exact absurd h other

theorem opening_mem_compact (before after : List Char) (items : List Shape) :
    Text.openBrace ∈ compact (Shape.group before items after).text := by
  rw [compact_group]
  simp

theorem paths_eq_leaves (before after : List Char) (items : List Shape) :
    (Shape.group before items after).paths above =
      leaves above (compact (Shape.group before items after).text) := by
  have opening := opening_mem_compact before after items
  rw [paths, if_neg (List.ne_nil_of_mem opening), itemLeaves_of_mem opening (by decide)]

theorem paths_group (clear : (Shape.group before items after).IsClear) :
    (Shape.group before items after).paths above =
      items.flatMap (paths (above ++ segments (compact before))) := by
  have kept : ∀ (parts : List (List Char)) (f : List Char → List (List String)),
      (parts.filter (· ≠ [])).flatMap f = parts.flatMap fun part => if part = [] then [] else f part := by
    intro parts f
    induction parts with
    | nil => rfl
    | cons part rest ih =>
      by_cases none : part = []
      · rw [List.filter_cons_of_neg (by simp [none]), ih, List.flatMap_cons, if_pos none, List.nil_append]
      · rw [List.filter_cons_of_pos (by simp [none]), List.flatMap_cons, ih, List.flatMap_cons, if_neg none]
  rw [paths_eq_leaves, leaves_group clear, kept, List.flatMap_map]
  rfl

/-- A part that falls off behind a group contributes something. -/
inductive Adds : List String → Shape → Prop where
  | behind {above : List String} {before after part : List Char} {items : List Shape} :
      part ∈ (Text.split ',' after).tail → (Shape.flat part).paths above ≠ [] →
      Adds above (.group before items after)
  | item {above : List String} {before after : List Char} {items : List Shape} {s : Shape} :
      s ∈ items → Adds (above ++ segments (compact before)) s → Adds above (.group before items after)

theorem adds_flat {text : List Char} : ¬ (Shape.flat text).Adds above := by
  rintro ⟨⟩

theorem adds_group : (Shape.group before items after).Adds above ↔
    (∃ part ∈ (Text.split ',' after).tail, (Shape.flat part).paths above ≠ []) ∨
      ∃ s ∈ items, s.Adds (above ++ segments (compact before)) := by
  constructor
  · intro adds
    cases adds with
    | behind listed some => exact .inl ⟨_, listed, some⟩
    | item listed adds => exact .inr ⟨_, listed, adds⟩
  · rintro (⟨part, listed, some⟩ | ⟨s, listed, adds⟩)
    · exact .behind listed some
    · exact .item listed adds

/-- The parts that fall off come between the paths of the rest, and there are none only if they contribute
nothing. -/
theorem paths_divide (unbraced : s.Unbraced) (clear : s.core.IsClear) (above : List String) :
    (s.core.paths above).Sublist (s.divide.flatMap (paths above)) ∧
      (s.divide.flatMap (paths above) = s.core.paths above ↔ ¬ s.Adds above) := by
  induction unbraced generalizing above with
  | @flat text =>
    obtain ⟨clear⟩ := clear
    have alone : (Shape.flat text).divide.flatMap (paths above) = (Shape.flat text).core.paths above := by
      rw [divide, clear.split]
      simp [core]
    rw [alone]
    exact ⟨.refl _, iff_of_true rfl adds_flat⟩
  | @group before after items ahead inside behind ih =>
    have parts := isClear_of_mem_divide (.group ahead inside behind)
    obtain ⟨front, last, first, back, front', back', divided⟩ := divide_group before after items
    have rest : (Shape.group before items after).core = .group before (items.map core) first := by
      rw [core, cores_eq_map, back', List.headD_cons]
    rw [rest] at clear
    have clearBefore : Clear before := by
      obtain _ | ⟨clear, _, _⟩ := clear
      exact clear
    rw [clearBefore.split] at front'
    obtain ⟨rfl, rfl⟩ : front = [] ∧ last = before := by
      cases front with
      | nil => exact ⟨rfl, (List.singleton_inj.mp front').symm⟩
      | cons => simp at front'
    rw [List.map_nil, List.nil_append] at divided
    rw [divided] at parts
    have items' : ∀ s ∈ items, _ := fun s hs =>
      ih s hs (clear.of_mem (List.mem_map_of_mem hs)) (above ++ segments (compact last))
    rw [divided, List.flatMap_cons, paths_group (parts _ List.mem_cons_self), List.flatMap_assoc, rest,
      paths_group clear, List.flatMap_map]
    have sub := flatMap_sublist fun s hs => (items' s hs).1
    refine ⟨sub.trans (List.sublist_append_left _ _), ?_⟩
    have both := append_eq_iff_of_sublist sub (List.nil_sublist ((back.map Shape.flat).flatMap (paths above)))
    rw [List.append_nil] at both
    rw [both, flatMap_eq_iff_of_sublist fun s hs => (items' s hs).1, adds_group, back', List.tail_cons,
      List.flatMap_map, List.flatMap_eq_nil_iff, not_or, and_comm]
    simp only [not_exists, not_and, not_not]
    exact and_congr_right' (forall₂_congr fun s hs => (items' s hs).2)

section Single

variable {p : Shape}

theorem text_of_single (unbraced : s.Unbraced) (single : s.divide = [p]) : p.text = s.text := by
  have whole := text_divide unbraced
  rwa [single] at whole

/-- The same for a tree that is not within a group. -/
theorem leaves_core (unbraced : s.Unbraced) (clear : s.core.IsClear) (single : s.divide = [p]) :
    leaves above (compact s.text) = leaves above (compact s.core.text) ↔ ¬ s.Adds above := by
  cases s with
  | flat text => exact iff_of_true rfl adds_flat
  | group before after items =>
    have paths := (paths_divide unbraced clear above).2
    rw [single, List.flatMap_singleton, Shape.paths, text_of_single unbraced single] at paths
    rw [core, ← paths_eq_leaves, ← paths_eq_leaves]
    exact paths

end Single

end Shape

end SourceAtlas.UseTree
