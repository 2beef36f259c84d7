import SourceAtlas.Proofs.Resolve.Package

/-! Absolute Python imports. The name of a module is read as the names between its dots, however many dots
there are. It leads to the longest of its prefixes that has a module: beside the importing file if any has one
there, else from the root of the tree; a name without a module in either place is of something outside. -/
namespace SourceAtlas

namespace Resolver

variable {r : Resolver} {listing names dotted : List String} {dir origin module path : String}

section Names

/-- The text is made up of the names, with dots between them and any number of dots more. -/
inductive Dotted : List String → List Char → Prop where
  | empty : Dotted [] []
  | dot {names : List String} {text : List Char} : Dotted names text → Dotted names ('.' :: text)
  | last {name : String} : name ≠ "" → '.' ∉ name.toList → Dotted [name] name.toList
  | name {name : String} {names : List String} {text : List Char} : name ≠ "" → '.' ∉ name.toList →
      Dotted names text → Dotted (name :: names) (name.toList ++ '.' :: text)

/-- The parts of a text between dots, the empty ones left out. -/
def dottedParts (text : List Char) : List String :=
  ((Text.split '.' text).filter (· ≠ [])).map String.ofList

theorem dottedParts_of_not_mem {part : List Char} (full : part ≠ []) (clear : '.' ∉ part) :
    dottedParts part = [String.ofList part] := by
  simp [dottedParts, Text.split_of_not_mem clear, full]

theorem dottedParts_dot (text : List Char) : dottedParts ('.' :: text) = dottedParts text := by
  simp [dottedParts, Text.split_cons]

theorem dottedParts_append {part : List Char} (full : part ≠ []) (clear : '.' ∉ part) (text : List Char) :
    dottedParts (part ++ '.' :: text) = String.ofList part :: dottedParts text := by
  simp [dottedParts, Text.split_append, Text.split_of_not_mem clear, full]

theorem Dotted.parts_eq {text : List Char} (written : Dotted names text) : dottedParts text = names := by
  induction written with
  | empty => rfl
  | dot _ ih => rw [dottedParts_dot, ih]
  | last full clear =>
    rw [dottedParts_of_not_mem (by simpa using full) clear, String.ofList_toList]
  | name full clear _ ih =>
    rw [dottedParts_append (by simpa using full) clear, String.ofList_toList, ih]

theorem dotted_parts (text : List Char) : Dotted (dottedParts text) text := by
  -- On the length: what is behind the first dot is shorter.
  induction size : text.length using Nat.strong_induction_on generalizing text with
  | _ n ih =>
    have named : ∀ {part : List Char}, part ≠ [] → '.' ∉ part →
        String.ofList part ≠ "" ∧ '.' ∉ (String.ofList part).toList := by
      intro part full clear
      exact ⟨by simpa using full, by simpa using clear⟩
    by_cases dot : '.' ∈ text
    · obtain ⟨part, behind, rfl, clear⟩ := List.eq_append_cons_of_mem dot
      have shorter : behind.length < n := by
        simp only [List.length_append, List.length_cons] at size
        omega
      have rest := ih behind.length shorter behind rfl
      by_cases full : part = []
      · rw [full, List.nil_append, dottedParts_dot]
        exact .dot rest
      · obtain ⟨some, clear'⟩ := named full clear
        rw [dottedParts_append full clear]
        simpa using Dotted.name some clear' rest
    · by_cases full : text = []
      · rw [full]
        exact .empty
      · obtain ⟨some, clear⟩ := named full dot
        rw [dottedParts_of_not_mem full dot]
        simpa using Dotted.last some clear

theorem dottedNames_eq_iff : dottedNames module = names ↔ Dotted names module.toList := by
  constructor
  · rintro rfl
    exact dotted_parts module.toList
  · exact Dotted.parts_eq

theorem Dotted.full {text : List Char} (written : Dotted names text) : ∀ name ∈ names, name ≠ "" := by
  induction written with
  | empty => exact fun _ h => absurd h List.not_mem_nil
  | dot _ ih => exact ih
  | last full => exact List.forall_mem_singleton.mpr full
  | name full _ _ ih => exact List.forall_mem_cons.mpr ⟨full, ih⟩

end Names

section Search

/-- The answer of a search in a directory: of the prefixes of the name that have a module there, the file of
the longest. -/
inductive LongestModule (listing : List String) (dir : String) (dotted : List String) : Option String → Prop where
  | found {names : List String} {path : String} : names <+: dotted → names ≠ [] →
      PythonModule listing (modulePlace dir names) path →
      (∀ longer other, longer <+: dotted → longer ≠ [] →
        PythonModule listing (modulePlace dir longer) other → longer.length ≤ names.length) →
      LongestModule listing dir dotted (some path)
  | none : (∀ names path, names <+: dotted → names ≠ [] →
      ¬ PythonModule listing (modulePlace dir names) path) → LongestModule listing dir dotted none

theorem PythonModule.unique {place other : String} (one : PythonModule listing place path)
    (two : PythonModule listing place other) : path = other := by
  let r : Resolver := ⟨listing, .empty⟩
  have found : r.pythonModule place [] = some path := pythonModule_eq_some_iff.mpr one
  rw [pythonModule_eq_some_iff.mpr two] at found
  exact (Option.some.inj found).symm

theorem LongestModule.unique {one two : Option String} (first : LongestModule listing dir dotted one)
    (second : LongestModule listing dir dotted two) : one = two := by
  cases first with
  | none none =>
    cases second with
    | none => rfl
    | found along some module => exact absurd module (none _ _ along some)
  | @found names path along some module longest =>
    cases second with
    | none none => exact absurd module (none _ _ along some)
    | @found names' path' along' some' module' longest' =>
      have size := Nat.le_antisymm (longest' _ _ along some module) (longest _ _ along' some' module')
      obtain rfl : names = names' :=
        (List.prefix_of_prefix_length_le along along' size.le).eq_of_length size
      rw [module.unique module']

/-- One prefix more to try, and it has no module. -/
theorem LongestModule.extend {most : Nat} {answer : Option String}
    (shorter : LongestModule listing dir (dotted.take most) answer)
    (none : ∀ path, ¬ PythonModule listing (modulePlace dir (dotted.take (most + 1))) path) :
    LongestModule listing dir (dotted.take (most + 1)) answer := by
  have within : ∀ {names path}, names <+: dotted.take (most + 1) →
      PythonModule listing (modulePlace dir names) path → names <+: dotted.take most := by
    intro names path along module
    obtain ⟨whole, fits⟩ := List.prefix_take_iff.mp along
    refine List.prefix_take_iff.mpr ⟨whole, Nat.le_of_not_lt fun above => none path ?_⟩
    have size : names.length = most + 1 := by omega
    rwa [List.prefix_iff_eq_take.mp whole, size] at module
  cases shorter with
  | found along some module longest =>
    refine .found (along.trans (List.take_prefix_take_left (Nat.le_succ most))) some module ?_
    intro longer other along' some' module'
    exact longest longer other (within along' module') some' module'
  | none nothing =>
    exact .none fun names path along some module => nothing names path (within along module) some module

theorem pythonModule_place (r : Resolver) (dir path : String) (full : ∀ name ∈ names, name ≠ "")
    (some : names ≠ []) :
    r.pythonModule dir names = .some path ↔ PythonModule r.listing (modulePlace dir names) path := by
  have first : names.head? ≠ .some "" := fun head => full "" (List.mem_of_mem_head? head) rfl
  rw [pythonModule_eq_some_iff, Path.foldl_child (.inr first) some, modulePlace]

theorem longestModule_take (r : Resolver) (dir : String) (full : ∀ name ∈ dotted, name ≠ "")
    (some : dotted ≠ []) (most : Nat) :
    LongestModule r.listing dir (dotted.take most) (r.longestModule dir dotted most) := by
  -- On the number of names that a prefix may have; the longest prefix is tried first.
  induction most with
  | zero =>
    refine .none fun names _ along some => absurd ?_ some
    exact List.prefix_nil.mp along
  | succ most ih =>
    have taken : dotted.take (most + 1) ≠ [] := by simpa using some
    have place := fun path => r.pythonModule_place dir path
      (fun name h => full name (List.mem_of_mem_take h)) taken
    rw [longestModule]
    split
    · next path found =>
      exact .found (List.prefix_refl _) taken ((place path).mp found) fun longer _ along _ _ => along.length_le
    · next none =>
      refine ih.extend fun path module => ?_
      rw [(place path).mpr module] at none
      cases none

theorem longestModule_longest (r : Resolver) (dir : String) (full : ∀ name ∈ dotted, name ≠ "")
    (some : dotted ≠ []) : LongestModule r.listing dir dotted (r.longestModule dir dotted dotted.length) := by
  simpa using r.longestModule_take dir full some dotted.length

end Search

/-- What an absolute import in the file is resolved to. -/
inductive AbsoluteLeads (listing : List String) (origin : String) : List String → Resolution → Prop where
  | beside {dotted : List String} {path : String} :
      LongestModule listing (Path.parent origin) dotted (some path) →
      AbsoluteLeads listing origin dotted (.internal path)
  | root {dotted : List String} {path : String} :
      LongestModule listing (Path.parent origin) dotted none →
      LongestModule listing "" dotted (some path) → AbsoluteLeads listing origin dotted (.internal path)
  | outside {top : String} {rest : List String} :
      LongestModule listing (Path.parent origin) (top :: rest) none →
      LongestModule listing "" (top :: rest) none →
      AbsoluteLeads listing origin (top :: rest) (.external top)

theorem AbsoluteLeads.unique {one two : Resolution} (first : AbsoluteLeads listing origin dotted one)
    (second : AbsoluteLeads listing origin dotted two) : one = two := by
  cases first with
  | beside found =>
    cases second with
    | beside found' => rw [Option.some.inj (found.unique found')]
    | root none => cases found.unique none
    | outside none => cases found.unique none
  | root none found =>
    cases second with
    | beside found' => cases none.unique found'
    | root _ found' => rw [Option.some.inj (found.unique found')]
    | outside _ none' => cases found.unique none'
  | outside none none' =>
    cases second with
    | beside found => cases none.unique found
    | root _ found => cases none'.unique found
    | outside => rfl

theorem absoluteImport_leads (r : Resolver) (origin : String) (full : ∀ name ∈ dotted, name ≠ "")
    (some : dotted ≠ []) : ∃ answer, r.absoluteImport origin dotted = [answer] ∧
      AbsoluteLeads r.listing origin dotted answer := by
  have beside := r.longestModule_longest (Path.parent origin) full some
  have root := r.longestModule_longest "" full some
  obtain ⟨top, rest, rfl⟩ := List.exists_cons_of_ne_nil some
  rw [absoluteImport]
  split
  · next path found => exact ⟨_, rfl, .beside (found ▸ beside)⟩
  · next none =>
    split
    · next path found => exact ⟨_, rfl, .root (none ▸ beside) (found ▸ root)⟩
    · next none' => exact ⟨_, rfl, .outside (none ▸ beside) (none' ▸ root)⟩

theorem resolve_absolute (r : Resolver) (origin : String) (written : Dotted dotted module.toList)
    (imported : List String) :
    r.resolve origin (.pythonImport module imported 0) = r.absoluteImport origin dotted := by
  rw [← dottedNames_eq_iff.mpr written]
  rfl

/-- Every text is made up of some names in one way, and they alone decide: an absolute import has one answer,
and that is where its names lead. -/
theorem absolute_imports_lead_to_longest (r : Resolver) (origin module : String) (imported : List String) :
    (∃! dotted, Dotted dotted module.toList) ∧
    ∀ dotted, Dotted dotted module.toList →
      (dotted ≠ [] → ∀ answers, r.resolve origin (.pythonImport module imported 0) = answers ↔
        ∃ answer, answers = [answer] ∧ AbsoluteLeads r.listing origin dotted answer) ∧
      ∀ other : String, Dotted dotted other.toList →
        r.resolve origin (.pythonImport other imported 0) =
          r.resolve origin (.pythonImport module imported 0) := by
  refine ⟨⟨_, dottedNames_eq_iff.mp rfl, fun names written => (dottedNames_eq_iff.mpr written).symm⟩, ?_⟩
  intro dotted written
  refine ⟨fun some answers => ?_, fun other alike => ?_⟩
  · obtain ⟨answer, only, leads⟩ := r.absoluteImport_leads origin written.full some
    rw [r.resolve_absolute origin written, only]
    constructor
    · rintro rfl
      exact ⟨answer, rfl, leads⟩
    · rintro ⟨given, rfl, leads'⟩
      rw [leads.unique leads']
  · rw [r.resolve_absolute origin written, r.resolve_absolute origin alike]

/-- A module of the tree, and a package beside the importing file that is called as its first name. -/
def sharedResolver : Resolver :=
  ⟨["api/shared/__init__.py", "api/stories.py", "shared/auth.py", "shared/store.pyi"], .empty⟩

/-- What is beside the file comes first, even if a longer prefix has a module from the root. -/
theorem shared_imports_lead_to_longest :
    Dotted ["shared", "auth", "tokens"] ".shared..auth.tokens.".toList ∧
    AbsoluteLeads sharedResolver.listing "api/stories.py" ["shared", "auth", "tokens"]
      (.internal "api/shared/__init__.py") ∧
    AbsoluteLeads sharedResolver.listing "web/app.py" ["shared", "auth", "tokens"]
      (.internal "shared/auth.py") ∧
    sharedResolver.resolve "web/app.py" (.pythonImport ".shared..auth.tokens." ["Token"] 0) =
      sharedResolver.resolve "web/app.py" (.pythonImport "shared.auth.tokens" ["Token"] 0) := by
  have written : Dotted ["shared", "auth", "tokens"] ".shared..auth.tokens.".toList :=
    dottedNames_eq_iff.mp (by decide +kernel)
  have plain : Dotted ["shared", "auth", "tokens"] "shared.auth.tokens".toList :=
    dottedNames_eq_iff.mp (by decide +kernel)
  have leads : ∀ origin path, sharedResolver.resolve origin (.pythonImport "shared.auth.tokens" ["Token"] 0) =
      [.internal path] → AbsoluteLeads sharedResolver.listing origin ["shared", "auth", "tokens"]
        (.internal path) := by
    intro origin path found
    obtain ⟨answer, same, leads⟩ := (((absolute_imports_lead_to_longest sharedResolver origin
      "shared.auth.tokens" ["Token"]).2 _ plain).1 (by decide) _).mp found
    rwa [List.singleton_inj.mp same]
  exact ⟨written, leads _ _ (by decide +kernel), leads _ _ (by decide +kernel),
    ((absolute_imports_lead_to_longest sharedResolver "web/app.py" "shared.auth.tokens" ["Token"]).2 _
      plain).2 _ written⟩

end Resolver

end SourceAtlas
