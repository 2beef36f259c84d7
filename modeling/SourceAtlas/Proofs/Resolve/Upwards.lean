import SourceAtlas.Proofs.Resolve.Child

/-! Paths that lead upwards. Each `super` in front leaves one module, and the names behind lead on from there.
Behind `self` no module is left: there `super` is the name of a child, which no module has. So a path with both
comes back to the module of its file, where the same path without `self` leads into other modules or, above the
root of the crate, nowhere. -/
namespace SourceAtlas.Resolver

variable {r : Resolver} {listing names parts base tail behind rest more : List String}
variable {file src path first other : String} {answer answer' : Resolution}

theorem StandsFor.subset (stands : StandsFor parts names) : names ⊆ parts := by
  cases stands with
  | root => exact List.nil_subset _
  | directory => exact List.subset_append_left _ _
  | file => exact List.Subset.refl _

theorem ModuleOf.clear (module : ModuleOf src file names) : ∀ name ∈ names, '/' ∉ name.toList := by
  obtain ⟨parts, _, _, _, clear, _, stands⟩ := module
  exact fun name listed => clear name (stands.subset listed)

theorem ModuleFile.listed (module : ModuleFile listing src names path) : path ∈ listing := by
  cases module <;> assumption

theorem ModuleFile.starts (full : src ≠ "")
    (module : ModuleFile listing src (base ++ first :: more) path) :
    (Path.child (base.foldl Path.child src) first).toList <+: path.toList := by
  obtain ⟨parts, of, rfl⟩ := module.exists_parts full
  have inner := foldl_child_ne full base
  rcases of.below with ⟨_, rfl⟩ | ⟨tail, some, rfl⟩
  · have ending : Path.child (base.foldl Path.child src) (first ++ ".rs") =
        Path.child (base.foldl Path.child src) first ++ ".rs" := by
      rw [Path.child_eq inner, Path.child_eq inner, String.append_assoc, String.append_assoc,
        String.append_assoc]
    rw [List.foldl_append, List.foldl_cons, List.foldl_nil, ending, String.toList_append]
    exact List.prefix_append _ _
  · obtain ⟨name, same⟩ := Path.holds_foldl_child (Path.child (base.foldl Path.child src) first) some
    rw [List.foldl_append, List.foldl_cons, same, Path.child_eq (Path.child_ne inner first),
      String.append_assoc, String.toList_append]
    exact List.prefix_append _ _

section Search

theorem exists_behind (along : names <+: base ++ tail) (above : base.length ≤ names.length) :
    ∃ behind, behind <+: tail ∧ names = base ++ behind := by
  obtain ⟨behind, rfl⟩ := List.prefix_of_prefix_length_le (List.prefix_append base tail) along above
  exact ⟨behind, (List.prefix_append_right_inj base).mp along, rfl⟩

theorem Deepest.exists_module (deepest : Deepest listing src base tail (.internal path)) :
    ∃ behind, behind <+: tail ∧ ModuleFile listing src (base ++ behind) path := by
  cases deepest with
  | found inside above module =>
    obtain ⟨behind, along, rfl⟩ := exists_behind inside above
    exact ⟨behind, along, module⟩

/-- Where some module along the path has a file, the answer is one of a module at least as deep. -/
theorem Deepest.reaches (deepest : Deepest listing src base tail answer) (along : behind <+: tail)
    (module : ModuleFile listing src (base ++ behind) path) : ∃ further found, answer = .internal found ∧
      further <+: tail ∧ behind.length ≤ further.length ∧
      ModuleFile listing src (base ++ further) found := by
  have inside := (List.prefix_append_right_inj base).mpr along
  cases deepest with
  | missing none => exact absurd module (none _ _ inside (by simp))
  | @found names found inside' above module' longest =>
    obtain ⟨further, along', rfl⟩ := exists_behind inside' above
    have deep := longest _ _ inside module
    simp only [List.length_append] at deep
    exact ⟨further, found, rfl, along', by omega, module'⟩

/-- A name that no module has ends the search where it stands. -/
theorem Deepest.of_dead_end (dead : ∀ more path, ¬ ModuleFile listing src (base ++ first :: more) path)
    (deepest : Deepest listing src base (first :: tail) answer) : Deepest listing src base [] answer := by
  cases deepest with
  | @found names path inside above module =>
    obtain ⟨behind, along, rfl⟩ := exists_behind inside above
    cases behind with
    | nil =>
      refine .found (by simp) above module fun longer _ shorter _ => ?_
      simpa using shorter.length_le
    | cons name more =>
      obtain ⟨rfl, _⟩ := List.cons_prefix_cons.mp along
      exact absurd module (dead more path)
  | missing none =>
    refine .missing fun names path along above => none names path (along.trans ?_) above
    exact (List.prefix_append_right_inj base).mpr List.nil_prefix

/-- Two searches that part at names of different modules do not come to one answer, if the first gets there. -/
theorem Deepest.ne_of_branch (full : src ≠ "") (differ : other ≠ first)
    (clear : ∀ name ∈ base ++ other :: behind, '/' ∉ name.toList)
    (clear' : ∀ name ∈ base ++ first :: more ++ tail, '/' ∉ name.toList)
    (module : ModuleFile r.listing src (base ++ [other]) path)
    (one : Deepest r.listing src base (other :: behind) answer)
    (two : Deepest r.listing src (base ++ first :: more) tail answer') : answer ≠ answer' := by
  have start : [other] <+: other :: behind := List.cons_prefix_cons.mpr ⟨rfl, List.nil_prefix⟩
  obtain ⟨further, found, rfl, along, deep, here⟩ := one.reaches start module
  rintro rfl
  obtain ⟨below, along', there⟩ := two.exists_module
  have inside := (List.prefix_append_right_inj base).mpr along
  have inside' := (List.prefix_append_right_inj (base ++ first :: more)).mpr along'
  obtain ⟨parts, of, of'⟩ := exists_shared_parts full (fun name h => clear name (inside.mem h))
    (fun name h => clear' name (inside'.mem h)) (moduleFile_eq_some_iff.mpr here)
    (moduleFile_eq_some_iff.mpr there)
  cases further with
  | nil => simp at deep
  | cons name others =>
    obtain ⟨rfl, _⟩ := List.cons_prefix_cons.mp along
    rw [List.append_assoc, List.cons_append] at of'
    exact differ (of.name_eq of')

end Search

section Spellings

theorem rustUse_within (source : SourceOf r.listing file src) (module : ModuleOf src file names)
    (tail : List String) : r.rustUse file ("self" :: tail) = r.moduleAlong src names tail :=
  (Leads.self source module (r.moduleAlong_deepest src names tail)).rustUse_eq

theorem rustUse_climb (source : SourceOf r.listing file src)
    (module : ModuleOf src file (base ++ first :: more)) (stop : rest.head? ≠ some "super") :
    r.rustUse file (List.replicate (more.length + 1) "super" ++ rest) = r.moduleAlong src base rest :=
  (Leads.super source module (List.cons_ne_nil first more) stop
    (r.moduleAlong_deepest src base rest)).rustUse_eq

theorem moduleAlong_ne_missing (found : ModuleFile r.listing src names path) (tail : List String) :
    r.moduleAlong src names tail ≠ .missing := by
  intro missed
  have along := moduleAlong_eq_iff.mp missed
  obtain ⟨_, _, answer, _⟩ := along.reaches List.nil_prefix (by rwa [List.append_nil])
  cases answer

theorem moduleAlong_of_dead_end (tail : List String)
    (dead : ∀ more path, ¬ ModuleFile r.listing src (names ++ first :: more) path) :
    r.moduleAlong src names (first :: tail) = r.moduleAlong src names [] :=
  (moduleAlong_eq_iff.mpr ((r.moduleAlong_deepest src names (first :: tail)).of_dead_end dead)).symm

theorem climb_ne_within (source : SourceOf r.listing file src)
    (module : ModuleOf src file (base ++ first :: more)) (differ : other ≠ first)
    (plain : ∀ name ∈ other :: behind, '/' ∉ name.toList)
    (found : ModuleFile r.listing src (base ++ [other]) path) (levels : Nat) :
    r.moduleAlong src base (other :: behind) ≠ r.moduleAlong src (base ++ first :: more)
      (List.replicate levels "super" ++ other :: behind) := by
  have supers : ∀ name ∈ List.replicate levels "super", '/' ∉ name.toList := by
    intro name listed
    rw [List.eq_of_mem_replicate listed]
    decide
  have above := (List.forall_mem_append.mp module.clear).1
  have within := List.forall_mem_append.mpr ⟨supers, plain⟩
  exact (r.moduleAlong_deepest src base _).ne_of_branch source.ne differ
    (List.forall_mem_append.mpr ⟨above, plain⟩) (List.forall_mem_append.mpr ⟨module.clear, within⟩) found
    (r.moduleAlong_deepest src _ _)

end Spellings

/-- Where a path leads that has `self` in front of its `super`s, and where it leads without. -/
theorem self_keeps_path_in_module (source : SourceOf r.listing file src) {levels : Nat} (upwards : levels ≠ 0)
    (stop : rest.head? ≠ some "super") :
    let up := List.replicate levels "super" ++ rest
    ∃ names, ModuleOf src file names ∧
      (∀ answer, r.rustUse file ("self" :: up) = answer ↔ Deepest r.listing src names up answer) ∧
      ((∀ more path, ¬ ModuleFile r.listing src (names ++ "super" :: more) path) →
        r.rustUse file ("self" :: up) = r.rustUse file ["self"]) ∧
      (∀ path, ModuleFile r.listing src names path → r.rustUse file ("self" :: up) ≠ .missing) ∧
      (names.length < levels → r.rustUse file up = .missing) ∧
      ∀ base first more, names = base ++ first :: more → more.length + 1 = levels →
        (∀ answer, r.rustUse file up = answer ↔ Deepest r.listing src base rest answer) ∧
        ∀ other behind path, rest = other :: behind → other ≠ first →
          (∀ name ∈ rest, '/' ∉ name.toList) → ModuleFile r.listing src (base ++ [other]) path →
          r.rustUse file up ≠ r.rustUse file ("self" :: up) := by
  intro up
  have module : ModuleOf src file (modulePath src file) := (modulePath_eq_iff source.ne source.holds).mp rfl
  generalize modulePath src file = names at module
  refine ⟨names, module, ?_, ?_, ?_, fun above => (Leads.tooFar source module above stop).rustUse_eq, ?_⟩
  · intro answer
    rw [rustUse_within source module, moduleAlong_eq_iff]
  · intro dead
    obtain ⟨more, rfl⟩ := Nat.exists_eq_succ_of_ne_zero upwards
    rw [rustUse_within source module, rustUse_within source module]
    exact moduleAlong_of_dead_end _ dead
  · intro path found
    rw [rustUse_within source module]
    exact moduleAlong_ne_missing found up
  · rintro base first more rfl rfl
    have climb := rustUse_climb source module stop
    refine ⟨fun answer => by rw [climb, moduleAlong_eq_iff], ?_⟩
    rintro other behind path rfl differ plain found
    rw [climb, rustUse_within source module]
    exact climb_ne_within source module differ plain found _

/-- A crate with modules in a directory and one beside it. -/
def searchResolver : Resolver :=
  ⟨["Cargo.toml", "src/graph/mod.rs", "src/graph/store.rs", "src/lib.rs", "src/search.rs"], .empty⟩

/-- Two levels up and into another module, or one level too far: behind `self` both paths come back to where
they started. -/
theorem self_hides_super : SourceOf searchResolver.listing "src/graph/store.rs" "src" ∧
    searchResolver.rustUse "src/graph/store.rs" ["super", "super", "search", "Index"] =
      .internal "src/search.rs" ∧
    searchResolver.rustUse "src/graph/store.rs" ["self", "super", "super", "search", "Index"] =
      .internal "src/graph/store.rs" ∧
    searchResolver.rustUse "src/graph/store.rs" ["super", "super", "super", "search"] = .missing ∧
    searchResolver.rustUse "src/graph/store.rs" ["self", "super", "super", "super", "search"] =
      .internal "src/graph/store.rs" :=
  ⟨crateSource_eq_some_iff.mp (by decide +kernel), by decide +kernel, by decide +kernel, by decide +kernel,
    by decide +kernel⟩

theorem store_path_comes_back :
    (SourceOf searchResolver.listing "src/graph/store.rs" "src" ∧
      ["search", "Index"].head? ≠ some "super") ∧
    searchResolver.rustUse "src/graph/store.rs" ["self", "super", "super", "search", "Index"] =
      searchResolver.rustUse "src/graph/store.rs" ["self"] ∧
    searchResolver.rustUse "src/graph/store.rs" ["super", "super", "search", "Index"] ≠
      searchResolver.rustUse "src/graph/store.rs" ["self", "super", "super", "search", "Index"] := by
  have source : SourceOf searchResolver.listing "src/graph/store.rs" "src" :=
    crateSource_eq_some_iff.mp (by decide +kernel)
  have stop : ["search", "Index"].head? ≠ some "super" := by decide
  obtain ⟨names, module, _, stays, _, _, climbs⟩ := self_keeps_path_in_module source (by decide : 2 ≠ 0) stop
  have called : modulePath "src" "src/graph/store.rs" = ["graph", "store"] := by decide +kernel
  obtain rfl : names = ["graph", "store"] :=
    ((modulePath_eq_iff source.ne source.holds).mpr module).symm.trans called
  have dead : ∀ more path,
      ¬ ModuleFile searchResolver.listing "src" (["graph", "store"] ++ "super" :: more) path := by
    intro more path found
    have none : ∀ path ∈ searchResolver.listing, ¬ "src/graph/store/super".toList <+: path.toList := by
      decide
    have place : Path.child (["graph", "store"].foldl Path.child "src") "super" = "src/graph/store/super" := by
      decide +kernel
    have starts := found.starts source.ne
    rw [place] at starts
    exact none path found.listed starts
  have beside : ModuleFile searchResolver.listing "src" ([] ++ ["search"]) "src/search.rs" :=
    moduleFile_eq_some_iff.mp (by decide +kernel)
  obtain ⟨_, apart⟩ := climbs [] "graph" ["store"] rfl rfl
  exact ⟨⟨source, stop⟩, stays dead, apart "search" ["Index"] "src/search.rs" rfl (by decide) (by decide) beside⟩

end SourceAtlas.Resolver
