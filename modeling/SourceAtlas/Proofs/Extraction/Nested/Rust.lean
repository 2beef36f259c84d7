import SourceAtlas.Extract.Rust
import SourceAtlas.Proofs.Syntax.Tree
import SourceAtlas.Scan.Rust

/-! Rust items at any depth. On the way into a tree, the names of inline modules add up to the path that a
module declaration is found with. The tree of the scanner says what stands in the pieces. -/
namespace SourceAtlas

open Syntax Syntax.Tree

namespace Rust

/-- The name that a node gives to the path of what is inside of it. -/
def inlineName? (node : Syntax.Tree NamedNode) : Option String :=
  if node.kind = "mod_item" then node.textIn? "name" else none

/-- What a node depends on inside of inline modules of these names, outermost first. -/
def nodeMentions (modules : List String) (node : Syntax.Tree NamedNode) : List Dependency :=
  (specs modules node).map (⟨·, node.line⟩)

/-- What a node depends on below these nodes, outermost first. -/
def mentionsBelow (above : List (Syntax.Tree NamedNode)) (node : Syntax.Tree NamedNode) :
    List Dependency :=
  nodeMentions (above.filterMap inlineName?) node

/-- The kinds of nodes that something depends on. -/
def mentioningKinds : List String := ["mod_item", "use_declaration", "extern_crate_declaration"]

theorem mentionsBelow_of_kind {node : Syntax.Tree NamedNode} (other : node.kind ∉ mentioningKinds)
    (above : List (Syntax.Tree NamedNode)) : mentionsBelow above node = [] := by
  simp only [mentioningKinds, List.mem_cons, List.not_mem_nil, or_false, not_or] at other
  simp [mentionsBelow, nodeMentions, specs, isModuleFile, other]

/-- A module with a body is no other file. -/
theorem mentionsBelow_of_body {node : Syntax.Tree NamedNode} (module : node.kind = "mod_item")
    (body : (node.firstIn? "body").isSome = true) (above : List (Syntax.Tree NamedNode)) :
    mentionsBelow above node = [] := by
  simp [mentionsBelow, nodeMentions, specs, isModuleFile, module, Option.isSome_iff_ne_none.mp body]

mutual

/-- What a piece declares with all that is in it, given the pieces in front of it, backwards, and behind it. -/
def mentionsOf (modules : List String) (before rest : List Piece) : Piece → List Dependency
  | .token t => (declaration? before t rest).toList.flatMap (nodeMentions modules)
  | .group opener body _ =>
    if isOpaque before then []
    else mentionsIn (modules ++ ((module? before opener).map (·.1.name)).toList) [] body

def mentionsIn (modules : List String) (before : List Piece) : List Piece → List Dependency
  | [] => []
  | p :: rest => mentionsOf modules before rest p ++ mentionsIn modules (p :: before) rest

end

variable {above : List (Syntax.Tree NamedNode)}

theorem gather_leaf {kind : String} (other : kind ∉ mentioningKinds) (field : Option String)
    (breaks : Nat) (text : List Char) : (leaf kind field breaks text).gather mentionsBelow above = [] := by
  have silent : (leaf kind field breaks text).kind ∉ mentioningKinds := other
  rw [gather_eq, mentionsBelow_of_kind silent]
  rfl

theorem gather_branch {kind : String} (other : kind ∉ mentioningKinds) (field : Option String)
    (breaks : Nat) (ts : List (Syntax.Tree NamedNode)) :
    (branch kind field breaks ts).gather mentionsBelow above =
      gatherMany mentionsBelow (above ++ [branch kind field breaks ts]) ts := by
  have silent : (branch kind field breaks ts).kind ∉ mentioningKinds := other
  rw [gather_eq, mentionsBelow_of_kind silent]
  rfl

/-- Nodes of other kinds than modules leave the path as it is. -/
theorem inlineNames_branch {kind : String} (other : kind ≠ "mod_item") (field : Option String)
    (breaks : Nat) (ts : List (Syntax.Tree NamedNode)) :
    (above ++ [branch kind field breaks ts]).filterMap inlineName? = above.filterMap inlineName? := by
  have plain : inlineName? (branch kind field breaks ts) = none := if_neg other
  rw [List.filterMap_append, List.filterMap_cons, plain, List.filterMap_nil, List.append_nil]

theorem child_of_declaration {before rest : List Piece} {t : Token} {node : Syntax.Tree NamedNode}
    (h : declaration? before t rest = some node) :
    ∃ kind field breaks text, kind ∉ mentioningKinds ∧ node.children = [leaf kind field breaks text] := by
  unfold declaration? at h
  dsimp only at h
  split at h
  · split at h
    · split at h <;> cases h
      exact ⟨_, _, _, _, by decide, rfl⟩
    · cases h
  · split at h
    · split at h <;> cases h
      exact ⟨_, _, _, _, by decide, rfl⟩
    · split at h
      · split at h
        · split at h <;> cases h
          exact ⟨_, _, _, _, by decide, rfl⟩
        · cases h
      · cases h

theorem gather_declaration {before rest : List Piece} {t : Token} {node : Syntax.Tree NamedNode}
    (h : declaration? before t rest = some node) :
    node.gather mentionsBelow above = mentionsBelow above node := by
  obtain ⟨kind, field, breaks, text, other, only⟩ := child_of_declaration h
  rw [gather_eq, only, gatherMany_singleton, gather_leaf other, List.append_nil]

/-- The body of a module says what is in it behind the name of the module, any other block as it stands. -/
theorem gather_groupTree (before : List Piece) (opener : Token) (inside : List (Syntax.Tree NamedNode))
    (found : List String → List Dependency)
    (same : ∀ above, gatherMany mentionsBelow above inside = found (above.filterMap inlineName?)) :
    (groupTree before opener inside).gather mentionsBelow above =
      found (above.filterMap inlineName? ++ ((module? before opener).map (·.1.name)).toList) := by
  unfold groupTree
  cases module? before opener with
  | none =>
    rw [gather_branch (by decide), same, inlineNames_branch (by decide)]
    simp
  | some module =>
    obtain ⟨name, breaks⟩ := module
    let body := branch "declaration_list" (some "body") opener.breaks inside
    let node := branch "mod_item" none breaks [name.leaf "identifier" (some "name"), body]
    have silent : (name.leaf "identifier" (some "name")).gather mentionsBelow (above ++ [node]) = [] :=
      gather_leaf (by decide) _ _ _
    have names : (above ++ [node]).filterMap inlineName? = above.filterMap inlineName? ++ [name.name] := by
      rw [List.filterMap_append]
      rfl
    have parts : node.gather mentionsBelow above = gatherMany mentionsBelow (above ++ [node])
        [name.leaf "identifier" (some "name"), body] := by
      rw [gather_eq, mentionsBelow_of_body rfl rfl]
      rfl
    rw [parts, gatherMany, silent, gatherMany_singleton, gather_branch (by decide), same,
      inlineNames_branch (by decide), names]
    rfl

mutual

theorem gather_pieceTrees (above : List (Syntax.Tree NamedNode)) (before rest : List Piece) : ∀ p : Piece,
    gatherMany mentionsBelow above (pieceTrees before rest p) =
      mentionsOf (above.filterMap inlineName?) before rest p
  | .token t => by
    rw [pieceTrees, mentionsOf]
    cases declared : declaration? before t rest with
    | none => rfl
    | some node => simp [gatherMany, gather_declaration declared, mentionsBelow]
  | .group opener body _ => by
    rw [pieceTrees, mentionsOf]
    split
    · rfl
    · rw [gatherMany_singleton]
      exact gather_groupTree before opener _ (mentionsIn · [] body) fun above =>
        gather_forest above [] body

theorem gather_forest (above : List (Syntax.Tree NamedNode)) (before : List Piece) : ∀ ps : List Piece,
    gatherMany mentionsBelow above (forest before ps) =
      mentionsIn (above.filterMap inlineName?) before ps
  | [] => rfl
  | p :: rest => by
    rw [forest, mentionsIn, gatherMany_append, gather_pieceTrees above before rest p,
      gather_forest above (p :: before) rest]

end

def pieces (source : String) : List Piece := (nest (tokens (lexemes source.toList))).pieces

/-- What a source declares, from the front to the back. -/
def mentions (source : String) : List Dependency := mentionsIn [] [] (pieces source)

example : mentions "mod net \x7b\n  mod http \x7b\n    mod client;\n  \x7d\n\x7d\nmod store;\n" =
    [⟨.rustMod "client" ["net", "http"], 3⟩, ⟨.rustMod "store" [], 6⟩] := by
  decide +kernel

end Rust

end SourceAtlas
