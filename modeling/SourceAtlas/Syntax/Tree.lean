/-! Ordered trees with labels, and the list of all their nodes that a stack yields: a node comes
before what is below it, and of two siblings the later one comes first. Every node is listed with the
nodes above it. -/
namespace SourceAtlas.Syntax

inductive Tree (α : Type) where
  | node (label : α) (children : List (Tree α))

namespace Tree

variable {α : Type}

def label : Tree α → α
  | .node a _ => a

def children : Tree α → List (Tree α)
  | .node _ ts => ts

mutual

def size : Tree α → Nat
  | .node _ ts => 1 + sizeOfMany ts

def sizeOfMany : List (Tree α) → Nat
  | [] => 0
  | t :: ts => t.size + sizeOfMany ts

end

/-- A node together with the nodes above it, innermost first. -/
structure Place (α : Type) where
  above : List (Tree α)
  tree : Tree α

namespace Place

def below (p : Place α) : List (Place α) := p.tree.children.map fun t => ⟨p.tree :: p.above, t⟩

end Place

theorem sizeOfMany_append (ts us : List (Tree α)) :
    sizeOfMany (ts ++ us) = sizeOfMany ts + sizeOfMany us := by
  induction ts with
  | nil => simp [sizeOfMany]
  | cons t ts ih => simp only [List.cons_append, sizeOfMany, ih]; omega

theorem sizeOfMany_reverse (ts : List (Tree α)) : sizeOfMany ts.reverse = sizeOfMany ts := by
  induction ts with
  | nil => rfl
  | cons t ts ih =>
    simp only [List.reverse_cons, sizeOfMany_append, sizeOfMany, ih]; omega

theorem map_tree_below (p : Place α) : p.below.map (·.tree) = p.tree.children := by
  simp [Place.below, Function.comp_def]

theorem size_eq (t : Tree α) : t.size = 1 + sizeOfMany t.children := by
  cases t; simp [size, children]

theorem size_lt_of_mem {t child : Tree α} (inside : child ∈ t.children) : child.size < t.size := by
  rw [size_eq t]
  generalize t.children = ts at inside ⊢
  induction ts with
  | nil => cases inside
  | cons u ts ih =>
    rw [sizeOfMany]
    rcases List.mem_cons.mp inside with rfl | further
    · omega
    · have := ih further
      omega

/-- Takes the place on top of the stack and puts the places below it on the stack, until nothing is
left. -/
def visit : List (Place α) → List (Place α)
  | [] => []
  | p :: stack => p :: visit (p.below.reverse ++ stack)
termination_by stack => sizeOfMany (stack.map (·.tree))
decreasing_by
  simp only [List.map_append, List.map_reverse, map_tree_below, sizeOfMany_append,
    sizeOfMany_reverse, List.map_cons, sizeOfMany, size_eq p.tree]
  omega

def descendants (t : Tree α) : List (Place α) := visit [⟨[], t⟩]

end Tree

end SourceAtlas.Syntax
