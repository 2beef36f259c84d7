import Mathlib.Data.List.Nodup
import Mathlib.Data.List.Perm.Basic
import SourceAtlas.Syntax.Tree

/-! The loop that lists the nodes of a tree. A turn takes one place off the stack and puts those below it on
the stack, so what is listed and what is still to come stay the same together, and one node less is to
come. The loop ends after as many turns as there are nodes, and has listed the node at each address once. -/
namespace SourceAtlas.Syntax.Tree

variable {α β : Type}

/-- The loop between two turns: the stack, its top first, and the places listed so far. -/
structure Walk (α : Type) where
  stack : List (Place α)
  listed : List (Place α)

namespace Walk

def start (t : Tree α) : Walk α := ⟨[⟨[], t⟩], []⟩

/-- Without anything on the stack there is no turn any more. -/
def turn (w : Walk α) : Walk α :=
  match w.stack with
  | [] => w
  | p :: stack => ⟨p.below.reverse ++ stack, w.listed ++ [p]⟩

/-- How many nodes are on the stack or below a place on it. -/
def pending (w : Walk α) : Nat := sizeOfMany (w.stack.map (·.tree))

end Walk

/-- The children to go down to, one after the other, from the root of a tree to a node. -/
abbrev Address := List Nat

mutual

/-- The addresses of a tree in the order in which the loop comes to them. -/
def addresses : Tree α → List Address
  | .node _ ts => [] :: addressesFrom 0 ts

/-- The addresses of children that are counted from `i`. -/
def addressesFrom (i : Nat) : List (Tree α) → List Address
  | [] => []
  | t :: ts => addressesFrom (i + 1) ts ++ t.addresses.map (i :: ·)

end

mutual

/-- What the nodes of a tree contribute, from the front to the back, each with the nodes above it, outermost
first. -/
def gather (own : List (Tree α) → Tree α → List β) (above : List (Tree α)) : Tree α → List β
  | .node a ts => own above (.node a ts) ++ gatherMany own (above ++ [.node a ts]) ts

def gatherMany (own : List (Tree α) → Tree α → List β) (above : List (Tree α)) : List (Tree α) → List β
  | [] => []
  | t :: ts => gather own above t ++ gatherMany own above ts

end

theorem gatherMany_eq_flatMap (own : List (Tree α) → Tree α → List β) (above : List (Tree α)) (ts : List (Tree α)) :
    gatherMany own above ts = ts.flatMap (gather own above) := by
  induction ts with
  | nil => rfl
  | cons t ts ih => rw [gatherMany, ih, List.flatMap_cons]

theorem gatherMany_singleton (own : List (Tree α) → Tree α → List β) (above : List (Tree α)) (t : Tree α) :
    gatherMany own above [t] = t.gather own above := by
  rw [gatherMany, gatherMany, List.append_nil]

theorem gather_eq (own : List (Tree α) → Tree α → List β) (above : List (Tree α)) (t : Tree α) :
    t.gather own above = own above t ++ gatherMany own (above ++ [t]) t.children := by
  cases t
  rfl

theorem gatherMany_append (own : List (Tree α) → Tree α → List β) (above : List (Tree α)) (ts us : List (Tree α)) :
    gatherMany own above (ts ++ us) = gatherMany own above ts ++ gatherMany own above us := by
  simp only [gatherMany_eq_flatMap, List.flatMap_append]

end SourceAtlas.Syntax.Tree
