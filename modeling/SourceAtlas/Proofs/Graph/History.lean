import SourceAtlas.Proofs.Graph.WellFormed

/-! Stores and how they come about. A store is reached from the empty one by calls that put a batch of
nodes or a batch of links; a call stops at the first item that is refused and keeps what came before
it. What holds of the empty graph and is kept by every single put holds of every store. -/
namespace SourceAtlas

inductive Call where
  | nodes (batch : List Node)
  | links (batch : List Link)

namespace Graph

/-- The graph after the call, and the fault at which it stopped, if it did. -/
def serve (g : Graph) : Call → Graph × Option Fault
  | .nodes batch => g.putNodes batch
  | .links batch => g.putLinks batch

/-- The graph that the calls make of `g`, one after the other and whether or not they fail. -/
def extend (g : Graph) (calls : List Call) : Graph := calls.foldl (fun g call => (g.serve call).1) g

def after (calls : List Call) : Graph := empty.extend calls

/-- The items of a batch in front of the first that is refused. -/
def accepted {α : Type} (put : Graph → α → Except Fault Graph) (g : Graph) : List α → List α
  | [] => []
  | x :: rest =>
    match put g x with
    | .ok g => x :: accepted put g rest
    | .error _ => []

def placedNodes (g : Graph) : List Call → List Node
  | [] => []
  | .nodes batch :: rest => g.accepted put batch ++ placedNodes (g.putNodes batch).1 rest
  | .links batch :: rest => placedNodes (g.putLinks batch).1 rest

def placedLinks (g : Graph) : List Call → List Link
  | [] => []
  | .nodes batch :: rest => placedLinks (g.putNodes batch).1 rest
  | .links batch :: rest => g.accepted putLink batch ++ placedLinks (g.putLinks batch).1 rest

/-- A graph together with all nodes and all links that were put on the way to it. -/
inductive Reached : List Node → List Link → Graph → Prop where
  | start : Reached [] [] empty
  | node {placed : List Node} {linked : List Link} {g g' : Graph} {node : Node} :
      Reached placed linked g → g.put node = .ok g' → Reached (placed ++ [node]) linked g'
  | link {placed : List Node} {linked : List Link} {g g' : Graph} {link : Link} :
      Reached placed linked g → g.putLink link = .ok g' → Reached placed (linked ++ [link]) g'

namespace Reached

variable {placed : List Node} {linked : List Link} {g : Graph}

theorem putNodes (h : Reached placed linked g) (batch : List Node) :
    Reached (placed ++ g.accepted put batch) linked (g.putNodes batch).1 := by
  unfold Graph.putNodes
  induction batch generalizing placed g with
  | nil => simpa [accepted, putEach] using h
  | cons node rest ih =>
    cases result : g.put node with
    | error fault => simpa [accepted, putEach, result] using h
    | ok next => simpa [accepted, putEach, result] using ih (h.node result)

theorem putLinks (h : Reached placed linked g) (batch : List Link) :
    Reached placed (linked ++ g.accepted putLink batch) (g.putLinks batch).1 := by
  unfold Graph.putLinks
  induction batch generalizing linked g with
  | nil => simpa [accepted, putEach] using h
  | cons link rest ih =>
    cases result : g.putLink link with
    | error fault => simpa [accepted, putEach, result] using h
    | ok next => simpa [accepted, putEach, result] using ih (h.link result)

theorem extend (h : Reached placed linked g) (calls : List Call) :
    Reached (placed ++ g.placedNodes calls) (linked ++ g.placedLinks calls) (g.extend calls) := by
  induction calls generalizing placed linked g with
  | nil => simpa [placedNodes, placedLinks, Graph.extend] using h
  | cons call rest ih =>
    cases call with
    | nodes batch =>
      simpa [placedNodes, placedLinks, Graph.extend, serve] using ih (h.putNodes batch)
    | links batch =>
      simpa [placedNodes, placedLinks, Graph.extend, serve] using ih (h.putLinks batch)

theorem wellFormed (h : Reached placed linked g) : g.WellFormed := by
  induction h with
  | start => exact .empty
  | node _ ok ih => exact ih.put ok
  | link _ ok ih => exact ih.putLink ok

theorem mem_placed (h : Reached placed linked g) {n : Node} (hn : n ∈ g.nodes) : n ∈ placed := by
  induction h with
  | start => exact absurd hn List.not_mem_nil
  | @node placed linked g g' node before ok ih =>
    obtain ⟨_, rfl⟩ := put_eq_ok_iff.mp ok
    rcases before.wellFormed.mem_withNode.mp hn with rfl | ⟨hn, _⟩
    · exact List.mem_append_right _ List.mem_cons_self
    · exact List.mem_append_left _ (ih hn)
  | link _ ok ih =>
    obtain ⟨_, _, ⟨_, rfl⟩ | ⟨_, rfl⟩⟩ := putLink_cases ok
    · exact ih hn
    · exact ih hn

end Reached

theorem reached_after (calls : List Call) :
    Reached (empty.placedNodes calls) (empty.placedLinks calls) (after calls) := by
  simpa [after] using Reached.start.extend calls

theorem after_wellFormed (calls : List Call) : (after calls).WellFormed :=
  (reached_after calls).wellFormed

end Graph

end SourceAtlas
