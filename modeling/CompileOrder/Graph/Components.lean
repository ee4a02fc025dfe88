import CompileOrder.Graph.Explore

/-!
# Mutually reachable nodes

A graph is given by the list of successors of each node. A depth-first search
finishes a node after everything it reaches; listing the nodes latest finished
first puts every node before those it depends on, save for cycles. Cutting that
list into classes of mutually reachable nodes, the class met last in front, gives
the components, each after the components it depends on.
-/

namespace CompileOrder.Graph

/-- The successors of a node. -/
def successors (edges : List (List Nat)) (v : Nat) : List Nat := edges.getD v []

/-- The state of a depth-first search: the nodes seen, and those finished, latest first. -/
structure Search where
  /-- The nodes entered so far. -/
  seen : List Nat
  /-- The nodes left again, latest first. -/
  finished : List Nat
  deriving DecidableEq, Repr

/-- The search from `v` on, to a depth that no path of new nodes exceeds; successors
are tried from the last to the first. -/
def Search.enter (edges : List (List Nat)) : Nat → Search → Nat → Search
  | 0, s, _ => s
  | depth + 1, s, v =>
    if s.seen.contains v then s
    else
      let inside := (successors edges v).reverse.foldl (Search.enter edges depth)
        { s with seen := v :: s.seen }
      { inside with finished := v :: inside.finished }

/-- All nodes, latest finished first, when the search starts at each node in turn. -/
def finishOrder (edges : List (List Nat)) : List Nat :=
  ((List.range edges.length).foldl (Search.enter edges (edges.length + 1)) ⟨[], []⟩).finished

/-- The nodes that each node reaches, itself included. -/
def reachTable (edges : List (List Nat)) : List (List Nat) :=
  (List.range edges.length).map fun v => explore edges.length (successors edges) [v]

/-- The nodes that reach `v` and are reached from it, in increasing order. -/
def componentOf (reach : List (List Nat)) (v : Nat) : List Nat :=
  (List.range reach.length).filter fun w =>
    (successors reach v).contains w && (successors reach w).contains v

/-- The component of a node is put in front, unless the node already belongs to one. -/
def addComponent (reach : List (List Nat)) (components : List (List Nat)) (v : Nat) :
    List (List Nat) :=
  if components.any (·.contains v) then components else componentOf reach v :: components

/-- The classes of mutually reachable nodes, each after the classes it depends on. -/
def components (edges : List (List Nat)) : List (List Nat) :=
  (finishOrder edges).foldl (addComponent (reachTable edges)) []

end CompileOrder.Graph
