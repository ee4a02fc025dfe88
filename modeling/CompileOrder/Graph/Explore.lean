/-!
# Exploring a finite graph

The nodes are the numbers below a bound. Exploration keeps the nodes found so far
in order of discovery and visits the first of them, then the second, and so on;
since no node is found twice, there are never more visits than nodes.
-/

namespace CompileOrder.Graph

/-- The nodes found, together with the new ones among `more`. -/
def extend (found more : List Nat) : List Nat :=
  more.foldl (fun found x => if found.contains x then found else found ++ [x]) found

/-- The visit of the node found as number `i`: its successors are found too. -/
def visit (next : Nat → List Nat) (found : List Nat) (i : Nat) : List Nat :=
  match found[i]? with
  | some v => extend found (next v)
  | none => found

/-- All nodes below `bound` that can be reached from `start`, in order of discovery. -/
def explore (bound : Nat) (next : Nat → List Nat) (start : List Nat) : List Nat :=
  (List.range bound).foldl (visit next) (extend [] start)

end CompileOrder.Graph
