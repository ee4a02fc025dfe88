import CompileOrder.Graph.Components

/-!
# Levels of a dependency graph

A level for every node so that dependencies stand higher than their users. The
propagating strategy raises levels along chains of dependencies and stops where a
chain would close; the topological strategy gives one level to each class of
mutually dependent nodes. A node with neither dependencies nor users is at level
zero.
-/

namespace CompileOrder.Levels

open CompileOrder.Graph

/-- The node `v` is raised to `level` and its dependencies above it, except along the
chain of users that leads to `v`; no chain is longer than `depth`. -/
def raise (edges : List (List Nat)) : Nat → List Nat → Nat → List Nat → Nat → List Nat
  | 0, _, _, levels, _ => levels
  | depth + 1, chain, level, levels, v =>
    if level ≤ levels.getD v 0 then levels
    else
      (successors edges v).foldl
        (fun levels w =>
          if (v :: chain).contains w then levels
          else raise edges depth (v :: chain) (level + 1) levels w)
        (levels.set v level)

/-- Levels by propagation from every node that has dependencies. -/
def propagate (edges : List (List Nat)) : List Nat :=
  (List.range edges.length).foldl
    (fun levels v =>
      if (successors edges v).isEmpty then levels else raise edges edges.length [] 1 levels v)
    (List.replicate edges.length 0)

/-- The nodes outside a component that depend on one of its members. -/
def usersOf (edges : List (List Nat)) (component : List Nat) : List Nat :=
  (List.range edges.length).filter fun u =>
    !component.contains u && (successors edges u).any component.contains

/-- The level of a component above the levels of its users. -/
def componentLevel (edges : List (List Nat)) (levels : List Nat) (component : List Nat) : Nat :=
  let own := if component.any fun v => !(successors edges v).isEmpty then 1 else 0
  (usersOf edges component).foldl (fun level u => max level (levels.getD u 0 + 1)) own

/-- The members of a component get its level. -/
def assign (edges : List (List Nat)) (levels : List Nat) (component : List Nat) : List Nat :=
  let level := componentLevel edges levels component
  component.foldl (fun levels v => levels.set v level) levels

/-- Levels by component; each component stands before those it depends on, so its
users have their levels when it is reached. -/
def topological (edges components : List (List Nat)) : List Nat :=
  components.foldl (assign edges) (List.replicate edges.length 0)

end CompileOrder.Levels
