import CompileOrder.FileGraph.Levels
import CompileOrder.Proofs.Graph.Reachability
import Mathlib.Order.Bounds.Basic

/-!
# Layerings of a dependency graph

What every assignment of levels has to achieve: a node stands strictly higher than a
node depending on it unless the two are mutually reachable. Where no cycle is at or
above a node, a layering leaves no freedom: if each level is the length of some chain
of users, then it is the length of the longest one.
-/

namespace CompileOrder.Levels

open CompileOrder.Graph Relation

variable {edges : List (List Nat)} {levels : List Nat}

/-- Nodes with dependencies stand above the ground, and dependencies stand above their
users unless they are mutually reachable. -/
structure Layering (edges : List (List Nat)) (levels : List Nat) : Prop where
  /-- Every node has a level. -/
  length_eq : levels.length = edges.length
  /-- A node with a dependency is not at level zero. -/
  pos : ∀ v w, Edge edges v w → 0 < levels.getD v 0
  /-- Levels rise along every edge that is on no cycle. -/
  rises : ∀ v w, Edge edges v w → ¬ Reaches edges w v → levels.getD v 0 < levels.getD w 0

/-- Each node of the list is used by the one after it. -/
def UserChain (edges : List (List Nat)) (chain : List Nat) : Prop :=
  chain.IsChain fun w v => Edge edges v w

/-- Every node of a chain of users reaches the first. -/
theorem UserChain.reaches {v : Nat} {users : List Nat} (h : UserChain edges (v :: users)) :
    ∀ u ∈ v :: users, Reaches edges u v := by
  induction users generalizing v with
  | nil =>
    intro u hu
    rw [List.mem_singleton.mp hu]
  | cons w users ih =>
    have h' := List.isChain_cons_cons.mp h
    intro u hu
    rcases List.mem_cons.mp hu with rfl | hu
    · exact .refl
    · exact (ih h'.2 u hu).tail h'.1

/-- No node on a cycle is the node or reaches it. -/
def Tame (edges : List (List Nat)) (v : Nat) : Prop :=
  ∀ u, Reaches edges u v → ¬ TransGen (Edge edges) u u

/-- Whatever reaches a tame node is tame. -/
theorem Tame.of_reaches {u v : Nat} (hv : Tame edges v) (h : Reaches edges u v) :
    Tame edges u := fun x hx => hv x (hx.trans h)

/-- A tame node is not reached from its dependencies. -/
theorem Tame.not_reaches_back {u v : Nat} (hv : Tame edges v) (h : Edge edges u v) :
    ¬ Reaches edges v u := fun hb => hv v .refl (TransGen.tail' hb h)

/-- A tame node is alone in its class. -/
theorem Tame.eq_of_mutual {u v : Nat} (hv : Tame edges v) (h : Mutual edges u v) : u = v := by
  rcases reflTransGen_iff_eq_or_transGen.mp h.1 with he | huv
  · exact he.symm
  · exact absurd (huv.trans_left h.2) (hv u h.1)

/-- Above a tame node a layering rises by one step at least with every user. -/
theorem Layering.length_le (h : Layering edges levels) {v : Nat} {users : List Nat}
    (hv : Tame edges v) (hchain : UserChain edges (v :: users))
    (hpos : 0 < levels.getD v 0) : users.length + 1 ≤ levels.getD v 0 := by
  induction users generalizing v with
  | nil => exact hpos
  | cons u users ih =>
    obtain ⟨huv, htail⟩ := List.isChain_cons_cons.mp hchain
    have hu := ih (hv.of_reaches (.single huv)) htail (h.pos u v huv)
    have hlt := h.rises u v huv (hv.not_reaches_back huv)
    simp only [List.length_cons]
    omega

/-- The level of the node is the length of some chain of users that ends in it, with no
user only if the node has dependencies. -/
def Witnessed (edges : List (List Nat)) (levels : List Nat) (v : Nat) : Prop :=
  0 < levels.getD v 0 → ∃ users, UserChain edges (v :: users) ∧ (v :: users).Nodup ∧
    levels.getD v 0 = users.length + 1 ∧ (users = [] → ∃ w, Edge edges v w)

/-- A witnessed node without dependencies and users is at level zero. -/
theorem Witnessed.eq_zero {v : Nat} (h : Witnessed edges levels v)
    (hdeps : ∀ w, ¬ Edge edges v w) (husers : ∀ u, ¬ Edge edges u v) :
    levels.getD v 0 = 0 := by
  by_contra hne
  obtain ⟨users, hchain, -, -, hroot⟩ := h (Nat.pos_of_ne_zero hne)
  cases users with
  | nil =>
    obtain ⟨w, hw⟩ := hroot rfl
    exact hdeps w hw
  | cons u users => exact husers u (List.isChain_cons_cons.mp hchain).1

/-- The level of a witnessed tame node with dependencies or users is the number of
nodes on the longest chain of users that ends in it. -/
theorem Layering.isGreatest (h : Layering edges levels) {v : Nat} (hv : Tame edges v)
    (hw : Witnessed edges levels v) (hlinked : (∃ w, Edge edges v w) ∨ ∃ u, Edge edges u v) :
    IsGreatest {n | ∃ users, UserChain edges (v :: users) ∧ n = users.length + 1}
      (levels.getD v 0) := by
  have hpos : 0 < levels.getD v 0 := by
    rcases hlinked with ⟨w, hvw⟩ | ⟨u, huv⟩
    · exact h.pos v w hvw
    · exact Nat.lt_of_le_of_lt (Nat.zero_le _) (h.rises u v huv (hv.not_reaches_back huv))
  obtain ⟨users, hchain, -, hlen, -⟩ := hw hpos
  refine ⟨⟨users, hchain, hlen⟩, ?_⟩
  rintro n ⟨users', hchain', rfl⟩
  exact h.length_le hv hchain' hpos

/-- Two layerings that witness a tame node give it the same level. -/
theorem Layering.level_eq {levels' : List Nat} (h : Layering edges levels)
    (h' : Layering edges levels') {v : Nat} (hv : Tame edges v)
    (hw : Witnessed edges levels v) (hw' : Witnessed edges levels' v) :
    levels.getD v 0 = levels'.getD v 0 := by
  by_cases hlinked : (∃ w, Edge edges v w) ∨ ∃ u, Edge edges u v
  · exact (h.isGreatest hv hw hlinked).unique (h'.isGreatest hv hw' hlinked)
  · have hdeps : ∀ w, ¬ Edge edges v w := fun w hvw => hlinked (Or.inl ⟨w, hvw⟩)
    have husers : ∀ u, ¬ Edge edges u v := fun u huv => hlinked (Or.inr ⟨u, huv⟩)
    rw [hw.eq_zero hdeps husers, hw'.eq_zero hdeps husers]

/-- The level of a node after one level is set. -/
theorem getD_set (levels : List Nat) (v x w : Nat) (hv : v < levels.length) :
    (levels.set v x).getD w 0 = if w = v then x else levels.getD w 0 := by
  by_cases hw : w = v
  · subst hw
    simp [List.getD_eq_getElem?_getD, hv]
  · have hne : v ≠ w := fun he => hw he.symm
    simp [List.getD_eq_getElem?_getD, hw, List.getElem?_set_ne hne]

end CompileOrder.Levels
