import CompileOrder.Graph.Components
import Mathlib.Logic.Relation
import Mathlib.Data.List.GetD
import Mathlib.Data.List.Nodup
import Mathlib.Data.List.Perm.Subperm

/-!
# Reachability in a dependency graph

The edges of a graph read as a relation, its reflexive and transitive closure, and
the classes of mutually reachable nodes. Exploration with a bound finds exactly the
nodes that can be reached, so the reach table decides reachability and the component
of a node is its class.
-/

namespace CompileOrder.Graph

open Relation

/-- `w` is among the successors of `v`. -/
def Edge (edges : List (List Nat)) (v w : Nat) : Prop := w ∈ successors edges v

/-- `w` can be reached from `v` in any number of steps. -/
abbrev Reaches (edges : List (List Nat)) : Nat → Nat → Prop := ReflTransGen (Edge edges)

/-- `v` and `w` reach each other. -/
def Mutual (edges : List (List Nat)) (v w : Nat) : Prop :=
  Reaches edges v w ∧ Reaches edges w v

/-- Every successor is itself a node. -/
def WellFormed (edges : List (List Nat)) : Prop := ∀ v w, Edge edges v w → w < edges.length

namespace Mutual

variable {edges : List (List Nat)} {u v w : Nat}

@[refl] theorem refl (v : Nat) : Mutual edges v v := ⟨.refl, .refl⟩

theorem symm (h : Mutual edges v w) : Mutual edges w v := ⟨h.2, h.1⟩

theorem trans (h : Mutual edges u v) (h' : Mutual edges v w) : Mutual edges u w :=
  ⟨h.1.trans h'.1, h'.2.trans h.2⟩

end Mutual

/-- Only a node has successors. -/
theorem Edge.source_lt {edges : List (List Nat)} {v w : Nat} (h : Edge edges v w) :
    v < edges.length := by
  by_contra hv
  rw [Edge, successors, List.getD_eq_default _ _ (Nat.le_of_not_lt hv)] at h
  exact absurd h List.not_mem_nil

/-- Whatever a node reaches is a node. -/
theorem Reaches.lt {edges : List (List Nat)} (hwf : WellFormed edges) {v w : Nat}
    (h : Reaches edges v w) (hv : v < edges.length) : w < edges.length := by
  cases h with
  | refl => exact hv
  | tail _ hlast => exact hwf _ _ hlast

/-- A walk that leaves a set does so along one of its edges. -/
theorem exists_crossing {α : Type} {r : α → α → Prop} {p : α → Prop} {a b : α}
    (h : ReflTransGen r a b) (ha : p a) (hb : ¬ p b) :
    ∃ x y, ReflTransGen r a x ∧ p x ∧ r x y ∧ ¬ p y ∧ ReflTransGen r y b := by
  induction h using ReflTransGen.head_induction_on with
  | refl => exact absurd ha hb
  | @head a' c hac hcb ih =>
    by_cases hc : p c
    · obtain ⟨x, y, hx, hpx, hxy, hy, hyb⟩ := ih hc
      exact ⟨x, y, hx.head hac, hpx, hxy, hy, hyb⟩
    · exact ⟨a', c, .refl, ha, hac, hc, hcb⟩

theorem extend_nil (found : List Nat) : extend found [] = found := rfl

theorem extend_cons (found : List Nat) (x : Nat) (more : List Nat) :
    extend found (x :: more) =
      extend (if found.contains x then found else found ++ [x]) more := rfl

/-- Discovery only appends. -/
theorem prefix_extend (found more : List Nat) : found <+: extend found more := by
  induction more generalizing found with
  | nil => exact List.prefix_refl found
  | cons x more ih =>
    rw [extend_cons]
    split
    · exact ih found
    · exact (List.prefix_append found [x]).trans (ih _)

/-- What was found or is new, and nothing else, is found afterwards. -/
@[simp] theorem mem_extend (found more : List Nat) (x : Nat) :
    x ∈ extend found more ↔ x ∈ found ∨ x ∈ more := by
  induction more generalizing found with
  | nil => simp [extend_nil]
  | cons y more ih =>
    rw [extend_cons, ih]
    split
    · rename_i hy
      have hy' : y ∈ found := List.contains_iff_mem.mp hy
      constructor
      · rintro (h | h)
        · exact Or.inl h
        · exact Or.inr (List.mem_cons_of_mem y h)
      · rintro (h | h)
        · exact Or.inl h
        · rcases List.mem_cons.mp h with rfl | h
          · exact Or.inl hy'
          · exact Or.inr h
    · simp only [List.mem_append, List.mem_cons, List.not_mem_nil, or_false, or_assoc]

/-- Nothing is found twice. -/
theorem nodup_extend {found : List Nat} (h : found.Nodup) (more : List Nat) :
    (extend found more).Nodup := by
  induction more generalizing found with
  | nil => exact h
  | cons x more ih =>
    rw [extend_cons]
    split
    · exact ih h
    · rename_i hx
      have hx' : x ∉ found := fun hm => hx (List.contains_iff_mem.mpr hm)
      exact ih (List.nodup_append.mpr ⟨h, List.nodup_singleton x, by
        rintro a ha b hb rfl
        exact hx' (List.mem_singleton.mp hb ▸ ha)⟩)

/-- What is found after the first `k` visits: every node found is reachable, and the
first `k` of them have their successors found too. -/
structure Explored (bound : Nat) (next : Nat → List Nat) (start : List Nat) (k : Nat)
    (found : List Nat) : Prop where
  /-- Nothing is found twice. -/
  nodup : found.Nodup
  /-- Only nodes are found. -/
  bounded : ∀ x ∈ found, x < bound
  /-- The start is found. -/
  start_sub : ∀ x ∈ start, x ∈ found
  /-- Only what can be reached from the start is found. -/
  reachable : ∀ x ∈ found, ∃ v ∈ start, ReflTransGen (fun a b => b ∈ next a) v x
  /-- The nodes visited have their successors found. -/
  visited : ∀ i < k, ∀ v, found[i]? = some v → ∀ w ∈ next v, w ∈ found

section

variable {bound : Nat} {next : Nat → List Nat} {start : List Nat}

theorem explored_start (hstart : ∀ v ∈ start, v < bound) :
    Explored bound next start 0 (extend [] start) where
  nodup := nodup_extend List.nodup_nil start
  bounded := by simpa using hstart
  start_sub := by simp
  reachable x hx := ⟨x, by simpa using hx, .refl⟩
  visited i hi := absurd hi (Nat.not_lt_zero i)

/-- One visit extends the exploration by one visited node. -/
theorem Explored.visit {k : Nat} {found : List Nat} (hnext : ∀ v, ∀ w ∈ next v, w < bound)
    (h : Explored bound next start k found) :
    Explored bound next start (k + 1) (visit next found k) := by
  unfold Graph.visit
  cases hk : found[k]? with
  | none =>
    refine ⟨h.nodup, h.bounded, h.start_sub, h.reachable, ?_⟩
    intro i hi v hv
    rcases Nat.lt_succ_iff_lt_or_eq.mp hi with hi | rfl
    · exact h.visited i hi v hv
    · rw [hk] at hv
      exact absurd hv (by simp)
  | some u =>
    have hu : u ∈ found := List.mem_of_getElem? hk
    have hkeep : ∀ i v, i ≤ k → (extend found (next u))[i]? = some v → found[i]? = some v := by
      intro i v hi hv
      have hlt : i < found.length := Nat.lt_of_le_of_lt hi (List.getElem?_eq_some_iff.mp hk).1
      obtain ⟨more, hmore⟩ := prefix_extend found (next u)
      rw [← hmore, List.getElem?_append_left hlt] at hv
      exact hv
    refine ⟨nodup_extend h.nodup _, ?_, fun x hx => (mem_extend ..).mpr (Or.inl (h.start_sub x hx)),
      ?_, ?_⟩
    · intro x hx
      rcases (mem_extend ..).mp hx with hx | hx
      · exact h.bounded x hx
      · exact hnext u x hx
    · intro x hx
      rcases (mem_extend ..).mp hx with hx | hx
      · exact h.reachable x hx
      · obtain ⟨v, hv, hvu⟩ := h.reachable u hu
        exact ⟨v, hv, hvu.tail hx⟩
    · intro i hi v hv w hw
      have hv' := hkeep i v (Nat.lt_succ_iff.mp hi) hv
      rw [mem_extend]
      rcases Nat.lt_succ_iff_lt_or_eq.mp hi with hi | rfl
      · exact Or.inl (h.visited i hi v hv' w hw)
      · rw [hk, Option.some.injEq] at hv'
        subst hv'
        exact Or.inr hw

theorem explored_foldl (hnext : ∀ v, ∀ w ∈ next v, w < bound)
    (hstart : ∀ v ∈ start, v < bound) (k : Nat) :
    Explored bound next start k ((List.range k).foldl (Graph.visit next) (extend [] start)) := by
  induction k with
  | zero => exact explored_start hstart
  | succ k ih =>
    rw [List.range_succ, List.foldl_append]
    exact ih.visit hnext

/-- A duplicate-free list of numbers below a bound is no longer than the bound. -/
theorem length_le_of_nodup_lt {xs : List Nat} (hnd : xs.Nodup) (h : ∀ x ∈ xs, x < bound) :
    xs.length ≤ bound := by
  have hsub : xs ⊆ List.range bound := fun x hx => List.mem_range.mpr (h x hx)
  simpa using (hnd.subperm hsub).length_le

/-- Exploration finds exactly what can be reached: as many visits as there are nodes
leave no found node unvisited. -/
theorem mem_explore (hnext : ∀ v, ∀ w ∈ next v, w < bound)
    (hstart : ∀ v ∈ start, v < bound) (x : Nat) :
    x ∈ explore bound next start ↔
      ∃ v ∈ start, ReflTransGen (fun a b => b ∈ next a) v x := by
  have h := explored_foldl hnext hstart bound
  refine ⟨h.reachable x, ?_⟩
  rintro ⟨v, hv, hvx⟩
  induction hvx with
  | refl => exact h.start_sub v hv
  | @tail b c _ hbc ih =>
    obtain ⟨i, hi, hib⟩ := List.getElem_of_mem ih
    refine h.visited i ?_ b (List.getElem?_eq_some_iff.mpr ⟨hi, hib⟩) c hbc
    exact Nat.lt_of_lt_of_le hi (length_le_of_nodup_lt h.nodup h.bounded)

end

variable {edges : List (List Nat)}

@[simp] theorem length_reachTable (edges : List (List Nat)) :
    (reachTable edges).length = edges.length := by simp [reachTable]

/-- The reach table decides reachability. -/
theorem mem_successors_reachTable (hwf : WellFormed edges) (v w : Nat) :
    w ∈ successors (reachTable edges) v ↔ v < edges.length ∧ Reaches edges v w := by
  by_cases hv : v < edges.length
  · have hrow : successors (reachTable edges) v =
        explore edges.length (successors edges) [v] := by
      simp [successors, reachTable, List.getD_eq_getElem?_getD, hv]
    rw [hrow, mem_explore (fun u x hx => hwf u x hx) (by simpa using hv)]
    simp only [List.mem_singleton, exists_eq_left, hv, true_and]
    rfl
  · have hrow : successors (reachTable edges) v = [] :=
      List.getD_eq_default _ _ (by simpa using hv)
    simp [hrow, hv]

/-- The component of a node is its class. -/
theorem mem_componentOf (hwf : WellFormed edges) {v w : Nat} (hv : v < edges.length) :
    w ∈ componentOf (reachTable edges) v ↔ Mutual edges v w := by
  simp only [componentOf, length_reachTable, List.mem_filter, List.mem_range,
    Bool.and_eq_true, List.contains_iff_mem, mem_successors_reachTable hwf]
  constructor
  · rintro ⟨_, ⟨_, hvw⟩, _, hwv⟩
    exact ⟨hvw, hwv⟩
  · rintro ⟨hvw, hwv⟩
    have hw := Reaches.lt hwf hvw hv
    exact ⟨hw, ⟨hv, hvw⟩, hw, hwv⟩

theorem nodup_componentOf (reach : List (List Nat)) (v : Nat) : (componentOf reach v).Nodup :=
  List.nodup_range.filter _

end CompileOrder.Graph
