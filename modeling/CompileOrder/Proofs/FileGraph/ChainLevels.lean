import CompileOrder.Proofs.FileGraph.Records
import CompileOrder.Proofs.FileGraph.StrategyAgreement
import Mathlib.Data.List.Chain

/-!
# Propagated levels as chains

Propagation recurses along dependencies and turns back only where a level is reached already
or where the chain of users would close. The rule by itself sets no bound to its depth, yet it
comes to an end on every graph: no chain repeats a node, so none is longer than the graph. It
ends with the computed levels. Each of them is the length of a chain of distinct files that
ends in the file, cycles or not, so no level exceeds the number of files.
-/

namespace CompileOrder

open CompileOrder.Graph CompileOrder.Levels

namespace Levels

variable {edges : List (List Nat)} {chain vs levels : List Nat} {v depth level : Nat}

/-- Raising some nodes to a level one after the other, under the chain of their users, leads
from levels to levels. -/
inductive RaisesTo (edges : List (List Nat)) :
    (chain : List Nat) → (level : Nat) → (nodes levels levels' : List Nat) → Prop
  /-- No node is left. -/
  | done {chain : List Nat} {level : Nat} {levels : List Nat} :
    RaisesTo edges chain level [] levels levels
  /-- The first node is on the chain and left alone. -/
  | cut {chain vs levels levels' : List Nat} {level v : Nat} (hcut : v ∈ chain)
    (hrest : RaisesTo edges chain level vs levels levels') :
    RaisesTo edges chain level (v :: vs) levels levels'
  /-- The first node has reached the level already. -/
  | kept {chain vs levels levels' : List Nat} {level v : Nat} (hnew : v ∉ chain)
    (hhigh : level ≤ levels.getD v 0) (hrest : RaisesTo edges chain level vs levels levels') :
    RaisesTo edges chain level (v :: vs) levels levels'
  /-- The first node is put at the level, and its dependencies are raised above it. -/
  | raised {chain vs levels between levels' : List Nat} {level v : Nat} (hnew : v ∉ chain)
    (hlow : levels.getD v 0 < level)
    (hdeps : RaisesTo edges (v :: chain) (level + 1) (successors edges v) (levels.set v level)
      between)
    (hrest : RaisesTo edges chain level vs between levels') :
    RaisesTo edges chain level (v :: vs) levels levels'

/-- The rule leads to one result at most. -/
theorem RaisesTo.unique {l l' : List Nat} (h : RaisesTo edges chain level vs levels l)
    (h' : RaisesTo edges chain level vs levels l') : l = l' := by
  induction h generalizing l' with
  | done =>
    cases h'
    rfl
  | cut hcut _ ih =>
    cases h' with
    | cut _ hrest => exact ih hrest
    | kept hnew => exact absurd hcut hnew
    | raised hnew => exact absurd hcut hnew
  | kept hnew hhigh _ ih =>
    cases h' with
    | cut hcut => exact absurd hcut hnew
    | kept _ _ hrest => exact ih hrest
    | raised _ hlow => exact absurd hlow (Nat.not_lt.mpr hhigh)
  | raised hnew hlow _ _ ihdeps ihrest =>
    cases h' with
    | cut hcut => exact absurd hcut hnew
    | kept _ hhigh => exact absurd hlow (Nat.not_lt.mpr hhigh)
    | raised _ _ hdeps hrest =>
      obtain rfl := ihdeps hdeps
      exact ihrest hrest

/-- The levels when the nodes of a list that are not on the chain have been raised in turn. -/
def raiseEach (edges : List (List Nat)) (depth : Nat) (chain : List Nat) (level : Nat)
    (levels vs : List Nat) : List Nat :=
  vs.foldl (fun levels v =>
    if chain.contains v then levels else raise edges depth chain level levels v) levels

theorem raiseEach_cons_of_mem (hv : v ∈ chain) :
    raiseEach edges depth chain level levels (v :: vs) =
      raiseEach edges depth chain level levels vs := by
  simp [raiseEach, hv]

theorem raiseEach_cons_of_notMem (hv : v ∉ chain) :
    raiseEach edges depth chain level levels (v :: vs) =
      raiseEach edges depth chain level (raise edges depth chain level levels v) vs := by
  simp [raiseEach, hv]

theorem raise_succ : raise edges (depth + 1) chain level levels v =
    if level ≤ levels.getD v 0 then levels
    else raiseEach edges depth (v :: chain) (level + 1) (levels.set v level)
      (successors edges v) := rfl

/-- A depth that reaches beyond the nodes not on the chain is never used up. -/
theorem raisesTo_raiseEach (hwf : WellFormed edges) (hnodup : chain.Nodup)
    (hchain : ∀ u ∈ chain, u < edges.length) (hvs : ∀ v ∈ vs, v < edges.length)
    (hdepth : edges.length ≤ depth + chain.length) :
    RaisesTo edges chain level vs levels (raiseEach edges depth chain level levels vs) := by
  induction depth generalizing chain level vs levels with
  | zero =>
    have hmem : ∀ v, v < edges.length → v ∈ chain := by
      intro v hv
      by_contra hnew
      have hlength := length_le_of_nodup_lt (List.nodup_cons.mpr ⟨hnew, hnodup⟩)
        (List.forall_mem_cons.mpr ⟨hv, hchain⟩)
      rw [List.length_cons] at hlength
      omega
    induction vs with
    | nil => exact .done
    | cons v vs ih =>
      obtain ⟨hv, hvs⟩ := List.forall_mem_cons.mp hvs
      rw [raiseEach_cons_of_mem (hmem v hv)]
      exact .cut (hmem v hv) (ih hvs)
  | succ depth ihdepth =>
    induction vs generalizing levels with
    | nil => exact .done
    | cons v vs ih =>
      obtain ⟨hv, hvs⟩ := List.forall_mem_cons.mp hvs
      by_cases hnew : v ∈ chain
      · rw [raiseEach_cons_of_mem hnew]
        exact .cut hnew (ih hvs)
      rw [raiseEach_cons_of_notMem hnew, raise_succ]
      split
      · rename_i hhigh
        exact .kept hnew hhigh (ih hvs)
      · rename_i hlow
        refine .raised hnew (Nat.lt_of_not_le hlow) ?_ (ih hvs)
        refine ihdepth (List.nodup_cons.mpr ⟨hnew, hnodup⟩)
          (List.forall_mem_cons.mpr ⟨hv, hchain⟩) (fun w hw => hwf v w hw) ?_
        rw [List.length_cons]
        omega

/-- The nodes with dependencies, from which propagation starts. -/
def roots (edges : List (List Nat)) : List Nat :=
  (List.range edges.length).filter fun v => !(successors edges v).isEmpty

theorem propagate_eq_raiseEach (edges : List (List Nat)) :
    propagate edges =
      raiseEach edges edges.length [] 1 (List.replicate edges.length 0) (roots edges) := by
  rw [raiseEach, roots, List.foldl_filter, propagate]
  congr 1
  funext levels v
  cases (successors edges v).isEmpty <;> rfl

/-- Followed from the nodes with dependencies, the rule comes to an end, and with no other
levels than those computed. -/
theorem raisesTo_roots_iff (hwf : WellFormed edges) :
    RaisesTo edges [] 1 (roots edges) (List.replicate edges.length 0) levels ↔
      levels = propagate edges := by
  have hends : RaisesTo edges [] 1 (roots edges) (List.replicate edges.length 0)
      (propagate edges) := by
    rw [propagate_eq_raiseEach]
    refine raisesTo_raiseEach hwf List.nodup_nil (List.forall_mem_nil _) (fun v hv => ?_)
      (Nat.le_refl _)
    exact List.mem_range.mp (List.mem_filter.mp hv).1
  constructor
  · exact fun h => h.unique hends
  · rintro rfl
    exact hends

/-- A witnessed node of a layering is at level zero just when it has neither dependencies nor
users. -/
theorem Layering.eq_zero_iff (h : Layering edges levels) (hw : Witnessed edges levels v) :
    levels.getD v 0 = 0 ↔ ¬ ((∃ w, Edge edges v w) ∨ ∃ u, Edge edges u v) := by
  constructor
  · rintro hzero (⟨w, hvw⟩ | ⟨u, huv⟩)
    · exact absurd hzero (Nat.pos_iff_ne_zero.mp (h.pos v w hvw))
    · by_cases hback : Reaches edges v u
      · have hpos : 0 < levels.getD v 0 := by
          rcases Relation.ReflTransGen.cases_head hback with rfl | ⟨w, hvw, -⟩
          · exact h.pos v v huv
          · exact h.pos v w hvw
        omega
      · have := h.rises u v huv hback
        omega
  · intro hnone
    exact hw.eq_zero (fun w hvw => hnone (Or.inl ⟨w, hvw⟩)) fun u huv => hnone (Or.inr ⟨u, huv⟩)

end Levels

/-- Distinct files, each but the first a dependency of the one before. -/
structure DependencyChain (files chain : List SourceFile) : Prop where
  /-- They are among the files. -/
  mem : ∀ f ∈ chain, f ∈ files
  /-- No two have the same name. -/
  names_nodup : (chain.map (·.name)).Nodup
  /-- Each depends on the next. -/
  linked : chain.IsChain fun f h => h.name ∈ f.dependencies

/-- A chain is not longer than the list of files. -/
theorem DependencyChain.length_le {files chain : List SourceFile}
    (h : DependencyChain files chain) : chain.length ≤ files.length :=
  (List.subperm_of_subset (h.names_nodup.of_map _) h.mem).length_le

namespace FileGraph

variable {condense : List (List Nat) → List (List Nat)} {g : FileGraph} {s : Strategy}
  {f : SourceFile} {i : Nat}

/-- Every position has a file in the build order. -/
theorem Coherent.exists_file (hg : g.Coherent)
    (condense : List (List Nat) → List (List Nat)) (s : Strategy) (hi : i < g.files.length) :
    ∃ f ∈ g.sorted condense s, g.nameAt? i = some f.name := by
  have hfile := List.getElem?_eq_getElem hi
  have hname : g.nameAt? i = some g.files[i].name := nameAt?_eq hfile
  exact ⟨_, (mem_sorted hg _).mpr ⟨i, g.files[i], hfile, rfl⟩, hname⟩

/-- A chain of users of positions is, read from its far end, a chain of files. -/
theorem Coherent.exists_dependencyChain (hg : g.Coherent) (hf : f ∈ g.sorted condense s)
    (hi : g.nameAt? i = some f.name) {users : List Nat}
    (hchain : UserChain g.edges (i :: users)) (hnodup : (i :: users).Nodup) :
    ∃ chain, DependencyChain (g.sorted condense s) chain ∧ chain.getLast? = some f ∧
      chain.length = users.length + 1 := by
  have hfile : ∀ j, ∃ h, j < g.files.length →
      h ∈ g.sorted condense s ∧ g.nameAt? j = some h.name := by
    intro j
    by_cases hj : j < g.files.length
    · obtain ⟨h, hh⟩ := hg.exists_file condense s hj
      exact ⟨h, fun _ => hh⟩
    · exact ⟨f, fun hj' => absurd hj' hj⟩
  choose fileAt hfileAt using hfile
  have hbounded : ∀ j ∈ i :: users, j < g.files.length := by
    intro j hj
    rcases Relation.ReflTransGen.cases_head (hchain.reaches j hj) with rfl | ⟨k, hjk, -⟩
    · exact nameAt?_lt hi
    · exact hg.length_eq ▸ hjk.source_lt
  have hlast : fileAt i = f := by
    obtain ⟨hmem, hname⟩ := hfileAt i (nameAt?_lt hi)
    exact hg.eq_of_name_eq hmem hf (Option.some.inj (hname.symm.trans hi))
  have hstep : ∀ v w, Edge g.edges v w → (fileAt w).name ∈ (fileAt v).dependencies := by
    intro v w hvw
    obtain ⟨⟨_, hv⟩, _, hw⟩ := hg.exists_names hvw
    obtain ⟨hmem, hname⟩ := hfileAt v (nameAt?_lt hv)
    rw [← hg.dependsOn_iff_mem hmem, dependsOn_sorted hg,
      hg.dependsOn_iff hname (hfileAt w (nameAt?_lt hw)).2]
    exact hvw
  refine ⟨(i :: users).reverse.map fileAt, ⟨?_, ?_, ?_⟩, ?_, ?_⟩
  · intro h hh
    obtain ⟨j, hj, rfl⟩ := List.mem_map.mp hh
    exact (hfileAt j (hbounded j (List.mem_reverse.mp hj))).1
  · rw [List.map_map]
    refine (List.nodup_reverse.mpr hnodup).map_on fun j hj k hk hname => ?_
    have hj' := (hfileAt j (hbounded j (List.mem_reverse.mp hj))).2
    have hk' := (hfileAt k (hbounded k (List.mem_reverse.mp hk))).2
    exact hg.position_unique hj' (hk'.trans (congrArg some hname.symm))
  · rw [List.isChain_map, List.isChain_reverse]
    exact hchain.imp fun w v hvw => hstep v w hvw
  · rw [List.getLast?_map, List.getLast?_reverse, List.head?_cons, Option.map_some, hlast]
  · rw [List.length_map, List.length_reverse, List.length_cons]

end FileGraph

/-- Propagation comes to an end on every graph, with the computed levels. A file is at level
zero just when it has no links; any other level is the length of a chain of distinct files that
ends in the file, each a dependency of the one before; and no level exceeds the number of
files. -/
theorem propagated_levels_witnessed (condense : List (List Nat) → List (List Nat))
    (units : List DesignUnit) (crossLibrary : Bool) :
    let g := FileGraph.ofUnits crossLibrary units
    let files := (orderFiles condense units ⟨.propagate, crossLibrary⟩).1
    (∀ levels, RaisesTo g.edges [] 1 (roots g.edges) (List.replicate g.files.length 0) levels ↔
      levels = g.levels condense .propagate) ∧
    ∀ f ∈ files,
      (f.level = 0 ↔ f.dependencies = [] ∧ f.dependents = []) ∧
      (1 ≤ f.level → ∃ chain, DependencyChain files chain ∧ chain.getLast? = some f ∧
        chain.length = f.level) ∧
      f.level ≤ files.length := by
  intro g files
  have hg : g.Coherent := FileGraph.ofUnits_coherent crossLibrary units
  refine ⟨fun levels => hg.length_eq ▸ raisesTo_roots_iff hg.wellFormed, fun f hf => ?_⟩
  obtain ⟨i, f₀, hf₀, rfl⟩ := (FileGraph.mem_sorted hg f).mp hf
  have hi : g.nameAt? i = some f₀.name := FileGraph.nameAt?_eq hf₀
  have hwitnessed : Witnessed g.edges (propagate g.edges) i := propagate_witnessed hg.wellFormed i
  have hchain : 1 ≤ (propagate g.edges).getD i 0 → ∃ chain, DependencyChain files chain ∧
      chain.getLast? = some { f₀ with level := (propagate g.edges).getD i 0 } ∧
      chain.length = (propagate g.edges).getD i 0 := by
    intro hpos
    obtain ⟨users, husers, hnodup, hlevel, -⟩ := hwitnessed hpos
    obtain ⟨chain, hchain, hlast, hlength⟩ := hg.exists_dependencyChain hf hi husers hnodup
    exact ⟨chain, hchain, hlast, hlength.trans hlevel.symm⟩
  refine ⟨?_, hchain, ?_⟩
  · refine ((propagate_layering hg.wellFormed).eq_zero_iff hwitnessed).trans ?_
    rw [hg.edges_iff_links hf₀]
    simp
  · rcases Nat.eq_zero_or_pos ((propagate g.edges).getD i 0) with hzero | hpos
    · exact (Nat.le_of_eq hzero).trans (Nat.zero_le _)
    · obtain ⟨chain, hchain, -, hlength⟩ := hchain hpos
      exact hlength ▸ hchain.length_le

namespace Ring

/-- Three packages, each of which uses the next and the last the first. -/
def units : List DesignUnit :=
  [.declare .package "P" "WORK" "p.vhd" 1 [] [⟨"WORK", some "Q"⟩],
   .declare .package "Q" "WORK" "q.vhd" 1 [] [⟨"WORK", some "R"⟩],
   .declare .package "R" "WORK" "r.vhd" 1 [] [⟨"WORK", some "P"⟩]]

/-- The file of the last package. -/
def last : SourceFile where
  name := "r.vhd"
  library := "WORK"
  defines := ["R"]
  uses := [("WORK", "P")]
  dependencies := ["p.vhd"]
  dependents := ["q.vhd"]
  level := 3

theorem last_mem : last ∈ (orderFiles Graph.components units ⟨.propagate, false⟩).1 :=
  List.mem_mergeSort.mpr (by decide +kernel)

/-- Propagation around the ring ends with the levels one to three, and a chain of three files
ends in the last. -/
theorem chain_ends_in_last :
    let g := FileGraph.ofUnits false units
    let files := (orderFiles Graph.components units ⟨.propagate, false⟩).1
    RaisesTo g.edges [] 1 (roots g.edges) (List.replicate g.files.length 0) [1, 2, 3] ∧
    last ∈ files ∧ 1 ≤ last.level ∧
    ∃ chain, DependencyChain files chain ∧ chain.getLast? = some last ∧ chain.length = 3 := by
  intro g files
  obtain ⟨hends, hlevels⟩ := propagated_levels_witnessed Graph.components units false
  obtain ⟨-, hchain, -⟩ := hlevels last last_mem
  have hpos : 1 ≤ last.level := by decide
  exact ⟨(hends _).mpr (by decide +kernel), last_mem, hpos, hchain hpos⟩

end Ring

end CompileOrder
