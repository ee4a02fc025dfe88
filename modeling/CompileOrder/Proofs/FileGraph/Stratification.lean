import CompileOrder.Proofs.FileGraph.Layering
import CompileOrder.Proofs.Graph.Condensation

/-!
# Levels by component

Components are levelled users first. When a component is reached, the components of all
its users have their levels for good, so its level is the one that the finished levels
define: above every user outside it, and no higher than that requires. Levels therefore
never sink along an edge, and rise strictly between components.
-/

namespace CompileOrder.Levels

open CompileOrder.Graph Relation

variable {edges cs : List (List Nat)} {levels : List Nat} {c : List Nat}

/-- The users of a component are the nodes outside it with an edge into it. -/
theorem mem_usersOf (edges : List (List Nat)) (c : List Nat) (u : Nat) :
    u ∈ usersOf edges c ↔ u ∉ c ∧ ∃ v ∈ c, Edge edges u v := by
  simp only [usersOf, List.mem_filter, List.mem_range, Bool.and_eq_true, Bool.not_eq_true',
    List.any_eq_true, List.contains_eq_mem, decide_eq_false_iff_not, decide_eq_true_eq]
  constructor
  · rintro ⟨-, hu, v, huv, hv⟩
    exact ⟨hu, v, hv, huv⟩
  · rintro ⟨hu, v, hv, huv⟩
    exact ⟨huv.source_lt, hu, v, huv, hv⟩

/-- One if some member has a dependency, else zero. -/
def ownLevel (edges : List (List Nat)) (c : List Nat) : Nat :=
  if c.any fun v => !(successors edges v).isEmpty then 1 else 0

theorem ownLevel_eq_one (edges : List (List Nat)) (c : List Nat) :
    ownLevel edges c = 1 ↔ ∃ v ∈ c, ∃ w, Edge edges v w := by
  have hdeps : ∀ v, (!(successors edges v).isEmpty) = true ↔ ∃ w, Edge edges v w := by
    intro v
    rw [Bool.not_eq_true', List.isEmpty_eq_false_iff_exists_mem]
    rfl
  simp [ownLevel, List.any_eq_true, hdeps]

theorem ownLevel_le_one (edges : List (List Nat)) (c : List Nat) : ownLevel edges c ≤ 1 := by
  rw [ownLevel]
  split <;> decide

/-- A running maximum is the greatest of its start and the values met. -/
theorem isGreatest_foldl_max (f : Nat → Nat) (us : List Nat) (start : Nat) :
    IsGreatest (insert start {n | ∃ u ∈ us, n = f u})
      (us.foldl (fun level u => max level (f u)) start) := by
  induction us generalizing start with
  | nil => simp
  | cons u us ih =>
    rw [List.foldl_cons]
    obtain ⟨hmem, hupper⟩ := ih (max start (f u))
    have hle : max start (f u) ≤ us.foldl (fun level u => max level (f u)) (max start (f u)) :=
      hupper (Set.mem_insert _ _)
    refine ⟨?_, ?_⟩
    · rcases hmem with hmem | ⟨x, hx, hmem⟩
      · rcases Nat.le_total start (f u) with h | h
        · exact Or.inr ⟨u, List.mem_cons_self, hmem.trans (Nat.max_eq_right h)⟩
        · exact Or.inl (hmem.trans (Nat.max_eq_left h))
      · exact Or.inr ⟨x, List.mem_cons_of_mem u hx, hmem⟩
    · rintro n (rfl | ⟨x, hx, rfl⟩)
      · exact (Nat.le_max_left _ _).trans hle
      · rcases List.mem_cons.mp hx with rfl | hx
        · exact (Nat.le_max_right _ _).trans hle
        · exact hupper (Or.inr ⟨x, hx, rfl⟩)

/-- The level of a component is the greatest of its own level and the levels just above
its users. -/
theorem isGreatest_componentLevel (edges : List (List Nat)) (levels c : List Nat) :
    IsGreatest (insert (ownLevel edges c) {n | ∃ u ∈ usersOf edges c, n = levels.getD u 0 + 1})
      (componentLevel edges levels c) :=
  isGreatest_foldl_max (fun u => levels.getD u 0 + 1) (usersOf edges c) (ownLevel edges c)

/-- The level of a component depends only on the levels of its users. -/
theorem componentLevel_congr {levels' : List Nat}
    (h : ∀ u ∈ usersOf edges c, levels.getD u 0 = levels'.getD u 0) :
    componentLevel edges levels c = componentLevel edges levels' c := by
  have hset : {n | ∃ u ∈ usersOf edges c, n = levels.getD u 0 + 1} =
      {n | ∃ u ∈ usersOf edges c, n = levels'.getD u 0 + 1} := by
    ext n
    constructor
    · rintro ⟨u, hu, rfl⟩
      exact ⟨u, hu, by rw [h u hu]⟩
    · rintro ⟨u, hu, rfl⟩
      exact ⟨u, hu, by rw [h u hu]⟩
  have hleft := isGreatest_componentLevel edges levels c
  rw [hset] at hleft
  exact hleft.unique (isGreatest_componentLevel edges levels' c)

theorem length_foldl_set (c levels : List Nat) (x : Nat) :
    (c.foldl (fun levels v => levels.set v x) levels).length = levels.length := by
  induction c generalizing levels with
  | nil => rfl
  | cons v c ih => rw [List.foldl_cons, ih, List.length_set]

theorem getD_foldl_set (levels : List Nat) (x w : Nat) (hc : ∀ v ∈ c, v < levels.length) :
    (c.foldl (fun levels v => levels.set v x) levels).getD w 0 =
      if w ∈ c then x else levels.getD w 0 := by
  induction c generalizing levels with
  | nil => simp
  | cons v c ih =>
    have hv := hc v List.mem_cons_self
    have hc' : ∀ u ∈ c, u < (levels.set v x).length := fun u hu => by
      rw [List.length_set]
      exact hc u (List.mem_cons_of_mem v hu)
    rw [List.foldl_cons, ih _ hc', getD_set _ _ _ _ hv]
    by_cases hw : w ∈ c
    · rw [if_pos hw, if_pos (List.mem_cons_of_mem v hw)]
    · simp only [hw, if_false, List.mem_cons, or_false]

@[simp] theorem length_assign (edges : List (List Nat)) (levels c : List Nat) :
    (assign edges levels c).length = levels.length := length_foldl_set c levels _

/-- A component's members get its level, all other nodes keep theirs. -/
theorem getD_assign (hc : ∀ v ∈ c, v < levels.length) (w : Nat) :
    (assign edges levels c).getD w 0 =
      if w ∈ c then componentLevel edges levels c else levels.getD w 0 :=
  getD_foldl_set levels _ w hc

@[simp] theorem length_foldl_assign (edges cs : List (List Nat)) (levels : List Nat) :
    (cs.foldl (assign edges) levels).length = levels.length := by
  induction cs generalizing levels with
  | nil => rfl
  | cons c cs ih => rw [List.foldl_cons, ih, length_assign]

/-- A node in none of the components keeps its level. -/
theorem getD_foldl_assign (hcs : ∀ c ∈ cs, ∀ v ∈ c, v < levels.length) {w : Nat}
    (hw : ∀ c ∈ cs, w ∉ c) : (cs.foldl (assign edges) levels).getD w 0 = levels.getD w 0 := by
  induction cs generalizing levels with
  | nil => rfl
  | cons c cs ih =>
    rw [List.foldl_cons, ih (fun d hd v hv => by
      rw [length_assign]
      exact hcs d (List.mem_cons_of_mem c hd) v hv) fun d hd => hw d (List.mem_cons_of_mem c hd),
      getD_assign (hcs c List.mem_cons_self), if_neg (hw c List.mem_cons_self)]

/-- Members of a component are nodes. -/
theorem lt_of_mem (h : Condensation edges cs) (hc : c ∈ cs) {v : Nat} (hv : v ∈ c) :
    v < edges.length := (h.covers v).mp (List.mem_flatten.mpr ⟨c, hc, hv⟩)

/-- Every node stands in a component, together with the nodes of its class. -/
theorem exists_component (h : Condensation edges cs) {v : Nat} (hv : v < edges.length) :
    ∃ c ∈ cs, v ∈ c ∧ ∀ w, w ∈ c ↔ Mutual edges v w := by
  obtain ⟨c, hc, hvc⟩ := List.mem_flatten.mp ((h.covers v).mpr hv)
  exact ⟨c, hc, hvc, h.classes c hc v hvc⟩

@[simp] theorem length_topological (edges cs : List (List Nat)) :
    (topological edges cs).length = edges.length := by simp [topological]

/-- When all is filled in, the members of each component have the level that the levels
of its users define. -/
theorem topological_eq (h : Condensation edges cs) (hc : c ∈ cs) {v : Nat} (hv : v ∈ c) :
    (topological edges cs.reverse).getD v 0 =
      componentLevel edges (topological edges cs.reverse) c := by
  obtain ⟨before, after, hsplit⟩ := List.append_of_mem (List.mem_reverse.mpr hc)
  have hlt : ∀ d ∈ cs.reverse, ∀ u ∈ d, u < edges.length :=
    fun d hd u hu => lt_of_mem h (List.mem_reverse.mp hd) hu
  have hdisj : (before ++ c :: after).Pairwise List.Disjoint := by
    have hnd := (List.nodup_flatten.mp h.nodup).2
    rw [← hsplit]
    exact List.pairwise_reverse.mpr (hnd.imp List.disjoint_symm)
  have hordered : (before ++ c :: after).Pairwise
      fun d e => ∀ u ∈ e, ∀ w ∈ d, ¬ Edge edges u w := by
    rw [← hsplit]
    exact List.pairwise_reverse.mpr h.ordered
  have hafter := List.pairwise_cons.mp (List.pairwise_append.mp hdisj).2.1
  let prior := before.foldl (assign edges) (List.replicate edges.length 0)
  have hprior : prior.length = edges.length := by simp [prior]
  have hcprior : ∀ u ∈ c, u < prior.length := fun u hu => hprior ▸ hlt c (by simp [hsplit]) u hu
  have hend : topological edges cs.reverse = after.foldl (assign edges) (assign edges prior c) := by
    rw [topological, hsplit, List.foldl_append, List.foldl_cons]
  have hkeep : ∀ w, (∀ d ∈ after, w ∉ d) →
      (topological edges cs.reverse).getD w 0 = (assign edges prior c).getD w 0 := by
    intro w hw
    rw [hend]
    refine getD_foldl_assign (fun d hd u hu => ?_) hw
    rw [length_assign, hprior]
    exact hlt d (by simp [hsplit, hd]) u hu
  rw [hkeep v fun d hd hvd => hafter.1 d hd hv hvd, getD_assign hcprior, if_pos hv]
  refine componentLevel_congr fun u hu => ?_
  obtain ⟨huc, w, hw, huw⟩ := (mem_usersOf edges c u).mp hu
  have hnot : ∀ d ∈ after, u ∉ d := fun d hd hud =>
    (List.pairwise_cons.mp (List.pairwise_append.mp hordered).2.1).1 d hd u hud w hw huw
  rw [hkeep u hnot, getD_assign hcprior, if_neg huc]

/-- The level of a node's component is the greatest of its own level and the levels just
above the users outside it. -/
theorem topological_isGreatest (h : Condensation edges cs) (hc : c ∈ cs) {v : Nat}
    (hv : v ∈ c) :
    IsGreatest (insert (ownLevel edges c)
        {n | ∃ u ∈ usersOf edges c, n = (topological edges cs.reverse).getD u 0 + 1})
      ((topological edges cs.reverse).getD v 0) := by
  rw [topological_eq h hc hv]
  exact isGreatest_componentLevel edges _ c

/-- Mutually reachable nodes share their level. -/
theorem topological_eq_of_mutual (h : Condensation edges cs) {v w : Nat}
    (hvw : Mutual edges v w) :
    (topological edges cs.reverse).getD v 0 = (topological edges cs.reverse).getD w 0 := by
  rcases Nat.lt_or_ge v edges.length with hv | hv
  · obtain ⟨c, hc, hvc, hclass⟩ := exists_component h hv
    rw [topological_eq h hc hvc, topological_eq h hc ((hclass w).mpr hvw)]
  · rcases reflTransGen_iff_eq_or_transGen.mp hvw.1 with rfl | hpath
    · rfl
    · obtain ⟨x, hvx, -⟩ := TransGen.head'_iff.mp hpath
      exact absurd hvx.source_lt (by omega)

/-- Levels by component are a layering. -/
theorem topological_layering (hwf : WellFormed edges) (h : Condensation edges cs) :
    Layering edges (topological edges cs.reverse) := by
  refine ⟨length_topological _ _, fun v w hvw => ?_, fun v w hvw hback => ?_⟩
  · obtain ⟨c, hc, hvc, -⟩ := exists_component h hvw.source_lt
    have hown := (topological_isGreatest h hc hvc).2 (Set.mem_insert _ _)
    rw [(ownLevel_eq_one edges c).mpr ⟨v, hvc, w, hvw⟩] at hown
    exact hown
  · obtain ⟨c, hc, hwc, hclass⟩ := exists_component h (hwf v w hvw)
    have hvc : v ∉ c := fun hv => hback ((hclass v).mp hv).1
    have huser := (mem_usersOf edges c v).mpr ⟨hvc, w, hwc, hvw⟩
    exact (topological_isGreatest h hc hwc).2 (Or.inr ⟨v, huser, rfl⟩)

/-- Levels by component never sink along a walk. -/
theorem topological_le_of_reaches (hwf : WellFormed edges) (h : Condensation edges cs)
    {v w : Nat} (hvw : Reaches edges v w) :
    (topological edges cs.reverse).getD v 0 ≤ (topological edges cs.reverse).getD w 0 := by
  induction hvw with
  | refl => exact Nat.le_refl _
  | @tail x y _ hxy ih =>
    by_cases hback : Reaches edges y x
    · rw [← topological_eq_of_mutual h ⟨.single hxy, hback⟩]
      exact ih
    · exact ih.trans (Nat.le_of_lt ((topological_layering hwf h).rises x y hxy hback))

/-- Levels by component rise along every walk that does not lead back. -/
theorem topological_lt_of_reaches (hwf : WellFormed edges) (h : Condensation edges cs)
    {v w : Nat} (hvw : Reaches edges v w) (hback : ¬ Reaches edges w v) :
    (topological edges cs.reverse).getD v 0 < (topological edges cs.reverse).getD w 0 := by
  obtain ⟨x, y, hvx, hxv, hxy, hyv, hyw⟩ :=
    exists_crossing (p := fun x => Reaches edges x v) hvw .refl hback
  calc (topological edges cs.reverse).getD v 0
      ≤ (topological edges cs.reverse).getD x 0 := topological_le_of_reaches hwf h hvx
    _ < (topological edges cs.reverse).getD y 0 :=
        (topological_layering hwf h).rises x y hxy fun hyx => hyv (hyx.trans hxv)
    _ ≤ (topological edges cs.reverse).getD w 0 := topological_le_of_reaches hwf h hyw

/-- Where no cycle is at or above a node, its level by component is the length of a
chain of users. -/
theorem topological_witnessed (hwf : WellFormed edges) (h : Condensation edges cs) {v : Nat}
    (hv : Tame edges v) : Witnessed edges (topological edges cs.reverse) v := by
  generalize hn : (topological edges cs.reverse).getD v 0 = n
  induction n using Nat.strong_induction_on generalizing v with
  | _ n ih =>
    intro hpos
    have hlt : v < edges.length := by
      by_contra hge
      rw [List.getD_eq_default _ _ (by simpa using hge)] at hpos
      exact Nat.lt_irrefl 0 hpos
    obtain ⟨c, hc, hvc, hclass⟩ := exists_component h hlt
    have hsingle : ∀ w ∈ c, w = v := fun w hw => hv.eq_of_mutual ((hclass w).mp hw).symm
    rcases (topological_isGreatest h hc hvc).1 with hown | ⟨u, hu, hlevel⟩
    · have hone : ownLevel edges c = 1 := by
        have := ownLevel_le_one edges c
        omega
      obtain ⟨x, hx, w, hxw⟩ := (ownLevel_eq_one edges c).mp hone
      refine ⟨[], List.IsChain.singleton v, List.nodup_singleton v, ?_, fun _ => ⟨w, ?_⟩⟩
      · rw [hown, hone]
        rfl
      · exact hsingle x hx ▸ hxw
    · obtain ⟨-, x, hx, hux⟩ := (mem_usersOf edges c u).mp hu
      rw [hsingle x hx] at hux
      obtain ⟨users, hchain, hnd, hlen, -⟩ := ih _ (by omega) (hv.of_reaches (.single hux)) rfl
        ((topological_layering hwf h).pos u v hux)
      refine ⟨u :: users, List.isChain_cons_cons.mpr ⟨hux, hchain⟩, ?_, ?_, by simp⟩
      · refine List.nodup_cons.mpr ⟨fun hmem => ?_, hnd⟩
        exact hv.not_reaches_back hux (hchain.reaches v hmem)
      · rw [hlevel, hlen, List.length_cons]

end CompileOrder.Levels
