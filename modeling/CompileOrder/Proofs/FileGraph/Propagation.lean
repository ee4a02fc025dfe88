import CompileOrder.Proofs.FileGraph.Layering

/-!
# Levels by propagation

Raising a node follows one chain of users at a time. Throughout, the level a node is
raised to is the length of that chain with the node added, so every level is witnessed
by a chain; and all edges except those of the chain already rise, since a cut or an
early return leaves an edge behind only where it is on a cycle or rises already.
-/

namespace CompileOrder.Levels

open CompileOrder.Graph Relation

variable {edges : List (List Nat)} {levels levels' : List Nat} {chain : List Nat}

/-- A duplicate-free chain of users that a raise follows: if it is a single node, that
node has dependencies. -/
structure Trail (edges : List (List Nat)) (chain : List Nat) : Prop where
  /-- Each node is used by the next. -/
  users : UserChain edges chain
  /-- No node stands twice. -/
  nodup : chain.Nodup
  /-- Only nodes stand in it. -/
  bounded : ∀ v ∈ chain, v < edges.length
  /-- The chain starts from a node with dependencies. -/
  rooted : ∀ v, chain = [v] → ∃ w, Edge edges v w

/-- A trail grows by a dependency of its first node. -/
theorem Trail.cons (hwf : WellFormed edges) {v w : Nat} (h : Trail edges (v :: chain))
    (hvw : Edge edges v w) (hnew : w ∉ v :: chain) : Trail edges (w :: v :: chain) where
  users := List.isChain_cons_cons.mpr ⟨hvw, h.users⟩
  nodup := List.nodup_cons.mpr ⟨hnew, h.nodup⟩
  bounded x hx := by
    rcases List.mem_cons.mp hx with rfl | hx
    · exact hwf v x hvw
    · exact h.bounded x hx
  rooted x hx := by simp at hx

/-- No trail is longer than the graph. -/
theorem Trail.length_le (h : Trail edges chain) : chain.length ≤ edges.length :=
  length_le_of_nodup_lt h.nodup h.bounded

/-- Levels while the nodes of a chain are being raised: all edges but those of the chain
rise, and every level is witnessed. -/
structure Rising (edges : List (List Nat)) (chain : List Nat) (levels : List Nat) : Prop where
  /-- Every node has a level. -/
  length_eq : levels.length = edges.length
  /-- Away from the chain, levels rise along edges that are on no cycle. -/
  rises : ∀ v, v ∉ chain → 0 < levels.getD v 0 → ∀ w, Edge edges v w →
    ¬ Reaches edges w v → levels.getD v 0 < levels.getD w 0
  /-- Every level is the length of a chain of users. -/
  witnessed : ∀ v, Witnessed edges levels v

/-- Levels only grow, and those of a chain stay. -/
structure Above (chain levels levels' : List Nat) : Prop where
  /-- No level sinks. -/
  le : ∀ v, levels.getD v 0 ≤ levels'.getD v 0
  /-- The chain keeps its levels. -/
  kept : ∀ v ∈ chain, levels'.getD v 0 = levels.getD v 0

theorem Above.refl (chain levels : List Nat) : Above chain levels levels :=
  ⟨fun _ => Nat.le_refl _, fun _ _ => rfl⟩

theorem Above.trans {levels₁ levels₂ levels₃ : List Nat} (h : Above chain levels₁ levels₂)
    (h' : Above chain levels₂ levels₃) : Above chain levels₁ levels₃ :=
  ⟨fun v => (h.le v).trans (h'.le v), fun v hv => (h'.kept v hv).trans (h.kept v hv)⟩

/-- Putting the first node of a trail at the length of the trail spoils only its own
edges. -/
theorem Rising.set {v : Nat} (h : Rising edges chain levels) (ht : Trail edges (v :: chain))
    (hlow : levels.getD v 0 < chain.length + 1) :
    Rising edges (v :: chain) (levels.set v (chain.length + 1)) := by
  have hv : v < levels.length := h.length_eq ▸ ht.bounded v List.mem_cons_self
  refine ⟨by rw [List.length_set, h.length_eq], fun u hu hpos w huw hback => ?_, fun u hpos => ?_⟩
  · have hne : u ≠ v := fun he => hu (he ▸ List.mem_cons_self)
    rw [getD_set _ _ _ _ hv, if_neg hne] at hpos ⊢
    have hrise := h.rises u (fun hm => hu (List.mem_cons_of_mem v hm)) hpos w huw hback
    rw [getD_set _ _ _ _ hv]
    split
    · rename_i hwv
      subst hwv
      omega
    · exact hrise
  · rw [getD_set _ _ _ _ hv] at hpos ⊢
    split
    · rename_i huv
      subst huv
      refine ⟨chain, ht.users, ht.nodup, rfl, fun hnil => ?_⟩
      exact ht.rooted u (by rw [hnil])
    · rename_i huv
      rw [if_neg huv] at hpos
      exact h.witnessed u hpos

theorem above_set {v level : Nat} (hv : v < levels.length) (hnew : v ∉ chain)
    (hlow : levels.getD v 0 < level) : Above chain levels (levels.set v level) := by
  refine ⟨fun u => ?_, fun u hu => ?_⟩
  · rw [getD_set _ _ _ _ hv]
    split
    · rename_i huv
      subst huv
      omega
    · exact Nat.le_refl _
  · rw [getD_set _ _ _ _ hv, if_neg fun he : u = v => hnew (he ▸ hu)]

/-- Once every dependency outside the trail stands above its first node, the edges of
that node rise too: a dependency on the trail is on a cycle with it. -/
theorem Rising.close {v : Nat} (h : Rising edges (v :: chain) levels)
    (ht : Trail edges (v :: chain))
    (habove : ∀ w, Edge edges v w → w ∉ v :: chain → levels.getD v 0 < levels.getD w 0) :
    Rising edges chain levels := by
  refine ⟨h.length_eq, fun u hu hpos w huw hback => ?_, h.witnessed⟩
  by_cases huv : u = v
  · subst huv
    exact habove w huw fun hw => hback (ht.users.reaches w hw)
  · exact h.rises u (by simp [huv, hu]) hpos w huw hback

/-- What raising the first node of a trail does, when the search is deep enough: the
levels rise as before, the chain keeps its levels, and the node stands high enough. -/
def Raises (edges : List (List Nat)) (depth : Nat) : Prop :=
  ∀ chain v levels, Trail edges (v :: chain) → Rising edges chain levels →
    edges.length ≤ depth + chain.length →
    Rising edges chain (raise edges depth chain (chain.length + 1) levels v) ∧
    Above chain levels (raise edges depth chain (chain.length + 1) levels v) ∧
    chain.length + 1 ≤ (raise edges depth chain (chain.length + 1) levels v).getD v 0

/-- Raising several dependencies of the first node of a trail in turn raises all of them
that are not on the trail. -/
theorem Raises.foldl (hwf : WellFormed edges) {depth v : Nat} (h : Raises edges depth)
    (ht : Trail edges (v :: chain)) (hdepth : edges.length ≤ depth + (v :: chain).length)
    (ws : List Nat) (hws : ∀ w ∈ ws, Edge edges v w) {levels : List Nat}
    (hl : Rising edges (v :: chain) levels) :
    let raised := ws.foldl (fun levels w => if (v :: chain).contains w then levels
      else raise edges depth (v :: chain) (chain.length + 1 + 1) levels w) levels
    Rising edges (v :: chain) raised ∧ Above (v :: chain) levels raised ∧
      ∀ w ∈ ws, w ∉ v :: chain → chain.length + 1 < raised.getD w 0 := by
  induction ws generalizing levels with
  | nil => exact ⟨hl, .refl _ _, fun w hw => absurd hw List.not_mem_nil⟩
  | cons w ws ih =>
    have hws' : ∀ x ∈ ws, Edge edges v x := fun x hx => hws x (List.mem_cons_of_mem w hx)
    simp only [List.foldl_cons]
    by_cases hw : w ∈ v :: chain
    · rw [if_pos (List.contains_iff_mem.mpr hw)]
      obtain ⟨hrise, habove, hall⟩ := ih hws' hl
      refine ⟨hrise, habove, fun x hx hnew => ?_⟩
      rcases List.mem_cons.mp hx with rfl | hx
      · exact absurd hw hnew
      · exact hall x hx hnew
    · rw [if_neg fun hc => hw (List.contains_iff_mem.mp hc)]
      obtain ⟨hstep, habove, hhigh⟩ :=
        h (v :: chain) w levels (ht.cons hwf (hws w List.mem_cons_self) hw) hl hdepth
      obtain ⟨hrise, habove', hall⟩ := ih hws' hstep
      refine ⟨hrise, habove.trans habove', fun x hx hnew => ?_⟩
      rcases List.mem_cons.mp hx with rfl | hx
      · exact Nat.lt_of_lt_of_le hhigh (habove'.le x)
      · exact hall x hx hnew

/-- At every depth, raising does what it should. -/
theorem raises (hwf : WellFormed edges) (depth : Nat) : Raises edges depth := by
  induction depth with
  | zero =>
    intro chain v levels ht _ hdepth
    have := ht.length_le
    simp only [List.length_cons] at this
    omega
  | succ depth ih =>
    intro chain v levels ht hl hdepth
    rw [raise]
    by_cases hlow : chain.length + 1 ≤ levels.getD v 0
    · rw [if_pos hlow]
      exact ⟨hl, .refl _ _, hlow⟩
    rw [if_neg hlow]
    have hlow' : levels.getD v 0 < chain.length + 1 := by omega
    have hv : v < levels.length := hl.length_eq ▸ ht.bounded v List.mem_cons_self
    have hnew : v ∉ chain := (List.nodup_cons.mp ht.nodup).1
    have hset : (levels.set v (chain.length + 1)).getD v 0 = chain.length + 1 := by
      rw [getD_set _ _ _ _ hv, if_pos rfl]
    obtain ⟨hrise, habove, hall⟩ := ih.foldl hwf ht (by simp only [List.length_cons]; omega)
      (successors edges v) (fun w hw => hw) (hl.set ht hlow')
    have hself := (habove.kept v List.mem_cons_self).trans hset
    refine ⟨hrise.close ht fun w hvw hw => ?_, ?_, Nat.le_of_eq hself.symm⟩
    · rw [hself]
      exact hall w hvw hw
    · exact (above_set hv hnew hlow').trans
        ⟨habove.le, fun u hu => habove.kept u (List.mem_cons_of_mem v hu)⟩

/-- Propagation from some roots keeps the levels rising and puts every root with
dependencies above the ground. -/
theorem propagate_foldl (hwf : WellFormed edges) (roots : List Nat)
    (hl : Rising edges [] levels) :
    let levels' := roots.foldl (fun levels v => if (successors edges v).isEmpty then levels
      else raise edges edges.length [] 1 levels v) levels
    Rising edges [] levels' ∧ Above [] levels levels' ∧
      ∀ v ∈ roots, ∀ w, Edge edges v w → 0 < levels'.getD v 0 := by
  induction roots generalizing levels with
  | nil => exact ⟨hl, .refl _ _, fun v hv => absurd hv List.not_mem_nil⟩
  | cons v roots ih =>
    simp only [List.foldl_cons]
    by_cases hdeps : (successors edges v).isEmpty
    · rw [if_pos hdeps]
      obtain ⟨hrise, habove, hall⟩ := ih hl
      refine ⟨hrise, habove, fun u hu w huw => ?_⟩
      rcases List.mem_cons.mp hu with rfl | hu
      · rw [Edge, List.isEmpty_iff.mp hdeps] at huw
        exact absurd huw List.not_mem_nil
      · exact hall u hu w huw
    · rw [if_neg hdeps]
      obtain ⟨w, hvw⟩ := List.exists_mem_of_ne_nil _ fun hnil => hdeps (List.isEmpty_iff.mpr hnil)
      have ht : Trail edges [v] := ⟨List.IsChain.singleton v, List.nodup_singleton v,
        fun u hu => List.mem_singleton.mp hu ▸ Edge.source_lt hvw,
        fun u hu => (List.cons.inj hu).1 ▸ ⟨w, hvw⟩⟩
      obtain ⟨hstep, habove, hhigh⟩ := raises hwf edges.length [] v levels ht hl (by simp)
      obtain ⟨hrise, habove', hall⟩ := ih hstep
      refine ⟨hrise, habove.trans habove', fun u hu x hux => ?_⟩
      rcases List.mem_cons.mp hu with rfl | hu
      · exact Nat.lt_of_lt_of_le hhigh (habove'.le u)
      · exact hall u hu x hux

theorem rising_start : Rising edges [] (List.replicate edges.length 0) := by
  refine ⟨List.length_replicate, fun v _ hpos => ?_, fun v hpos => ?_⟩
  · simp at hpos
  · simp at hpos

/-- Propagation is a layering. -/
theorem propagate_layering (hwf : WellFormed edges) : Layering edges (propagate edges) := by
  obtain ⟨hrise, -, hpos⟩ := propagate_foldl hwf (List.range edges.length) rising_start
  have hpos' : ∀ v w, Edge edges v w → 0 < (propagate edges).getD v 0 :=
    fun v w hvw => hpos v (List.mem_range.mpr hvw.source_lt) w hvw
  exact ⟨hrise.length_eq, hpos',
    fun v w hvw hback => hrise.rises v List.not_mem_nil (hpos' v w hvw) w hvw hback⟩

/-- Every level that propagation gives is the length of a chain of users. -/
theorem propagate_witnessed (hwf : WellFormed edges) (v : Nat) :
    Witnessed edges (propagate edges) v :=
  (propagate_foldl hwf (List.range edges.length) rising_start).1.witnessed v

end CompileOrder.Levels
