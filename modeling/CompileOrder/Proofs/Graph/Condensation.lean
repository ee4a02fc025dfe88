import CompileOrder.Proofs.Graph.Reachability

/-!
# The condensation of a dependency graph

A condensation lists the classes of mutually reachable nodes, each node in exactly
one and every class after the classes it depends on. The components cut from a
depth-first finishing order are one: when a node is finished, either everything it
reaches is finished, or a node still open belongs to its class. So the member of a
class that is finished last comes after everything the class reaches.
-/

namespace CompileOrder.Graph

open Relation

variable {edges : List (List Nat)}

/-- The lists are the classes of mutually reachable nodes, dependencies first. -/
structure Condensation (edges components : List (List Nat)) : Prop where
  /-- No node stands twice. -/
  nodup : components.flatten.Nodup
  /-- Every node stands in some class, and nothing else does. -/
  covers : ∀ v, v ∈ components.flatten ↔ v < edges.length
  /-- Together with a node stand exactly the nodes of its class. -/
  classes : ∀ c ∈ components, ∀ v ∈ c, ∀ w, w ∈ c ↔ Mutual edges v w
  /-- No class is empty. -/
  nonempty : ∀ c ∈ components, c ≠ []
  /-- A class depends on no class that stands after it. -/
  ordered : components.Pairwise fun c d => ∀ v ∈ c, ∀ w ∈ d, ¬ Edge edges v w

/-- A way to condense every well-formed graph. -/
def Condensing (condense : List (List Nat) → List (List Nat)) : Prop :=
  ∀ edges, WellFormed edges → Condensation edges (condense edges)

namespace Search

/-- The node is entered and not left again. -/
def Open (s : Search) (v : Nat) : Prop := v ∈ s.seen ∧ v ∉ s.finished

/-- What holds of a search at every moment. -/
structure Valid (edges : List (List Nat)) (s : Search) : Prop where
  /-- No node is entered twice. -/
  seen_nodup : s.seen.Nodup
  /-- Only nodes are entered. -/
  seen_lt : ∀ v ∈ s.seen, v < edges.length
  /-- No node is left twice. -/
  finished_nodup : s.finished.Nodup
  /-- Only nodes entered are left. -/
  finished_seen : ∀ v ∈ s.finished, v ∈ s.seen
  /-- A node is left after its successors are entered. -/
  successors_seen : ∀ v ∈ s.finished, ∀ w, Edge edges v w → w ∈ s.seen
  /-- When a node was left, everything it reaches was left, or a node open then shares
  its class. -/
  settled : ∀ later v earlier, s.finished = later ++ v :: earlier →
    (∀ w, Reaches edges v w → w ∈ v :: earlier) ∨
      ∃ u, (u ∈ later ∨ s.Open u) ∧ Mutual edges u v

/-- What a search from one more node does: it is entered, and the open nodes stay. -/
structure Continues (edges : List (List Nat)) (s s' : Search) : Prop where
  /-- The search is as it should be. -/
  valid : Valid edges s'
  /-- Nodes entered stay entered. -/
  seen_sub : s.seen ⊆ s'.seen
  /-- The same nodes are open. -/
  open_iff : ∀ v, s'.Open v ↔ s.Open v

theorem Continues.refl {s : Search} (h : Valid edges s) : Continues edges s s :=
  ⟨h, fun _ hv => hv, fun _ => Iff.rfl⟩

theorem Continues.trans {s₁ s₂ s₃ : Search} (h : Continues edges s₁ s₂)
    (h' : Continues edges s₂ s₃) : Continues edges s₁ s₃ :=
  ⟨h'.valid, fun _ hv => h'.seen_sub (h.seen_sub hv),
    fun v => (h'.open_iff v).trans (h.open_iff v)⟩

/-- As many nodes are entered afterwards, or more. -/
theorem Continues.length_le {s s' : Search} (hs : Valid edges s) (h : Continues edges s s') :
    s.seen.length ≤ s'.seen.length :=
  (hs.seen_nodup.subperm h.seen_sub).length_le

theorem valid_start : Valid edges ⟨[], []⟩ where
  seen_nodup := List.nodup_nil
  seen_lt v hv := absurd hv List.not_mem_nil
  finished_nodup := List.nodup_nil
  finished_seen v hv := absurd hv List.not_mem_nil
  successors_seen v hv := absurd hv List.not_mem_nil
  settled later v earlier h := by simp at h

/-- Entering a new node keeps the search valid. -/
theorem Valid.open {s : Search} (h : Valid edges s) {v : Nat} (hv : v < edges.length)
    (hnew : v ∉ s.seen) : Valid edges { s with seen := v :: s.seen } where
  seen_nodup := List.nodup_cons.mpr ⟨hnew, h.seen_nodup⟩
  seen_lt w hw := by
    rcases List.mem_cons.mp hw with rfl | hw
    · exact hv
    · exact h.seen_lt w hw
  finished_nodup := h.finished_nodup
  finished_seen w hw := List.mem_cons_of_mem v (h.finished_seen w hw)
  successors_seen w hw x hx := List.mem_cons_of_mem v (h.successors_seen w hw x hx)
  settled later w earlier hsplit := by
    rcases h.settled later w earlier hsplit with hall | ⟨u, hu, hm⟩
    · exact Or.inl hall
    · exact Or.inr ⟨u, hu.imp id fun ho => ⟨List.mem_cons_of_mem v ho.1, ho.2⟩, hm⟩

/-- An entered node that is new is open beside those open before. -/
theorem open_cons_iff {s : Search} (h : Valid edges s) {v : Nat} (hnew : v ∉ s.seen) (u : Nat) :
    Open { s with seen := v :: s.seen } u ↔ s.Open u ∨ u = v := by
  simp only [Open, List.mem_cons]
  constructor
  · rintro ⟨rfl | hu, hf⟩
    · exact Or.inr rfl
    · exact Or.inl ⟨hu, hf⟩
  · rintro (⟨hu, hf⟩ | rfl)
    · exact ⟨Or.inr hu, hf⟩
    · exact ⟨Or.inl rfl, fun hf => hnew (h.finished_seen u hf)⟩

/-- When a node is left whose successors are entered, everything it reaches is left, or
an open node that it reaches still shares its class. -/
theorem Valid.settled_left {s : Search} (h : Valid edges s) {v : Nat}
    (hsucc : ∀ w, Edge edges v w → w ∈ s.seen) (hopen : ∀ u, s.Open u → Reaches edges u v) :
    (∀ w, Reaches edges v w → w ∈ v :: s.finished) ∨
      ∃ u, Search.Open { s with finished := v :: s.finished } u ∧ Mutual edges u v := by
  by_cases hall : ∀ z, Reaches edges v z → z ∈ v :: s.finished
  · exact Or.inl hall
  · simp only [not_forall] at hall
    obtain ⟨z, hz, hzf⟩ := hall
    obtain ⟨x, y, hvx, hx, hxy, hy, -⟩ :=
      exists_crossing (p := fun a => a ∈ v :: s.finished) hz List.mem_cons_self hzf
    have hyseen : y ∈ s.seen := by
      rcases List.mem_cons.mp hx with rfl | hx
      · exact hsucc y hxy
      · exact h.successors_seen x hx y hxy
    have hyopen : s.Open y := ⟨hyseen, fun hf => hy (List.mem_cons_of_mem v hf)⟩
    exact Or.inr ⟨y, ⟨hyopen.1, hy⟩, hopen y hyopen, hvx.tail hxy⟩

/-- Leaving an open node whose successors are entered keeps the search valid, provided
that every open node reaches it. -/
theorem Valid.finish {s : Search} (h : Valid edges s) {v : Nat} (hv : s.Open v)
    (hsucc : ∀ w, Edge edges v w → w ∈ s.seen)
    (hopen : ∀ u, s.Open u → Reaches edges u v) :
    Valid edges { s with finished := v :: s.finished } where
  seen_nodup := h.seen_nodup
  seen_lt := h.seen_lt
  finished_nodup := List.nodup_cons.mpr ⟨hv.2, h.finished_nodup⟩
  finished_seen w hw := by
    rcases List.mem_cons.mp hw with rfl | hw
    · exact hv.1
    · exact h.finished_seen w hw
  successors_seen w hw := by
    rcases List.mem_cons.mp hw with rfl | hw
    · exact hsucc
    · exact h.successors_seen w hw
  settled later w earlier hsplit := by
    cases later with
    | nil =>
      obtain ⟨rfl, rfl⟩ := List.cons.inj hsplit
      rcases h.settled_left hsucc hopen with hall | ⟨u, hu, hm⟩
      · exact Or.inl hall
      · exact Or.inr ⟨u, Or.inr hu, hm⟩
    | cons u later =>
      obtain ⟨rfl, htail⟩ := List.cons.inj hsplit
      rcases h.settled later w earlier htail with hall | ⟨x, hx, hm⟩
      · exact Or.inl hall
      · refine Or.inr ⟨x, ?_, hm⟩
        by_cases hxu : x = v
        · exact Or.inl (hxu ▸ List.mem_cons_self)
        · rcases hx with hx | hx
          · exact Or.inl (List.mem_cons_of_mem v hx)
          · exact Or.inr ⟨hx.1, by simpa [hxu] using hx.2⟩

/-- What entering a node does when the search is deep enough for the nodes not entered
yet and every open node reaches the new one. -/
def Enters (edges : List (List Nat)) (depth : Nat) : Prop :=
  ∀ s v, Valid edges s → v < edges.length → edges.length < depth + s.seen.length →
    (∀ u, s.Open u → Reaches edges u v) →
    Continues edges s (enter edges depth s v) ∧ v ∈ (enter edges depth s v).seen

/-- Entering several nodes in turn, each reached by the open nodes, enters them all. -/
theorem Enters.foldl {depth : Nat} (h : Enters edges depth) (ws : List Nat) {s : Search}
    (hs : Valid edges s) (hws : ∀ w ∈ ws, w < edges.length)
    (hdepth : edges.length < depth + s.seen.length)
    (hopen : ∀ w ∈ ws, ∀ u, s.Open u → Reaches edges u w) :
    Continues edges s (ws.foldl (enter edges depth) s) ∧
      ∀ w ∈ ws, w ∈ (ws.foldl (enter edges depth) s).seen := by
  induction ws generalizing s with
  | nil => exact ⟨.refl hs, fun w hw => absurd hw List.not_mem_nil⟩
  | cons w ws ih =>
    rw [List.foldl_cons]
    obtain ⟨hstep, hw⟩ := h s w hs (hws w List.mem_cons_self) hdepth
      (hopen w List.mem_cons_self)
    have hlen := hstep.length_le hs
    obtain ⟨hrest, hall⟩ := ih hstep.valid (fun x hx => hws x (List.mem_cons_of_mem w hx))
      (by omega)
      (fun x hx u hu => hopen x (List.mem_cons_of_mem w hx) u ((hstep.open_iff u).mp hu))
    refine ⟨hstep.trans hrest, fun x hx => ?_⟩
    rcases List.mem_cons.mp hx with rfl | hx
    · exact hrest.seen_sub hw
    · exact hall x hx

/-- At every depth, entering a node does what it should. -/
theorem enters (hwf : WellFormed edges) (depth : Nat) : Enters edges depth := by
  induction depth with
  | zero =>
    intro s v hs _ hdepth _
    have := length_le_of_nodup_lt hs.seen_nodup hs.seen_lt
    omega
  | succ depth ih =>
    intro s v hs hv hdepth hopen
    rw [enter]
    by_cases hseen : v ∈ s.seen
    · rw [if_pos (List.contains_iff_mem.mpr hseen)]
      exact ⟨.refl hs, hseen⟩
    rw [if_neg fun h => hseen (List.contains_iff_mem.mp h)]
    have hreach : ∀ u, Open { s with seen := v :: s.seen } u → Reaches edges u v := by
      intro u hu
      rcases (open_cons_iff hs hseen u).mp hu with hu | rfl
      · exact hopen u hu
      · exact .refl
    have hedge : ∀ w ∈ (successors edges v).reverse, Edge edges v w :=
      fun w hw => List.mem_reverse.mp hw
    obtain ⟨hin, hinseen⟩ := ih.foldl (successors edges v).reverse (hs.open hv hseen)
      (fun w hw => hwf v w (hedge w hw)) (by simp only [List.length_cons]; omega)
      (fun w hw u hu => (hreach u hu).tail (hedge w hw))
    have hvopen := (hin.open_iff v).mpr ((open_cons_iff hs hseen v).mpr (Or.inr rfl))
    refine ⟨⟨hin.valid.finish hvopen (fun w hw => hinseen w (List.mem_reverse.mpr hw))
      (fun u hu => hreach u ((hin.open_iff u).mp hu)), ?_, ?_⟩, hvopen.1⟩
    · exact fun u hu => hin.seen_sub (List.mem_cons_of_mem v hu)
    · intro u
      have hiff := (hin.open_iff u).trans (open_cons_iff hs hseen u)
      by_cases huv : u = v
      · subst huv
        simp [Open, hseen]
      · simp only [Open, huv, or_false, List.mem_cons, false_or] at hiff ⊢
        exact hiff

end Search

/-- The search from every node is valid, leaves no node open and enters every node. -/
theorem finishOrder_search (hwf : WellFormed edges) :
    ∃ s : Search, finishOrder edges = s.finished ∧ s.Valid edges ∧ (∀ v, ¬ s.Open v) ∧
      ∀ v, v < edges.length → v ∈ s.seen := by
  have hnone : ∀ v, ¬ Search.Open ⟨[], []⟩ v := fun v hv => absurd hv.1 List.not_mem_nil
  obtain ⟨hcont, hall⟩ := (Search.enters hwf (edges.length + 1)).foldl
    (List.range edges.length) Search.valid_start (fun w hw => List.mem_range.mp hw)
    (by simp) (fun w _ u hu => absurd hu (hnone u))
  exact ⟨_, rfl, hcont.valid, fun v hv => hnone v ((hcont.open_iff v).mp hv),
    fun v hv => hall v (List.mem_range.mpr hv)⟩

/-- The finishing order lists every node once. -/
theorem nodup_finishOrder (hwf : WellFormed edges) : (finishOrder edges).Nodup := by
  obtain ⟨s, hs, hvalid, -, -⟩ := finishOrder_search hwf
  exact hs ▸ hvalid.finished_nodup

theorem mem_finishOrder (hwf : WellFormed edges) (v : Nat) :
    v ∈ finishOrder edges ↔ v < edges.length := by
  obtain ⟨s, hs, hvalid, hnone, hall⟩ := finishOrder_search hwf
  rw [hs]
  refine ⟨fun hv => hvalid.seen_lt v (hvalid.finished_seen v hv), fun hv => ?_⟩
  by_contra hf
  exact hnone v ⟨hall v hv, hf⟩

/-- Everything reached from the member of a class finished last was finished before it. -/
theorem finishOrder_settled (hwf : WellFormed edges) {later earlier : List Nat} {v : Nat}
    (hsplit : finishOrder edges = later ++ v :: earlier)
    (hlast : ∀ u ∈ later, ¬ Mutual edges u v) {w : Nat} (hw : Reaches edges v w) :
    w ∈ v :: earlier := by
  obtain ⟨s, hs, hvalid, hnone, -⟩ := finishOrder_search hwf
  rcases hvalid.settled later v earlier (hs ▸ hsplit) with hall | ⟨u, hu | hu, hm⟩
  · exact hall w hw
  · exact absurd hm (hlast u hu)
  · exact absurd hu (hnone u)

/-- The components cut from the part of the finishing order read so far. -/
structure CutFrom (edges : List (List Nat)) (done : List Nat) (components : List (List Nat)) :
    Prop where
  /-- Every node read stands in some component. -/
  covers : ∀ v ∈ done, ∃ c ∈ components, v ∈ c
  /-- Each component is the class of a node read, and no node of it was read before. -/
  leaders : ∀ c ∈ components, ∃ later v earlier, done = later ++ v :: earlier ∧
    v < edges.length ∧ c = componentOf (reachTable edges) v ∧
    ∀ u ∈ later, ¬ Mutual edges u v
  /-- Components are disjoint, and none depends on one after it. -/
  ordered : components.Pairwise fun c d =>
    c.Disjoint d ∧ ∀ v ∈ c, ∀ w ∈ d, ¬ Edge edges v w

section

variable {done rest : List Nat} {cs : List (List Nat)} {v : Nat}

/-- A node outside all components is the first of its class to be read. -/
theorem CutFrom.first_of_class (hwf : WellFormed edges) (h : CutFrom edges done cs)
    (hnew : ∀ c ∈ cs, v ∉ c) : ∀ u ∈ done, ¬ Mutual edges u v := by
  intro u hu hm
  obtain ⟨c, hc, huc⟩ := h.covers u hu
  obtain ⟨_, x, _, _, hx, rfl, _⟩ := h.leaders c hc
  have hxu := (mem_componentOf hwf hx).mp huc
  exact hnew _ hc ((mem_componentOf hwf hx).mpr (hxu.trans hm))

/-- The class of the first of its members to be read is disjoint from the components cut
before, and depends on none of them. -/
theorem CutFrom.apart (hwf : WellFormed edges) (h : CutFrom edges done cs)
    (hsplit : finishOrder edges = done ++ v :: rest) (hv : v < edges.length)
    (hfirst : ∀ u ∈ done, ¬ Mutual edges u v) {d : List Nat} (hd : d ∈ cs) :
    (componentOf (reachTable edges) v).Disjoint d ∧
      ∀ a ∈ componentOf (reachTable edges) v, ∀ b ∈ d, ¬ Edge edges a b := by
  obtain ⟨later, x, earlier, hdone, hx, rfl, _⟩ := h.leaders d hd
  have hxdone : x ∈ done := by simp [hdone]
  refine ⟨fun a ha hd' => ?_, fun a ha b hb hab => ?_⟩
  · have hva := (mem_componentOf hwf hv).mp ha
    have hxa := (mem_componentOf hwf hx).mp hd'
    exact hfirst x hxdone (hxa.trans hva.symm)
  · have hva := (mem_componentOf hwf hv).mp ha
    have hxb := (mem_componentOf hwf hx).mp hb
    have hvx : Reaches edges v x := (hva.1.tail hab).trans hxb.2
    have hlate := finishOrder_settled hwf hsplit hfirst hvx
    have hnd := hsplit ▸ nodup_finishOrder hwf
    exact List.disjoint_of_nodup_append hnd hxdone hlate

/-- Reading one more node of the finishing order cuts off its class, unless it was cut
off before. -/
theorem CutFrom.addComponent (hwf : WellFormed edges) (h : CutFrom edges done cs)
    (hsplit : finishOrder edges = done ++ v :: rest) :
    CutFrom edges (done ++ [v]) (addComponent (reachTable edges) cs v) := by
  have hv : v < edges.length := (mem_finishOrder hwf v).mp (by simp [hsplit])
  have hleaders : ∀ c ∈ cs, ∃ later u earlier, done ++ [v] = later ++ u :: earlier ∧
      u < edges.length ∧ c = componentOf (reachTable edges) u ∧
      ∀ x ∈ later, ¬ Mutual edges x u := by
    intro c hc
    obtain ⟨later, u, earlier, hdone, hu⟩ := h.leaders c hc
    exact ⟨later, u, earlier ++ [v], by simp [hdone], hu⟩
  rw [Graph.addComponent]
  split
  · rename_i hany
    obtain ⟨c, hc, hvc⟩ := List.any_eq_true.mp hany
    refine ⟨fun u hu => ?_, hleaders, h.ordered⟩
    rcases List.mem_append.mp hu with hu | hu
    · exact h.covers u hu
    · exact ⟨c, hc, List.mem_singleton.mp hu ▸ List.contains_iff_mem.mp hvc⟩
  · rename_i hany
    have hnew : ∀ c ∈ cs, v ∉ c := fun c hc hvc =>
      hany (List.any_eq_true.mpr ⟨c, hc, List.contains_iff_mem.mpr hvc⟩)
    have hfirst := h.first_of_class hwf hnew
    refine ⟨fun u hu => ?_, fun c hc => ?_, ?_⟩
    · rcases List.mem_append.mp hu with hu | hu
      · obtain ⟨c, hc, huc⟩ := h.covers u hu
        exact ⟨c, List.mem_cons_of_mem _ hc, huc⟩
      · rw [List.mem_singleton.mp hu]
        exact ⟨_, List.mem_cons_self, (mem_componentOf hwf hv).mpr (.refl v)⟩
    · rcases List.mem_cons.mp hc with rfl | hc
      · exact ⟨done, v, [], by simp, hv, rfl, hfirst⟩
      · exact hleaders c hc
    · exact List.pairwise_cons.mpr ⟨fun d hd => h.apart hwf hsplit hv hfirst hd, h.ordered⟩

end

theorem cutFrom_foldl (hwf : WellFormed edges) (done rest : List Nat)
    (hsplit : finishOrder edges = done ++ rest) {cs : List (List Nat)}
    (h : CutFrom edges done cs) :
    CutFrom edges (finishOrder edges) (rest.foldl (addComponent (reachTable edges)) cs) := by
  induction rest generalizing done cs with
  | nil =>
    rw [hsplit, List.append_nil]
    exact h
  | cons v rest ih =>
    rw [List.foldl_cons]
    exact ih (done ++ [v]) (by simp [hsplit]) (h.addComponent hwf hsplit)

/-- The components cut from the finishing order condense every well-formed graph. -/
theorem components_condensing : Condensing components := by
  intro edges hwf
  have h : CutFrom edges (finishOrder edges) (components edges) :=
    cutFrom_foldl hwf [] (finishOrder edges) rfl
      ⟨fun v hv => absurd hv List.not_mem_nil, fun c hc => absurd hc List.not_mem_nil, .nil⟩
  have hclass : ∀ c ∈ components edges, ∃ u, u < edges.length ∧
      c = componentOf (reachTable edges) u := by
    intro c hc
    obtain ⟨_, u, _, _, hu, hcu, _⟩ := h.leaders c hc
    exact ⟨u, hu, hcu⟩
  refine ⟨?_, fun v => ⟨fun hv => ?_, fun hv => ?_⟩, fun c hc v hv w => ?_, fun c hc => ?_, ?_⟩
  · refine List.nodup_flatten.mpr ⟨fun c hc => ?_, h.ordered.imp And.left⟩
    obtain ⟨u, -, rfl⟩ := hclass c hc
    exact nodup_componentOf _ u
  · obtain ⟨c, hc, hvc⟩ := List.mem_flatten.mp hv
    obtain ⟨u, hu, rfl⟩ := hclass c hc
    exact Reaches.lt hwf ((mem_componentOf hwf hu).mp hvc).1 hu
  · obtain ⟨c, hc, hvc⟩ := h.covers v ((mem_finishOrder hwf v).mpr hv)
    exact List.mem_flatten.mpr ⟨c, hc, hvc⟩
  · obtain ⟨u, hu, rfl⟩ := hclass c hc
    have huv := (mem_componentOf hwf hu).mp hv
    rw [mem_componentOf hwf hu]
    exact ⟨huv.symm.trans, huv.trans⟩
  · obtain ⟨u, hu, rfl⟩ := hclass c hc
    exact List.ne_nil_of_mem ((mem_componentOf hwf hu).mpr (.refl u))
  · exact h.ordered.imp And.right

end CompileOrder.Graph
