import CompileOrder.Corpus.Closure
import CompileOrder.Proofs.Corpus.Lookup
import CompileOrder.Proofs.Graph.Reachability
import Mathlib.Order.Bounds.Basic

/-!
# The closure is a least fixed point

Each step of the search adds exactly the units that the thing it looks at needs: a name
looked up before has its units already, and a library without units defines no names.
So the needs of every required unit that is no longer queued are required. As no unit
is queued twice, the queue is empty in the end, and the required units are closed under
all needs; each of them is in every closed set, because it was needed.
-/

namespace CompileOrder.Corpus

variable {c : Corpus} {tops : List Request}

/-- What a set of positions has to satisfy to cover some requests. -/
structure ClosedUnder (c : Corpus) (tops : List Request) (S : Set Nat) : Prop where
  /-- The architectures that match a request. -/
  requested : ∀ r ∈ tops, ∀ i u a, c.units[i]? = some u → u.architecture? = some a →
    u.library = r.library → u.name = r.entity → (∀ b, r.architecture = some b → a = b) → i ∈ S
  /-- The units other than architectures whose name a covered unit uses. -/
  used : ∀ i ∈ S, ∀ u, c.units[i]? = some u →
    ∀ library names, (library, names) ∈ u.uses → ∀ name ∈ names,
    ∀ j v, c.units[j]? = some v → v.isArchitecture = false → v.library = library →
      v.name = name → j ∈ S
  /-- The targets of the instances of a covered unit. -/
  instantiated : ∀ i ∈ S, ∀ u, c.units[i]? = some u →
    ∀ inst ∈ u.instances, ∀ j ∈ c.targets u inst, j ∈ S

/-- The positions that the names of one entry of a use table lead to. -/
def entryNeeds (c : Corpus) (entry : String × List String) : Set Nat :=
  {j | ∃ name ∈ entry.2, j ∈ c.named entry.1 name}

/-- The positions that the uses and instances of a unit lead to. -/
def unitNeeds (c : Corpus) (u : DesignUnit) : Set Nat :=
  {j | ∃ entry ∈ u.uses, j ∈ c.entryNeeds entry} ∪ {j | ∃ inst ∈ u.instances, j ∈ c.targets u inst}

/-- The positions that the unit at a position leads to. -/
def needsAt (c : Corpus) (i : Nat) : Set Nat :=
  {j | ∃ u, c.units[i]? = some u ∧ j ∈ c.unitNeeds u}

/-- Covering some requests means to hold what they stand for and all that is needed. -/
theorem closedUnder_iff {S : Set Nat} :
    ClosedUnder c tops S ↔
      (∀ r ∈ tops, ∀ i ∈ c.candidates r, i ∈ S) ∧ ∀ i ∈ S, c.needsAt i ⊆ S := by
  constructor
  · intro h
    refine ⟨fun r hr i hi => ?_, fun i hi j hj => ?_⟩
    · obtain ⟨u, a, hu, ha, hlibrary, hname, hchoice⟩ := mem_candidates.mp hi
      exact h.requested r hr i u a hu ha hlibrary hname hchoice
    · obtain ⟨u, hu, hj⟩ := hj
      rcases hj with ⟨⟨library, names⟩, hentry, name, hname, hj⟩ | ⟨inst, hinst, hj⟩
      · obtain ⟨v, hv, hkind, hlibrary, hvname⟩ := mem_named.mp hj
        exact h.used i hi u hu library names hentry name hname j v hv hkind hlibrary hvname
      · exact h.instantiated i hi u hu inst hinst j hj
  · rintro ⟨hrequested, hneeds⟩
    refine ⟨?_, ?_, ?_⟩
    · intro r hr i u a hu ha hlibrary hname hchoice
      exact hrequested r hr i (mem_candidates.mpr ⟨u, a, hu, ha, hlibrary, hname, hchoice⟩)
    · intro i hi u hu library names hentry name hname j v hv hkind hlibrary hvname
      have hj : j ∈ c.named library name := mem_named.mpr ⟨v, hv, hkind, hlibrary, hvname⟩
      exact hneeds i hi ⟨u, hu, Or.inl ⟨(library, names), hentry, name, hname, hj⟩⟩
    · intro i hi u hu inst hinst j hj
      exact hneeds i hi ⟨u, hu, Or.inr ⟨inst, hinst, hj⟩⟩

/-- The positions of all units cover any requests. -/
theorem closedUnder_positions (c : Corpus) (tops : List Request) :
    ClosedUnder c tops {i | i < c.units.length} := by
  refine closedUnder_iff.mpr ⟨fun r _ i hi => lt_of_mem_positions hi, ?_⟩
  rintro i - j ⟨u, -, ⟨entry, -, name, -, hj⟩ | ⟨inst, -, hj⟩⟩
  · exact lt_of_mem_positions hj
  · exact lt_of_mem_targets hj

namespace Worklist

variable {s s' s'' : Worklist} {N N' : Set Nat} {α : Type}

/-- Between two states the units of `N`, and no others, became required, and those of them
that were not required before were queued. -/
structure Adds (N : Set Nat) (s s' : Worklist) : Prop where
  /-- The units required. -/
  mem_required : ∀ j, j ∈ s'.required ↔ j ∈ s.required ∨ j ∈ N
  /-- The units queued. -/
  mem_queue : ∀ j, j ∈ s'.queue ↔ j ∈ s.queue ∨ (j ∈ N ∧ j ∉ s.required)
  /-- As many units became required as were queued. -/
  length_eq : s'.required.length + s.queue.length = s.required.length + s'.queue.length
  /-- No unit becomes required twice. -/
  nodup : s.required.Nodup → s'.required.Nodup

namespace Adds

/-- Nothing is added where all that is needed is required. -/
theorem of_subset (hr : s'.required = s.required) (hq : s'.queue = s.queue)
    (h : ∀ j ∈ N, j ∈ s.required) : Adds N s s' where
  mem_required j := by
    rw [hr]
    exact ⟨Or.inl, fun hj => hj.elim id (h j)⟩
  mem_queue j := by
    rw [hq]
    exact ⟨Or.inl, fun hj => hj.elim id fun hj => absurd (h j hj.1) hj.2⟩
  length_eq := by rw [hr, hq]
  nodup hs := hr ▸ hs

/-- What one step and then another adds. -/
theorem trans (h : Adds N s s') (h' : Adds N' s' s'') : Adds (N ∪ N') s s'' where
  mem_required j := by
    rw [h'.mem_required, h.mem_required, or_assoc]
    rfl
  mem_queue j := by
    rw [h'.mem_queue, h.mem_queue, h.mem_required, Set.mem_union]
    tauto
  length_eq := by
    have := h.length_eq
    have := h'.length_eq
    omega
  nodup hs := h'.nodup (h.nodup hs)

/-- Only the required and the queued units of the first state count. -/
theorem of_eq (h : Adds N s' s'') (hr : s'.required = s.required) (hq : s'.queue = s.queue) :
    Adds N s s'' where
  mem_required j := hr ▸ h.mem_required j
  mem_queue j := hr ▸ hq ▸ h.mem_queue j
  length_eq := hr ▸ hq ▸ h.length_eq
  nodup hs := h.nodup (hr ▸ hs)

end Adds

/-- Steps that each add what one member of a list needs add what all of them need; `I` is
what the steps rely on and keep. -/
theorem foldl_adds {I : Worklist → Prop} {f : Worklist → α → Worklist} {needs : α → Set Nat}
    (xs : List α) (hf : ∀ x ∈ xs, ∀ s, I s → Adds (needs x) s (f s x) ∧ I (f s x)) (hs : I s) :
    Adds {j | ∃ x ∈ xs, j ∈ needs x} s (xs.foldl f s) ∧ I (xs.foldl f s) := by
  induction xs generalizing s with
  | nil => exact ⟨.of_subset rfl rfl (by simp), hs⟩
  | cons x xs ih =>
    obtain ⟨hadds, hkeep⟩ := hf x List.mem_cons_self s hs
    obtain ⟨hadds', hkeep'⟩ := ih (fun y hy => hf y (List.mem_cons_of_mem x hy)) hkeep
    have hneeds : {j | ∃ y ∈ x :: xs, j ∈ needs y} = needs x ∪ {j | ∃ y ∈ xs, j ∈ needs y} := by
      ext j
      simp
    rw [hneeds]
    exact ⟨hadds.trans hadds', hkeep'⟩

theorem require_adds (s : Worklist) (i : Nat) : Adds {i} s (s.require i) := by
  rw [require]
  split
  · rename_i hmem
    refine .of_subset rfl rfl fun j hj => ?_
    rw [Set.mem_singleton_iff.mp hj]
    exact List.contains_iff_mem.mp hmem
  · rename_i hmem
    have hnot : i ∉ s.required := fun hi => hmem (List.contains_iff_mem.mpr hi)
    refine ⟨fun j => ?_, fun j => ?_, ?_, fun hs => List.nodup_cons.mpr ⟨hnot, hs⟩⟩
    · rw [List.mem_cons, Set.mem_singleton_iff, or_comm]
    · have hj : j = i → j ∉ s.required := fun he => he ▸ hnot
      simp only [List.mem_append, List.mem_singleton, Set.mem_singleton_iff]
      tauto
    · simp only [List.length_cons, List.length_append, List.length_nil]
      omega

@[simp] theorem reached_require (s : Worklist) (i : Nat) :
    (s.require i).reached = s.reached := by
  rw [require]
  split <;> rfl

/-- Requiring some units adds these, and looks up no names. -/
theorem foldl_require_adds (s : Worklist) (found : List Nat) :
    Adds {j | j ∈ found} s (found.foldl require s) ∧
      (found.foldl require s).reached = s.reached := by
  have hstep : ∀ i ∈ found, ∀ t : Worklist, t.reached = s.reached →
      Adds {i} t (t.require i) ∧ (t.require i).reached = s.reached :=
    fun i _ t ht => ⟨require_adds t i, (reached_require t i).trans ht⟩
  simpa using foldl_adds found hstep rfl

theorem requireOr_adds (s : Worklist) (d : Diagnostic) (found : List Nat) :
    Adds {j | j ∈ found} s (s.requireOr d found) ∧ (s.requireOr d found).reached = s.reached := by
  rw [requireOr]
  split
  · obtain ⟨hadds, hreached⟩ := foldl_require_adds (s.report d) found
    exact ⟨hadds.of_eq rfl rfl, hreached⟩
  · exact foldl_require_adds s found

/-- The units of every name looked up are required. -/
def Marked (c : Corpus) (s : Worklist) : Prop :=
  ∀ p ∈ s.reached, ∀ j ∈ c.named p.1 p.2, j ∈ s.required

theorem Marked.of_adds (hs : Marked c s) (h : Adds N s s') (hr : s'.reached = s.reached) :
    Marked c s' :=
  fun p hp j hj => (h.mem_required j).mpr (Or.inl (hs p (hr ▸ hp) j hj))

/-- Looking up a name adds its units, whether it was looked up before or not. -/
theorem addName_adds (hs : Marked c s) (u : DesignUnit) (library name : String) :
    Adds {j | j ∈ c.named library name} s (addName c u library s name) ∧
      Marked c (addName c u library s name) := by
  rw [addName]
  split
  · rename_i hreached
    exact ⟨.of_subset rfl rfl (hs _ (List.contains_iff_mem.mp hreached)), hs⟩
  · obtain ⟨hadds, hreached⟩ := requireOr_adds
      { s with reached := (library, name) :: s.reached } (.unresolvedUse u library name)
      (c.named library name)
    refine ⟨hadds.of_eq rfl rfl, fun p hp j hj => (hadds.mem_required j).mpr ?_⟩
    rw [hreached] at hp
    rcases List.mem_cons.mp hp with rfl | hp
    · exact Or.inr hj
    · exact Or.inl (hs p hp j hj)

/-- Looking at an entry of a use table adds the units of its names. -/
theorem addUses_adds (hs : Marked c s) (u : DesignUnit) (entry : String × List String) :
    Adds (c.entryNeeds entry) s (addUses c u s entry) ∧ Marked c (addUses c u s entry) := by
  rw [addUses]
  split
  · exact foldl_adds entry.2 (fun name _ t ht => addName_adds ht u entry.1 name) hs
  · rename_i hlibrary
    have hnone : ∀ j ∈ c.entryNeeds entry, j ∈ s.required := by
      rintro j ⟨name, -, hj⟩
      rw [named_eq_nil (Bool.not_eq_true _ ▸ hlibrary)] at hj
      exact absurd hj List.not_mem_nil
    split
    · exact ⟨.of_subset rfl rfl hnone, hs⟩
    · exact ⟨.of_subset rfl rfl hnone, hs⟩

/-- Looking at an instance adds its targets. -/
theorem addInstance_adds (hs : Marked c s) (u : DesignUnit) (inst : Instance) :
    Adds {j | j ∈ c.targets u inst} s (addInstance c u s inst) ∧
      Marked c (addInstance c u s inst) := by
  obtain ⟨hadds, hreached⟩ := requireOr_adds s (.instanceNotFound u inst) (c.targets u inst)
  exact ⟨hadds, hs.of_adds hadds hreached⟩

/-- Looking at a request adds the architectures it stands for. -/
theorem addTop_adds (hs : Marked c s) (r : Request) :
    Adds {j | j ∈ c.candidates r} s (addTop c s r) ∧ Marked c (addTop c s r) := by
  rw [addTop]
  split
  · obtain ⟨hadds, hreached⟩ := foldl_require_adds
      (s.report (.conflict r ((c.unitsAt (c.candidates r)).filterMap DesignUnit.architecture?)))
      (c.candidates r)
    have hadds' := hadds.of_eq (s := s) rfl rfl
    exact ⟨hadds', hs.of_adds hadds' hreached⟩
  · obtain ⟨hadds, hreached⟩ := requireOr_adds s (.topNotFound r) (c.candidates r)
    exact ⟨hadds, hs.of_adds hadds hreached⟩

/-- A visit adds exactly what the unit there needs. -/
theorem visit_adds (hs : Marked c s) (i : Nat) :
    Adds (c.needsAt i) s (visit c s i) ∧ Marked c (visit c s i) := by
  rw [visit]
  split
  · rename_i u hu
    obtain ⟨huses, hs'⟩ :=
      foldl_adds u.uses.entries (fun entry _ t ht => addUses_adds ht u entry) hs
    obtain ⟨hinstances, hs''⟩ :=
      foldl_adds u.instances (fun inst _ t ht => addInstance_adds ht u inst) hs'
    have hneeds : c.needsAt i = c.unitNeeds u := by
      ext j
      simp [needsAt, hu]
    exact ⟨hneeds ▸ huses.trans hinstances, hs''⟩
  · rename_i hnone
    refine ⟨.of_subset rfl rfl ?_, hs⟩
    rintro j ⟨u, hu, -⟩
    rw [hnone] at hu
    cases hu

/-- What holds before every visit. -/
structure Valid (c : Corpus) (tops : List Request) (s : Worklist) : Prop where
  /-- The units of the names looked up are required. -/
  marked : Marked c s
  /-- No unit is required twice. -/
  nodup : s.required.Nodup
  /-- Only required units are queued. -/
  queued : ∀ i ∈ s.queue, i ∈ s.required
  /-- The architectures requested are required. -/
  requested : ∀ r ∈ tops, ∀ i ∈ c.candidates r, i ∈ s.required
  /-- A required unit waits in the queue, or all it needs is required. -/
  followed : ∀ i ∈ s.required, i ∈ s.queue ∨ ∀ j ∈ c.needsAt i, j ∈ s.required
  /-- Every set that covers the requests holds the required units. -/
  least : ∀ S, ClosedUnder c tops S → ∀ i ∈ s.required, i ∈ S

namespace Valid

/-- There are no more required units than units. -/
theorem length_le (hs : Valid c tops s) : s.required.length ≤ c.units.length :=
  Graph.length_le_of_nodup_lt hs.nodup (hs.least _ (closedUnder_positions c tops))

/-- With nothing left to visit, the required units are the least set that covers the
requests. -/
theorem isLeast (hs : Valid c tops s) (hqueue : s.queue = []) :
    IsLeast {S | ClosedUnder c tops S} {i | i ∈ s.required} := by
  refine ⟨closedUnder_iff.mpr ⟨hs.requested, fun i hi => ?_⟩, fun S hS i hi => hs.least S hS i hi⟩
  rcases hs.followed i hi with hwaits | hneeds
  · rw [hqueue] at hwaits
    exact absurd hwaits List.not_mem_nil
  · exact hneeds

/-- Visiting the first unit of the queue keeps what holds. -/
theorem visit {i : Nat} {rest : List Nat} (hs : Valid c tops s) (hqueue : s.queue = i :: rest) :
    Valid c tops (visit c { s with queue := rest } i) := by
  obtain ⟨hadds, hmarked⟩ := visit_adds (s := { s with queue := rest }) hs.marked i
  have hsub : ∀ j ∈ s.required, j ∈ (Worklist.visit c { s with queue := rest } i).required :=
    fun j hj => (hadds.mem_required j).mpr (Or.inl hj)
  have hi : i ∈ s.required := hs.queued i (by simp [hqueue])
  refine ⟨hmarked, hadds.nodup hs.nodup, ?_, fun r hr j hj => hsub j (hs.requested r hr j hj), ?_,
    ?_⟩
  · intro j hj
    rcases (hadds.mem_queue j).mp hj with hj | ⟨hj, -⟩
    · exact hsub j (hs.queued j (by simp [hqueue, hj]))
    · exact (hadds.mem_required j).mpr (Or.inr hj)
  · intro j hj
    by_cases hold : j ∈ s.required
    · rcases hs.followed j hold with hwaits | hneeds
      · rcases List.mem_cons.mp (hqueue ▸ hwaits) with rfl | hwaits
        · exact Or.inr fun k hk => (hadds.mem_required k).mpr (Or.inr hk)
        · exact Or.inl ((hadds.mem_queue j).mpr (Or.inl hwaits))
      · exact Or.inr fun k hk => hsub k (hneeds k hk)
    · rcases (hadds.mem_required j).mp hj with hj | hj
      · exact absurd hj hold
      · exact Or.inl ((hadds.mem_queue j).mpr (Or.inr ⟨hj, hold⟩))
  · intro S hS j hj
    rcases (hadds.mem_required j).mp hj with hj | hj
    · exact hs.least S hS j hj
    · exact (closedUnder_iff.mp hS).2 i (hs.least S hS i hi) hj

end Valid

/-- When the requests are looked at, the search is ready for its first visit. -/
theorem valid_addTops (c : Corpus) (tops : List Request) :
    Valid c tops (tops.foldl (addTop c) {}) ∧
      (tops.foldl (addTop c) {}).required.length = (tops.foldl (addTop c) {}).queue.length := by
  have hstart : Marked c {} := fun p hp => absurd hp List.not_mem_nil
  obtain ⟨hadds, hmarked⟩ := foldl_adds tops (fun r _ t ht => addTop_adds ht r) hstart
  have hrequired : ∀ j, j ∈ (tops.foldl (addTop c) {}).required ↔
      ∃ r ∈ tops, j ∈ c.candidates r := fun j => by simpa using hadds.mem_required j
  have hqueue : ∀ j, j ∈ (tops.foldl (addTop c) {}).queue ↔ ∃ r ∈ tops, j ∈ c.candidates r :=
    fun j => by simpa using hadds.mem_queue j
  refine ⟨⟨hmarked, hadds.nodup List.nodup_nil, ?_, ?_, ?_, ?_⟩, by simpa using hadds.length_eq⟩
  · exact fun i hi => (hrequired i).mpr ((hqueue i).mp hi)
  · exact fun r hr i hi => (hrequired i).mpr ⟨r, hr, hi⟩
  · exact fun i hi => Or.inl ((hqueue i).mpr ((hrequired i).mp hi))
  · intro S hS i hi
    obtain ⟨r, hr, hi⟩ := (hrequired i).mp hi
    exact (closedUnder_iff.mp hS).1 r hr i hi

/-- A search with a visit left for every unit not visited yet empties its queue. -/
theorem run_valid (visits : Nat) (hs : Valid c tops s)
    (hvisits : c.units.length + s.queue.length = visits + s.required.length) :
    Valid c tops (run c visits s) ∧ (run c visits s).queue = [] := by
  induction visits generalizing s with
  | zero =>
    have hlength := hs.length_le
    have hqueue : s.queue.length = 0 := by omega
    exact ⟨hs, List.length_eq_zero_iff.mp hqueue⟩
  | succ visits ih =>
    rw [run]
    split
    · rename_i hqueue
      exact ⟨hs, hqueue⟩
    · rename_i i rest hqueue
      obtain ⟨hadds, -⟩ := visit_adds (s := { s with queue := rest }) hs.marked i
      have hlength := hadds.length_eq
      refine ih (hs.visit hqueue) ?_
      rw [hqueue, List.length_cons] at hvisits
      simp only at hlength
      omega

end Worklist

/-- The search ends with an empty queue and the least set that covers the requests. -/
theorem needed_isLeast (c : Corpus) (tops : List Request) :
    (c.needed tops).queue = [] ∧
      IsLeast {S | ClosedUnder c tops S} {i | i ∈ (c.needed tops).required} := by
  obtain ⟨hvalid, hlength⟩ := Worklist.valid_addTops c tops
  obtain ⟨hvalid', hqueue⟩ := Worklist.run_valid c.units.length hvalid (by omega)
  exact ⟨hqueue, hvalid'.isLeast hqueue⟩

/-- The positions of the needed units, in increasing order. -/
def neededPositions (c : Corpus) (tops : List Request) : List Nat :=
  (c.units.zipIdx.filter fun x => (c.needed tops).required.contains x.2).map (·.2)

theorem pairwise_neededPositions (c : Corpus) (tops : List Request) :
    (c.neededPositions tops).Pairwise (· < ·) := pairwise_filter_zipIdx c.units _

theorem mem_neededPositions (c : Corpus) (tops : List Request) (i : Nat) :
    i ∈ c.neededPositions tops ↔ i ∈ (c.needed tops).required := by
  simp only [neededPositions, List.mem_map, List.mem_filter, Prod.exists,
    List.mk_mem_zipIdx_iff_getElem?, List.contains_iff_mem]
  constructor
  · rintro ⟨u, j, ⟨-, hj⟩, rfl⟩
    exact hj
  · intro hi
    have hlt : i < c.units.length :=
      (needed_isLeast c tops).2.2 (closedUnder_positions c tops) hi
    exact ⟨c.units[i], i, ⟨List.getElem?_eq_getElem hlt, hi⟩, rfl⟩

/-- The closure lists the units at the positions needed. -/
theorem units_closure (c : Corpus) (tops : List Request) :
    (c.closure tops).1.units = (c.neededPositions tops).filterMap fun i => c.units[i]? := by
  let kept := c.units.zipIdx.filter fun x => (c.needed tops).required.contains x.2
  have hkept : ∀ x ∈ kept, c.units[x.2]? = some x.1 := fun x hx =>
    List.mk_mem_zipIdx_iff_getElem?.mp (List.mem_filter.mp hx).1
  calc kept.map (·.1) = kept.filterMap (some ∘ (·.1)) := by rw [List.filterMap_eq_map]
    _ = kept.filterMap ((fun i => c.units[i]?) ∘ (·.2)) :=
        List.filterMap_congr fun x hx => (hkept x hx).symm
    _ = (kept.map (·.2)).filterMap fun i => c.units[i]? := by rw [List.filterMap_map]

/-- The closure of some requests lists, in corpus order and each once, the units at the
least set of positions that holds the architectures requested and, with every unit, the
units it uses by name and the targets of its instances. -/
theorem closure_isLeast (c : Corpus) (tops : List Request) :
    ∃ is : List Nat, is.Pairwise (· < ·) ∧ (∀ i ∈ is, i < c.units.length) ∧
      IsLeast {S | ClosedUnder c tops S} {i | i ∈ is} ∧
      (c.closure tops).1.units = is.filterMap fun i => c.units[i]? := by
  have hset : {i | i ∈ c.neededPositions tops} = {i | i ∈ (c.needed tops).required} :=
    Set.ext (mem_neededPositions c tops)
  have hleast : IsLeast {S | ClosedUnder c tops S} {i | i ∈ c.neededPositions tops} :=
    hset ▸ (needed_isLeast c tops).2
  exact ⟨c.neededPositions tops, pairwise_neededPositions c tops,
    hleast.2 (closedUnder_positions c tops), hleast, units_closure c tops⟩

end CompileOrder.Corpus
