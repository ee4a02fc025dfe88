import CompileOrder.Proofs.FileGraph.StrategyAgreement
import CompileOrder.Proofs.FileGraph.Units

/-!
# The build order of a set of units

Files are gathered in the order in which their units are met, and a unit met twice is
folded into its file twice; neither shows in the end. The files with their links are the
same up to their order. Levels by component are determined by the links alone: the level of
a file is the greatest of bounds that mention only lower levels. So the sorted files are the
same as well, and what is reported is the same up to its order.
-/

namespace CompileOrder

open CompileOrder.Graph CompileOrder.Levels Relation

/-- The record of a file depends on which units are in it, if these are of one library. -/
theorem SourceFile.ofUnits_congr (crossLibrary : Bool) (name : String)
    {units units' : List DesignUnit} (hsame : ∀ u, u ∈ units ↔ u ∈ units')
    (hlibrary : ∀ u ∈ units, ∀ v ∈ units, u.library = v.library) :
    ofUnits crossLibrary name units = ofUnits crossLibrary name units' := by
  have hfirst : units.head?.map (·.library) = units'.head?.map (·.library) := by
    cases units with
    | nil =>
      have hnil : units' = [] := List.eq_nil_iff_forall_not_mem.mpr fun u hu =>
        List.not_mem_nil ((hsame u).mpr hu)
      rw [hnil]
    | cons u us =>
      cases units' with
      | nil => exact absurd ((hsame u).mp List.mem_cons_self) List.not_mem_nil
      | cons v vs =>
        have hv := (hsame v).mpr List.mem_cons_self
        exact congrArg some (hlibrary u List.mem_cons_self v hv)
  simp only [ofUnits, hfirst]
  congr 1
  · exact Text.nameSet_congr (by simp [hsame])
  · exact Text.orders_pairPrecedes.sortedSet_congr (by simp [hsame])

namespace FileGraph

section

variable (crossLibrary : Bool) {units units' : List DesignUnit}
  (hsame : ∀ u, u ∈ units ↔ u ∈ units') (hlibrary : OneLibraryPerFile units)
include hsame hlibrary

/-- The same units are gathered into the same files. -/
theorem gather_perm : (gather crossLibrary units).Perm (gather crossLibrary units') := by
  have hnames : (units.map (·.file)).eraseDups.Perm (units'.map (·.file)).eraseDups :=
    (List.perm_ext_iff_of_nodup (Text.nodup_eraseDups _) (Text.nodup_eraseDups _)).mpr
      fun name => by simp [List.mem_eraseDups, hsame]
  have hrecord : ∀ name,
      SourceFile.ofUnits crossLibrary name (units.filter fun u => u.file == name) =
        .ofUnits crossLibrary name (units'.filter fun u => u.file == name) := by
    intro name
    refine SourceFile.ofUnits_congr crossLibrary name (by simp [hsame]) fun u hu v hv => ?_
    simp only [List.mem_filter, beq_iff_eq] at hu hv
    exact hlibrary u hu.1 v hv.1 (hu.2.trans hv.2.symm)
  simp only [gather, hrecord]
  exact hnames.map _

/-- The graphs of the same units have the same files. -/
theorem files_perm :
    (ofUnits crossLibrary units).files.Perm (ofUnits crossLibrary units').files := by
  have hgather := gather_perm crossLibrary hsame hlibrary
  rw [files_ofUnits, files_ofUnits, SourceFile.linked_congr fun f => hgather.mem_iff]
  exact hgather.map _

end

variable {condense : List (List Nat) → List (List Nat)} {g g' : FileGraph} {s : Strategy}
  {x : SourceFile}

/-- Graphs with the same files leave the same names undefined. -/
theorem undefined_perm (hfiles : g.files.Perm g'.files) : g.undefined.Perm g'.undefined := by
  have hany : ∀ p : SourceFile → Bool, g.files.any p = g'.files.any p := fun p => hfiles.any_eq
  simp only [undefined, hany]
  exact hfiles.flatMap_right _

/-- The cycles reported are made of the names of the files on them. -/
theorem cycles_eq_map (condense : List (List Nat) → List (List Nat)) (g : FileGraph) :
    g.cycles condense = ((g.cycles condense).filterMap Diagnostic.cycle?).map .dependencyCycle := by
  rw [filterMap_cycle?_cycles, cycles, List.map_map]
  rfl

section

variable (h : g.Coherent) (h' : g'.Coherent) (hfiles : g.files.Perm g'.files)
include h h' hfiles

/-- Every file of one build order stands in the other one, at some level. -/
theorem exists_counterpart (hx : x ∈ g.sorted condense s) :
    ∃ level, { x with level := level } ∈ g'.sorted condense s := by
  obtain ⟨i, f, hf, rfl⟩ := (mem_sorted h x).mp hx
  obtain ⟨j, hj⟩ := List.mem_iff_getElem?.mp (hfiles.mem_iff.mp (List.mem_of_getElem? hf))
  exact ⟨_, (mem_sorted h' _).mpr ⟨j, f, hj, rfl⟩⟩

/-- Mutual dependence in one build order is mutual dependence in the other one. -/
theorem mutuallyDependent_eq (condense : List (List Nat) → List (List Nat)) (s : Strategy) :
    MutuallyDependent (g.sorted condense s) = MutuallyDependent (g'.sorted condense s) := by
  rw [mutuallyDependent_sorted h, mutuallyDependent_sorted h']
  funext a b
  rw [MutuallyDependent, MutuallyDependent, dependsOn_congr fun f => hfiles.mem_iff]

end

section

variable (hc : Condensing condense) (h : g.Coherent) (h' : g'.Coherent)
  (hfiles : g.files.Perm g'.files)
include hc h h' hfiles

/-- Graphs with the same files have the same cycles. -/
theorem cycles_perm : (g.cycles condense).Perm (g'.cycles condense) := by
  have hreachable : MutuallyReachable g.files = MutuallyReachable g'.files := by
    funext names
    simp only [MutuallyReachable, dependsOn_congr fun f => hfiles.mem_iff, List.mem_map,
      hfiles.mem_iff]
  rw [cycles_eq_map, cycles_eq_map condense g']
  refine List.Perm.map _ ((List.perm_ext_iff_of_nodup (nodup_reports hc h)
    (nodup_reports hc h')).mpr fun names => ?_)
  rw [mem_reports hc h, mem_reports hc h', hreachable]

/-- No file has a higher level by component in the one build order than in the other. -/
theorem level_le {level : Nat} (hx : x ∈ g.sorted condense .topological)
    (hy : { x with level := level } ∈ g'.sorted condense .topological) : x.level ≤ level := by
  have hmutual := mutuallyDependent_eq h h' hfiles condense .topological
  induction hn : x.level using Nat.strong_induction_on generalizing x level with
  | _ n ih =>
    have hupper := (level_isGreatest hc h' hy).2
    rcases (level_isGreatest hc h hx).1 with hown | ⟨f, hf, hout, ⟨b, hb, hinside⟩, hstep⟩
    · split at hown
      · rename_i hsome
        obtain ⟨f, hf, hdep, hne⟩ := hsome
        obtain ⟨m, hf'⟩ := exists_counterpart h h' hfiles hf
        have hone : 1 ≤ level := by
          have hown' := hupper (Set.mem_insert _ _)
          rwa [if_pos ⟨_, hf', hmutual ▸ hdep, hne⟩] at hown'
        omega
      · omega
    · obtain ⟨m, hf'⟩ := exists_counterpart h h' hfiles hf
      have hle : f.level ≤ m := ih f.level (by omega) hf hf' rfl
      have habove : m + 1 ≤ level :=
        hupper (Or.inr ⟨_, hf', hmutual ▸ hout, ⟨b, hb, hmutual ▸ hinside⟩, rfl⟩)
      omega

/-- Every file by component of one build order stands in the other one. -/
theorem mem_sorted_of_mem (hx : x ∈ g.sorted condense .topological) :
    x ∈ g'.sorted condense .topological := by
  obtain ⟨level, hy⟩ := exists_counterpart h h' hfiles hx
  have hle := level_le hc h h' hfiles hx hy
  have hge : level ≤ x.level := level_le hc h' h hfiles.symm hy hx
  obtain rfl : level = x.level := Nat.le_antisymm hge hle
  exact hy

/-- Graphs with the same files have the same build order by component. -/
theorem sorted_topological_eq :
    g.sorted condense .topological = g'.sorted condense .topological := by
  have hasymm : Std.Asymm fun f k : SourceFile =>
      k.level < f.level ∨ (f.level = k.level ∧ f.name < k.name) := by
    refine ⟨fun f k hfk hkf => ?_⟩
    rcases hfk with hlt | ⟨heq, hlt⟩ <;> rcases hkf with hlt' | ⟨heq', hlt'⟩
    · omega
    · omega
    · omega
    · exact lt_asymm hlt hlt'
  exact (sorted_pairwise h).eq_of_mem_iff (sorted_pairwise h') fun x =>
    ⟨mem_sorted_of_mem hc h h' hfiles, mem_sorted_of_mem hc h' h hfiles.symm⟩

end

/-- Without cycles the build order is that by component. -/
theorem sorted_propagate_eq (hc : Condensing condense) (h : g.Coherent)
    (hacyclic : ∀ name, ¬ TransGen (DependsOn g.files) name name) :
    g.sorted condense .propagate = g.sorted condense .topological := by
  rw [sorted, sorted, levelled, levelled, levels_eq hc h (h.edges_acyclic hacyclic)]

end FileGraph

/-- Lists of the same units, in any order and with any repetitions, have the same build order
and the same findings up to order, when the units of a file belong to one library: always
with levels by component, and without cycles also with levels by propagation. -/
theorem orderFiles_of_same_units {condense : List (List Nat) → List (List Nat)}
    (hc : Condensing condense) {units units' : List DesignUnit}
    (hsame : ∀ u, u ∈ units ↔ u ∈ units') (hlibrary : OneLibraryPerFile units)
    (rules : OrderRules)
    (hrules : rules.strategy = .propagate →
      ∀ name, ¬ TransGen (DependsOn (orderFiles condense units rules).1) name name) :
    (orderFiles condense units rules).1 = (orderFiles condense units' rules).1 ∧
      (orderFiles condense units rules).2.Perm (orderFiles condense units' rules).2 := by
  have h := FileGraph.ofUnits_coherent rules.crossLibrary units
  have h' := FileGraph.ofUnits_coherent rules.crossLibrary units'
  have hfiles := FileGraph.files_perm rules.crossLibrary hsame hlibrary
  have hundefined := FileGraph.undefined_perm hfiles
  have htopological := FileGraph.sorted_topological_eq hc h h' hfiles
  simp only [orderFiles] at hrules ⊢
  cases hs : rules.strategy with
  | topological => exact ⟨htopological, hundefined.append (FileGraph.cycles_perm hc h h' hfiles)⟩
  | propagate =>
    have hacyclic := hrules hs
    rw [FileGraph.dependsOn_sorted h] at hacyclic
    have hacyclic' := hacyclic
    rw [dependsOn_congr fun f => hfiles.mem_iff] at hacyclic'
    rw [FileGraph.sorted_propagate_eq hc h hacyclic, FileGraph.sorted_propagate_eq hc h' hacyclic']
    exact ⟨htopological, hundefined.append (.refl _)⟩

namespace Loop

/-- The units from last to first, the two packages of the loop once more. -/
def shuffled : List DesignUnit := units.reverse ++ units.take 2

/-- The units outside the loop. -/
def acyclic : List DesignUnit := units.drop 2

/-- Outside the loop the entity depends on the package beside the loop, and no other file on
any. -/
theorem eq_of_dependsOn_acyclic {a b : String}
    (h : DependsOn (orderFiles Graph.components acyclic ⟨.propagate, true⟩).1 a b) :
    a = above.name ∧ b = beside.name := by
  have hlibrary : OneLibraryPerFile acyclic := by decide
  rw [orderFiles, FileGraph.dependsOn_sorted
    (FileGraph.ofUnits_coherent true acyclic), FileGraph.dependsOn_ofUnits hlibrary] at h
  obtain ⟨-, u, hu, v, hv, rfl, rfl, hdefines, huses, -⟩ := h
  have hall : ∀ u ∈ acyclic, ∀ v ∈ acyclic, v.definesName = true → u.Uses v.library v.name →
      u.file = above.name ∧ v.file = beside.name := by decide
  exact hall u hu v hv hdefines huses

end Loop

open Loop in
/-- The loop in another order and with repetitions, and the units outside it. -/
theorem shuffled_loop_agrees :
    (orderFiles Graph.components units ⟨.topological, false⟩).1 =
      (orderFiles Graph.components shuffled ⟨.topological, false⟩).1 ∧
    (orderFiles Graph.components units ⟨.topological, false⟩).2.Perm
      (orderFiles Graph.components shuffled ⟨.topological, false⟩).2 ∧
    (orderFiles Graph.components acyclic ⟨.propagate, true⟩).1 =
      (orderFiles Graph.components (acyclic.reverse ++ acyclic) ⟨.propagate, true⟩).1 ∧
    (orderFiles Graph.components acyclic ⟨.propagate, true⟩).2.Perm
      (orderFiles Graph.components (acyclic.reverse ++ acyclic) ⟨.propagate, true⟩).2 := by
  have hsame : ∀ u, u ∈ units ↔ u ∈ shuffled := fun u => by
    rw [shuffled, List.mem_append, List.mem_reverse]
    exact ⟨Or.inl, fun hu => hu.elim id List.mem_of_mem_take⟩
  have hsame' : ∀ u, u ∈ acyclic ↔ u ∈ acyclic.reverse ++ acyclic := by simp
  obtain ⟨hfiles, hfindings⟩ := orderFiles_of_same_units components_condensing hsame (by decide)
    ⟨.topological, false⟩ fun hs => nomatch hs
  obtain ⟨hfiles', hfindings'⟩ := orderFiles_of_same_units components_condensing hsame' (by decide)
    ⟨.propagate, true⟩ fun _ name hname => by
      obtain ⟨_, hfirst, -⟩ := TransGen.head'_iff.mp hname
      obtain ⟨_, -, hlast⟩ := TransGen.tail'_iff.mp hname
      have hloop : above.name = beside.name :=
        (eq_of_dependsOn_acyclic hfirst).1.symm.trans (eq_of_dependsOn_acyclic hlast).2
      exact absurd hloop (by decide)
  exact ⟨hfiles, hfindings, hfiles', hfindings'⟩

end CompileOrder
