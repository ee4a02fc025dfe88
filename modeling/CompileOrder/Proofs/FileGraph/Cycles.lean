import CompileOrder.Proofs.FileGraph.BuildOrder

/-!
# Cycles and the levels of components

Levelling by component reports each set of files that depend on one another, once and
in full: the names at a component are the files mutually dependent with any one of its
members. The recorded level of a file is that of its component, which the finished levels
of the users outside the component determine.
-/

namespace CompileOrder

open CompileOrder.Graph CompileOrder.Levels Relation

/-- Each of two files depends on the other, at some distance. -/
def MutuallyDependent (files : List SourceFile) (a b : String) : Prop :=
  ReflTransGen (DependsOn files) a b ∧ ReflTransGen (DependsOn files) b a

/-- Files of the list each of which depends on all others, at some distance. -/
def MutuallyReachable (files : List SourceFile) (names : Set String) : Prop :=
  (∀ a ∈ names, a ∈ files.map (·.name)) ∧
    ∀ a ∈ names, ∀ b ∈ names, ReflTransGen (DependsOn files) a b

open Classical in
/-- What a file's component must not stay below: one if a member has a dependency, and one
above each file outside that depends on a member. -/
def LevelBounds (files : List SourceFile) (f : SourceFile) : Set Nat :=
  insert (if ∃ g ∈ files, MutuallyDependent files f.name g.name ∧ g.dependencies ≠ [] then 1 else 0)
    {n | ∃ g ∈ files, ¬ MutuallyDependent files f.name g.name ∧
      (∃ b ∈ g.dependencies, MutuallyDependent files f.name b) ∧ n = g.level + 1}

/-- The files that a report of a cycle names. -/
def Diagnostic.cycle? : Diagnostic → Option (List String)
  | .dependencyCycle files => some files
  | _ => none

namespace FileGraph

variable {condense : List (List Nat) → List (List Nat)} {g : FileGraph} {cs : List (List Nat)}
  {c d : List Nat} {i j : Nat} {a b : String}

namespace Coherent

variable (h : g.Coherent)
include h

/-- Mutual dependence is mutual reachability of the positions. -/
theorem mutuallyDependent_iff (hi : g.nameAt? i = some a) (hj : g.nameAt? j = some b) :
    MutuallyDependent g.files a b ↔ Mutual g.edges i j :=
  and_congr (h.reaches_iff hi hj) (h.reaches_iff hj hi)

/-- Dependencies lead from files to files only. -/
theorem exists_position_of_reaches (hi : g.nameAt? i = some a)
    (hab : ReflTransGen (DependsOn g.files) a b) : ∃ j, g.nameAt? j = some b := by
  rcases ReflTransGen.cases_tail hab with rfl | ⟨x, -, hxb⟩
  · exact ⟨i, hi⟩
  · obtain ⟨-, j, -, hj, -⟩ := h.dependsOn_iff_exists.mp hxb
    exact ⟨j, hj⟩

/-- The members of a component are files. -/
theorem exists_name_of_mem (hcond : Condensation g.edges cs) (hc : c ∈ cs) (hi : i ∈ c) :
    ∃ a, g.nameAt? i = some a :=
  exists_nameAt? (h.length_eq ▸ lt_of_mem hcond hc hi)

/-- The names at a component are those of the files mutually dependent with a member. -/
theorem mem_namesAt_iff (hcond : Condensation g.edges cs) (hc : c ∈ cs) (hi : i ∈ c)
    (ha : g.nameAt? i = some a) :
    b ∈ namesAt g.files c ↔ MutuallyDependent g.files a b := by
  rw [mem_namesAt]
  constructor
  · rintro ⟨j, hj, hb⟩
    exact (h.mutuallyDependent_iff ha hb).mpr ((hcond.classes c hc i hi j).mp hj)
  · intro hab
    obtain ⟨j, hb⟩ := h.exists_position_of_reaches ha hab.1
    have hij : Mutual g.edges i j := (h.mutuallyDependent_iff ha hb).mp hab
    exact ⟨j, (hcond.classes c hc i hi j).mpr hij, hb⟩

/-- The names at a component are a maximal set of mutually reachable files. -/
theorem maximal_namesAt (hcond : Condensation g.edges cs) (hc : c ∈ cs) :
    Maximal (MutuallyReachable g.files) {n | n ∈ namesAt g.files c} := by
  refine ⟨⟨fun a ha => ?_, fun a ha b hb => ?_⟩, fun names hnames hsub b hb => ?_⟩
  · obtain ⟨i, -, hi⟩ := (mem_namesAt ..).mp ha
    exact (exists_nameAt?_iff g a).mp ⟨i, hi⟩
  · obtain ⟨i, hic, hi⟩ := (mem_namesAt ..).mp ha
    exact ((h.mem_namesAt_iff hcond hc hic hi).mp hb).1
  · obtain ⟨i, hic⟩ := List.exists_mem_of_ne_nil c (hcond.nonempty c hc)
    obtain ⟨a, ha⟩ := h.exists_name_of_mem hcond hc hic
    have hmem : a ∈ names := hsub ((mem_namesAt ..).mpr ⟨i, hic, ha⟩)
    exact (h.mem_namesAt_iff hcond hc hic ha).mpr ⟨hnames.2 a hmem b hb, hnames.2 b hb a hmem⟩

/-- Every maximal set of mutually reachable files holds the names at a component. -/
theorem exists_component_of_maximal (hcond : Condensation g.edges cs) {names : Set String}
    (hnames : Maximal (MutuallyReachable g.files) names) (ha : a ∈ names) :
    ∃ c ∈ cs, names = {n | n ∈ namesAt g.files c} := by
  obtain ⟨i, hi⟩ := (exists_nameAt?_iff g a).mpr (hnames.prop.1 a ha)
  obtain ⟨c, hc, hic, -⟩ := exists_component hcond (h.length_eq ▸ nameAt?_lt hi)
  have hsub : names ⊆ {n | n ∈ namesAt g.files c} := fun b hb =>
    (h.mem_namesAt_iff hcond hc hic hi).mpr ⟨hnames.prop.2 a ha b hb, hnames.prop.2 b hb a ha⟩
  exact ⟨c, hc, hsub.antisymm (hnames.2 (h.maximal_namesAt hcond hc).prop hsub)⟩

/-- A component of several members names several files. -/
theorem nontrivial_namesAt_iff (hcond : Condensation g.edges cs) (hc : c ∈ cs) :
    {n | n ∈ namesAt g.files c}.Nontrivial ↔ 1 < c.length := by
  have hnd : c.Nodup := (List.nodup_flatten.mp hcond.nodup).1 c hc
  constructor
  · rintro ⟨a, ha, b, hb, hne⟩
    obtain ⟨i, hic, hi⟩ := (mem_namesAt ..).mp ha
    obtain ⟨j, hjc, hj⟩ := (mem_namesAt ..).mp hb
    have hij : i ≠ j := fun he => hne (Option.some.inj (hi.symm.trans (he ▸ hj)))
    match c, hic, hjc with
    | [k], hic, hjc =>
      exact absurd ((List.mem_singleton.mp hic).trans (List.mem_singleton.mp hjc).symm) hij
    | k :: l :: rest, _, _ => simp
  · intro hlen
    match c, hlen, hc, hnd with
    | i :: j :: rest, _, hc, hnd =>
      obtain ⟨a, ha⟩ := h.exists_name_of_mem hcond hc (i := i) (by simp)
      obtain ⟨b, hb⟩ := h.exists_name_of_mem hcond hc (i := j) (by simp)
      refine ⟨a, (mem_namesAt ..).mpr ⟨i, by simp, ha⟩, b,
        (mem_namesAt ..).mpr ⟨j, by simp, hb⟩, fun hab => ?_⟩
      have hij : i = j := h.position_unique ha (hab ▸ hb)
      exact (List.nodup_cons.mp hnd).1 (hij ▸ List.mem_cons_self)

/-- Different components name different files. -/
theorem namesAt_ne (hcond : Condensation g.edges cs) (hc : c ∈ cs)
    (hcd : c.Disjoint d) : namesAt g.files c ≠ namesAt g.files d := by
  intro heq
  obtain ⟨i, hic⟩ := List.exists_mem_of_ne_nil c (hcond.nonempty c hc)
  obtain ⟨a, ha⟩ := h.exists_name_of_mem hcond hc hic
  have hmem : a ∈ namesAt g.files c := (mem_namesAt ..).mpr ⟨i, hic, ha⟩
  rw [heq] at hmem
  obtain ⟨j, hjd, hj⟩ := (mem_namesAt ..).mp hmem
  exact hcd hic (h.position_unique hj ha ▸ hjd)

end Coherent

/-- Names without a definition are no cycles. -/
theorem filterMap_cycle?_undefined (g : FileGraph) :
    g.undefined.filterMap Diagnostic.cycle? = [] := by
  rw [List.filterMap_eq_nil_iff]
  intro d hd
  obtain ⟨f, -, hd⟩ := List.mem_flatMap.mp hd
  obtain ⟨p, -, rfl⟩ := List.mem_map.mp hd
  rfl

/-- The cycles reported are the names at the components of several members. -/
theorem filterMap_cycle?_cycles (condense : List (List Nat) → List (List Nat)) (g : FileGraph) :
    (g.cycles condense).filterMap Diagnostic.cycle? =
      ((g.components condense).filter fun c => 1 < c.length).map (namesAt g.files) := by
  simp [cycles, List.filterMap_map, Function.comp_def, Diagnostic.cycle?]

/-- The reports are exactly the maximal sets of several mutually reachable files. -/
theorem mem_reports (hc : Condensing condense) (h : g.Coherent) (names : List String) :
    names ∈ (g.cycles condense).filterMap Diagnostic.cycle? ↔
      names.Pairwise (· < ·) ∧ {n | n ∈ names}.Nontrivial ∧
        Maximal (MutuallyReachable g.files) {n | n ∈ names} := by
  have hcond := hc g.edges h.wellFormed
  simp only [filterMap_cycle?_cycles, List.mem_map, List.mem_filter, decide_eq_true_eq,
    components, List.mem_reverse]
  constructor
  · rintro ⟨c, ⟨hmem, hlen⟩, rfl⟩
    exact ⟨Text.pairwise_nameSet _, (h.nontrivial_namesAt_iff hcond hmem).mpr hlen,
      h.maximal_namesAt hcond hmem⟩
  · rintro ⟨hsorted, hseveral, hmax⟩
    obtain ⟨a, ha⟩ := hseveral.nonempty
    obtain ⟨c, hmem, heq⟩ := h.exists_component_of_maximal hcond hmax ha
    rw [heq] at hseveral
    refine ⟨c, ⟨hmem, (h.nontrivial_namesAt_iff hcond hmem).mp hseveral⟩, ?_⟩
    exact (Text.pairwise_nameSet _).eq_of_mem_iff hsorted fun n => (Set.ext_iff.mp heq n).symm

/-- No cycle is reported twice. -/
theorem nodup_reports (hc : Condensing condense) (h : g.Coherent) :
    ((g.cycles condense).filterMap Diagnostic.cycle?).Nodup := by
  have hcond := hc g.edges h.wellFormed
  rw [filterMap_cycle?_cycles, components, List.Nodup, List.pairwise_map]
  refine List.Pairwise.filter _ (List.pairwise_reverse.mpr ?_)
  refine (List.nodup_flatten.mp hcond.nodup).2.imp_of_mem fun _ hd hdisj => ?_
  exact h.namesAt_ne hcond hd (List.disjoint_symm hdisj)

/-- In a graph without cycles every component is a single node, and none is reported. -/
theorem cycles_eq_nil (hc : Condensing condense) (h : g.Coherent)
    (hacyclic : ∀ v, ¬ TransGen (Edge g.edges) v v) : g.cycles condense = [] := by
  have hcond := hc g.edges h.wellFormed
  rw [cycles, List.map_eq_nil_iff, List.filter_eq_nil_iff]
  intro c hmem hlen
  have hc' : c ∈ condense g.edges := List.mem_reverse.mp hmem
  have hnd : c.Nodup := (List.nodup_flatten.mp hcond.nodup).1 c hc'
  match c, hlen, hnd with
  | [], hlen, _ => simp at hlen
  | [_], hlen, _ => simp at hlen
  | v :: w :: rest, _, hnd =>
    have htame : Tame g.edges w := fun u _ => hacyclic u
    have hvw := (hcond.classes _ hc' v List.mem_cons_self w).mp (by simp)
    exact (List.nodup_cons.mp hnd).1 (htame.eq_of_mutual hvw ▸ List.mem_cons_self)

section

variable (hc : Condensing condense) (h : g.Coherent) (hmem : c ∈ condense g.edges) (hi : i ∈ c)
  (ha : g.nameAt? i = some a)
include hc h hmem hi ha

/-- A component has a dependency iff one of its files records one. -/
theorem ownLevel_eq_one_iff :
    ownLevel g.edges c = 1 ↔ ∃ f ∈ g.sorted condense .topological,
      MutuallyDependent g.files a f.name ∧ f.dependencies ≠ [] := by
  have hcond := hc g.edges h.wellFormed
  rw [ownLevel_eq_one]
  constructor
  · rintro ⟨v, hv, w, hvw⟩
    obtain ⟨b, hb⟩ := h.exists_name_of_mem hcond hmem hv
    obtain ⟨f, hf, rfl⟩ := Option.map_eq_some_iff.mp hb
    obtain ⟨-, x, hx⟩ := h.exists_names hvw
    refine ⟨_, (mem_sorted h _).mpr ⟨v, f, hf, rfl⟩, ?_, ?_⟩
    · exact (h.mem_namesAt_iff hcond hmem hi ha).mp ((mem_namesAt ..).mpr ⟨v, hv, hb⟩)
    · exact List.ne_nil_of_mem ((h.mem_dependencies v f hf x).mpr ⟨w, hvw, hx⟩)
  · rintro ⟨f, hf, hdep, hne⟩
    obtain ⟨j, f₀, hj, rfl⟩ := (mem_sorted h f).mp hf
    obtain ⟨v, hv, hname⟩ := (mem_namesAt ..).mp ((h.mem_namesAt_iff hcond hmem hi ha).mpr hdep)
    have hjv : j = v := h.position_unique (nameAt?_eq hj) hname
    obtain ⟨x, hx⟩ := List.exists_mem_of_ne_nil _ hne
    obtain ⟨w, hjw, -⟩ := (h.mem_dependencies j f₀ hj x).mp hx
    exact ⟨v, hv, w, hjv ▸ hjw⟩

/-- The users of a component are the files outside it that record a dependency on it. -/
theorem exists_user_iff (n : Nat) :
    (∃ u ∈ usersOf g.edges c, n = (g.levels condense .topological).getD u 0 + 1) ↔
      ∃ f ∈ g.sorted condense .topological, ¬ MutuallyDependent g.files a f.name ∧
        (∃ b ∈ f.dependencies, MutuallyDependent g.files a b) ∧ n = f.level + 1 := by
  have hcond := hc g.edges h.wellFormed
  have hinside : ∀ {j b}, g.nameAt? j = some b → (j ∈ c ↔ MutuallyDependent g.files a b) :=
    fun hb => (hcond.classes c hmem i hi _).trans (h.mutuallyDependent_iff ha hb).symm
  simp only [mem_usersOf]
  constructor
  · rintro ⟨u, ⟨hu, v, hv, huv⟩, rfl⟩
    obtain ⟨⟨x, hx⟩, b, hb⟩ := h.exists_names huv
    obtain ⟨f, hf, rfl⟩ := Option.map_eq_some_iff.mp hx
    exact ⟨_, (mem_sorted h _).mpr ⟨u, f, hf, rfl⟩, fun hdep => hu ((hinside hx).mpr hdep),
      ⟨b, (h.mem_dependencies u f hf b).mpr ⟨v, huv, hb⟩, (hinside hb).mp hv⟩, rfl⟩
  · rintro ⟨f, hf, hout, ⟨b, hb, hdep⟩, rfl⟩
    obtain ⟨u, f₀, hu, rfl⟩ := (mem_sorted h f).mp hf
    have hx : g.nameAt? u = some f₀.name := nameAt?_eq hu
    obtain ⟨v, huv, hv⟩ := (h.mem_dependencies u f₀ hu b).mp hb
    exact ⟨u, ⟨fun huc => hout ((hinside hx).mp huc), v, (hinside hv).mpr hdep, huv⟩, rfl⟩

end

/-- Mutual dependence is the same before and after levelling. -/
theorem mutuallyDependent_sorted (h : g.Coherent) (s : Strategy) :
    MutuallyDependent (g.sorted condense s) = MutuallyDependent g.files := by
  funext a b
  rw [MutuallyDependent, dependsOn_sorted h]
  rfl

/-- Sets of mutually reachable files are the same before and after levelling. -/
theorem mutuallyReachable_sorted (h : g.Coherent) (s : Strategy) :
    MutuallyReachable (g.sorted condense s) = MutuallyReachable g.files := by
  funext names
  simp only [MutuallyReachable, dependsOn_sorted h, (map_name_sorted_perm condense h s).mem_iff]

/-- With levels by component, every file has the level that the levels of the users of its
component define. -/
theorem level_isGreatest (hc : Condensing condense) (h : g.Coherent) {f : SourceFile}
    (hf : f ∈ g.sorted condense .topological) :
    IsGreatest (LevelBounds (g.sorted condense .topological) f) f.level := by
  have hcond := hc g.edges h.wellFormed
  obtain ⟨i, hi, hlevel⟩ := exists_position h hf
  obtain ⟨c, hmem, hic, -⟩ := exists_component hcond (h.length_eq ▸ nameAt?_lt hi)
  have hown := ownLevel_eq_one_iff hc h hmem hic hi
  have hgreatest := topological_isGreatest hcond hmem hic
  have hbounds : LevelBounds (g.sorted condense .topological) f =
      insert (ownLevel g.edges c)
        {n | ∃ u ∈ usersOf g.edges c, n = (g.levels condense .topological).getD u 0 + 1} := by
    rw [LevelBounds, mutuallyDependent_sorted h]
    congr 1
    · split
      · rename_i hsome
        exact (hown.mpr hsome).symm
      · rename_i hnone
        have hne : ownLevel g.edges c ≠ 1 := fun hone => hnone (hown.mp hone)
        have hle := ownLevel_le_one g.edges c
        omega
    · ext n
      exact (exists_user_iff hc h hmem hic hi n).symm
  rw [hbounds, hlevel]
  exact hgreatest

/-- With levels by component, mutually dependent files have one level. -/
theorem level_eq_of_mutuallyDependent (hc : Condensing condense) (h : g.Coherent)
    {x y : SourceFile} (hx : x ∈ g.sorted condense .topological)
    (hy : y ∈ g.sorted condense .topological)
    (hxy : MutuallyDependent (g.sorted condense .topological) x.name y.name) :
    x.level = y.level := by
  obtain ⟨i, hi, hxl⟩ := exists_position h hx
  obtain ⟨j, hj, hyl⟩ := exists_position h hy
  rw [mutuallyDependent_sorted h] at hxy
  rw [hxl, hyl]
  exact topological_eq_of_mutual (hc g.edges h.wellFormed) ((h.mutuallyDependent_iff hi hj).mp hxy)

end FileGraph

/-- Levelling by component reports exactly the maximal sets of several mutually reachable
files, each once and in ascending order, hence none without cycles. The files of such a set
share one level, and the level of a file is the greatest bound of its component. -/
theorem cycles_and_levels_exact {condense : List (List Nat) → List (List Nat)}
    (hc : Condensing condense) (units : List DesignUnit) (crossLibrary : Bool) :
    let result := orderFiles condense units ⟨.topological, crossLibrary⟩
    let files := result.1
    let reports := result.2.filterMap Diagnostic.cycle?
    (reports.Nodup ∧ ∀ names, names ∈ reports ↔
      names.Pairwise (· < ·) ∧ {n | n ∈ names}.Nontrivial ∧
        Maximal (MutuallyReachable files) {n | n ∈ names}) ∧
    ((∀ name, ¬ TransGen (DependsOn files) name name) → reports = []) ∧
    (∀ x ∈ files, ∀ y ∈ files, MutuallyDependent files x.name y.name → x.level = y.level) ∧
    (∀ f ∈ files, IsGreatest (LevelBounds files f) f.level) := by
  let g := FileGraph.ofUnits crossLibrary units
  have h : g.Coherent := FileGraph.ofUnits_coherent crossLibrary units
  intro result files reports
  have hfiles : files = g.sorted condense .topological := rfl
  have hreports : reports = (g.cycles condense).filterMap Diagnostic.cycle? := by
    change (g.undefined ++ g.cycles condense).filterMap Diagnostic.cycle? = _
    rw [List.filterMap_append, FileGraph.filterMap_cycle?_undefined, List.nil_append]
  rw [hfiles, hreports]
  refine ⟨⟨FileGraph.nodup_reports hc h, fun names => ?_⟩, fun hacyclic => ?_,
    fun x hx y hy => FileGraph.level_eq_of_mutuallyDependent hc h hx hy,
    fun f hf => FileGraph.level_isGreatest hc h hf⟩
  · rw [FileGraph.mutuallyReachable_sorted h]
    exact FileGraph.mem_reports hc h names
  · rw [FileGraph.dependsOn_sorted h] at hacyclic
    rw [FileGraph.cycles_eq_nil hc h (h.edges_acyclic hacyclic)]
    rfl

namespace Loop

/-- The two packages of the loop depend on each other. -/
theorem mutuallyDependent_loop : MutuallyDependent levelled left.name right.name :=
  ⟨.single ⟨left, by decide, rfl, by decide⟩, .single ⟨right, by decide, rfl, by decide⟩⟩

theorem cycles_eq :
    (orderFiles Graph.components units ⟨.topological, false⟩).2.filterMap Diagnostic.cycle? =
      [["a.vhd", "b.vhd"]] := by
  decide +kernel

end Loop

open Loop in
/-- The loop is reported, and its packages share the level above that of the entity. -/
theorem loop_reported :
    let files := (orderFiles Graph.components units ⟨.topological, false⟩).1
    Condensing Graph.components ∧
    Maximal (MutuallyReachable files) {n | n ∈ ["a.vhd", "b.vhd"]} ∧
    left ∈ files ∧ right ∈ files ∧ MutuallyDependent files left.name right.name ∧
    left.level = right.level ∧ IsGreatest (LevelBounds files left) 2 := by
  intro files
  have hmem : ∀ f, f ∈ files ↔ f ∈ levelled := mem_topological
  have hleft : left ∈ files := (hmem _).mpr (by decide)
  have hright : right ∈ files := (hmem _).mpr (by decide)
  have hmutual : MutuallyDependent files left.name right.name := by
    rw [MutuallyDependent, dependsOn_congr hmem]
    exact mutuallyDependent_loop
  obtain ⟨⟨-, hreports⟩, -, hlevel, hbounds⟩ :=
    cycles_and_levels_exact components_condensing units false
  have hloop := (hreports ["a.vhd", "b.vhd"]).mp (by
    rw [cycles_eq]
    exact List.mem_singleton_self _)
  exact ⟨components_condensing, hloop.2.2, hleft, hright, hmutual,
    hlevel left hleft right hright hmutual, hbounds left hleft⟩

end CompileOrder
