import CompileOrder.FileGraph.BuildOrder
import CompileOrder.Proofs.FileGraph.Links
import CompileOrder.Proofs.FileGraph.Propagation
import CompileOrder.Proofs.FileGraph.Stratification

/-!
# Soundness of the build order

Both strategies layer the graph of files, and sorting by level turns a layering into an
order: every file stands after each file it depends on, unless the two depend on each
other. Levels by component rise along whole walks, so there the same holds of files
that are only depended on at a distance.
-/

namespace CompileOrder

open CompileOrder.Graph CompileOrder.Levels Relation

namespace FileGraph

variable {condense : List (List Nat) → List (List Nat)} {g : FileGraph} {s : Strategy}

/-- Under both strategies the levels layer the graph. -/
theorem levels_layering (hc : Condensing condense) (h : g.Coherent) (s : Strategy) :
    Layering g.edges (g.levels condense s) := by
  cases s with
  | propagate => exact propagate_layering h.wellFormed
  | topological => exact topological_layering h.wellFormed (hc g.edges h.wellFormed)

/-- Every file gets a level, however the graph is cut into classes. -/
theorem length_levels (h : g.Coherent) (s : Strategy) :
    (g.levels condense s).length = g.files.length := by
  rw [← h.length_eq]
  cases s with
  | propagate => exact (propagate_layering h.wellFormed).length_eq
  | topological => exact length_topological _ _

/-- The files of the build order are the files of the graph, each with its level. -/
theorem mem_sorted (h : g.Coherent) (f : SourceFile) :
    f ∈ g.sorted condense s ↔ ∃ (i : Nat) (f₀ : SourceFile), g.files[i]? = some f₀ ∧
      f = { f₀ with level := (g.levels condense s).getD i 0 } := by
  rw [sorted, List.mem_mergeSort, levelled, List.mem_map]
  constructor
  · rintro ⟨⟨f₀, n⟩, hmem, rfl⟩
    obtain ⟨i, hi⟩ := List.mem_iff_getElem?.mp hmem
    obtain ⟨hf₀, hn⟩ := List.getElem?_zip_eq_some.mp hi
    exact ⟨i, f₀, hf₀, by simp [List.getD_eq_getElem?_getD, hn]⟩
  · rintro ⟨i, f₀, hf₀, rfl⟩
    have hi : i < (g.levels condense s).length := by
      rw [length_levels h s]
      exact (List.getElem?_eq_some_iff.mp hf₀).1
    refine ⟨(f₀, (g.levels condense s)[i]), List.mem_iff_getElem?.mpr ⟨i, ?_⟩, ?_⟩
    · exact List.getElem?_zip_eq_some.mpr ⟨hf₀, List.getElem?_eq_getElem hi⟩
    · simp [List.getD_eq_getElem?_getD, hi]

/-- A file of the build order stands at some position of the graph, with the level of
that position. -/
theorem exists_position (h : g.Coherent) {f : SourceFile}
    (hf : f ∈ g.sorted condense s) :
    ∃ i, g.nameAt? i = some f.name ∧ f.level = (g.levels condense s).getD i 0 := by
  obtain ⟨i, f₀, hf₀, rfl⟩ := (mem_sorted h f).mp hf
  have hname : g.nameAt? i = some f₀.name := nameAt?_eq hf₀
  exact ⟨i, hname, rfl⟩

/-- Files change neither names nor dependencies when they get their levels. -/
theorem dependsOn_sorted (h : g.Coherent) :
    DependsOn (g.sorted condense s) = DependsOn g.files := by
  funext a b
  refine propext ⟨?_, ?_⟩
  · rintro ⟨f, hf, hfa, hb⟩
    obtain ⟨i, f₀, hf₀, rfl⟩ := (mem_sorted h f).mp hf
    exact ⟨f₀, List.mem_of_getElem? hf₀, hfa, hb⟩
  · rintro ⟨f₀, hf₀, hfa, hb⟩
    obtain ⟨i, hi⟩ := List.mem_iff_getElem?.mp hf₀
    exact ⟨_, (mem_sorted h _).mpr ⟨i, f₀, hi, rfl⟩, hfa, hb⟩

/-- The build order has the names of the graph, each once. -/
theorem map_name_sorted_perm (condense : List (List Nat) → List (List Nat)) (h : g.Coherent)
    (s : Strategy) :
    ((g.sorted condense s).map (·.name)).Perm (g.files.map (·.name)) := by
  have hlen : g.files.length ≤ (g.levels condense s).length :=
    Nat.le_of_eq (length_levels h s).symm
  have hnames : (g.levelled condense s).map (·.name) = g.files.map (·.name) := by
    have hfst : (g.levelled condense s).map (·.name) =
        ((g.files.zip (g.levels condense s)).map Prod.fst).map (·.name) := by
      simp [levelled, Function.comp_def]
    rw [hfst, List.map_fst_zip hlen]
  exact hnames ▸ (List.mergeSort_perm _ _).map _

/-- A file may stand before another at a lower level, or at the same level if its name
does not come after. -/
theorem standsBefore_iff (f h : SourceFile) :
    standsBefore f h = true ↔ h.level < f.level ∨ (f.level = h.level ∧ f.name ≤ h.name) := by
  have hname : Text.precedes h.name f.name = false ↔ f.name ≤ h.name := by
    rw [Bool.eq_false_iff, ne_eq, Text.precedes_iff, not_lt]
  simp [standsBefore, hname]

/-- The build order lists files by decreasing level, files of one level by name. -/
theorem sorted_pairwise (h : g.Coherent) :
    (g.sorted condense s).Pairwise fun f h =>
      h.level < f.level ∨ (f.level = h.level ∧ f.name < h.name) := by
  have htrans : ∀ a b c : SourceFile, standsBefore a b → standsBefore b c →
      standsBefore a c := by
    intro a b c hab hbc
    rw [standsBefore_iff] at hab hbc ⊢
    rcases hab with hab | ⟨hab, hab'⟩
    · rcases hbc with hbc | ⟨hbc, -⟩
      · exact Or.inl (hbc.trans hab)
      · exact Or.inl (hbc ▸ hab)
    · rcases hbc with hbc | ⟨hbc, hbc'⟩
      · exact Or.inl (hab ▸ hbc)
      · exact Or.inr ⟨hab.trans hbc, hab'.trans hbc'⟩
  have htotal : ∀ a b : SourceFile, standsBefore a b || standsBefore b a := by
    intro a b
    rw [Bool.or_eq_true, standsBefore_iff, standsBefore_iff]
    rcases lt_trichotomy a.level b.level with hlt | heq | hgt
    · exact Or.inr (Or.inl hlt)
    · rcases le_total a.name b.name with hle | hle
      · exact Or.inl (Or.inr ⟨heq, hle⟩)
      · exact Or.inr (Or.inr ⟨heq.symm, hle⟩)
    · exact Or.inl (Or.inl hgt)
  have hnames : (g.sorted condense s).Pairwise fun f h => f.name ≠ h.name :=
    List.pairwise_map.mp ((map_name_sorted_perm condense h s).nodup_iff.mpr h.names_nodup)
  refine (List.pairwise_mergeSort htrans htotal (g.levelled condense s)).imp₂ ?_ hnames
  intro f h hle hne
  rcases (standsBefore_iff f h).mp hle with hlt | ⟨heq, hle⟩
  · exact Or.inl hlt
  · exact Or.inr ⟨heq, lt_of_le_of_ne hle hne⟩

/-- In a sorted list, a member stands before another that may not stand before it. -/
theorem sublist_of_pairwise {α : Type} {r : α → α → Prop} {xs : List α} (h : xs.Pairwise r)
    {x y : α} (hx : x ∈ xs) (hy : y ∈ xs) (hne : x ≠ y) (hxy : ¬ r x y) : [y, x].Sublist xs := by
  obtain ⟨before, after, rfl⟩ := List.append_of_mem hy
  rcases List.mem_append.mp hx with hx | hx
  · exact absurd ((List.pairwise_append.mp h).2.2 x hx y List.mem_cons_self) hxy
  · rcases List.mem_cons.mp hx with rfl | hx
    · exact absurd rfl hne
    · exact ((List.singleton_sublist.mpr hx).cons_cons y).trans (List.sublist_append_right _ _)

/-- A file at a lower level stands later in the build order. -/
theorem sublist_of_level_lt (h : g.Coherent) {x y : SourceFile}
    (hx : x ∈ g.sorted condense s) (hy : y ∈ g.sorted condense s) (hlt : x.level < y.level) :
    [y, x].Sublist (g.sorted condense s) := by
  refine sublist_of_pairwise (sorted_pairwise h) hx hy (fun he => ?_) ?_
  · exact absurd (he ▸ hlt) (Nat.lt_irrefl _)
  · rintro (hgt | ⟨heq, -⟩) <;> omega

/-- A dependency that does not lead back stands at a higher level. -/
theorem level_lt_of_dependency (hc : Condensing condense) (h : g.Coherent) {x y : SourceFile}
    (hx : x ∈ g.sorted condense s) (hy : y ∈ g.sorted condense s)
    (hxy : y.name ∈ x.dependencies)
    (hback : ¬ ReflTransGen (DependsOn (g.sorted condense s)) y.name x.name) :
    x.level < y.level := by
  obtain ⟨i, hi, hxl⟩ := exists_position h hx
  obtain ⟨j, hj, hyl⟩ := exists_position h hy
  have hedge : DependsOn (g.sorted condense s) x.name y.name := ⟨x, hx, rfl, hxy⟩
  rw [dependsOn_sorted h] at hedge hback
  rw [hxl, hyl]
  exact (levels_layering hc h s).rises i j ((h.dependsOn_iff hi hj).mp hedge)
    fun hji => hback ((h.reaches_iff hj hi).mpr hji)

/-- With levels by component, a file depended on at a distance stands at a higher level
unless its dependencies lead back. -/
theorem level_lt_of_reaches (hc : Condensing condense) (h : g.Coherent) {x y : SourceFile}
    (hx : x ∈ g.sorted condense .topological) (hy : y ∈ g.sorted condense .topological)
    (hxy : ReflTransGen (DependsOn (g.sorted condense .topological)) x.name y.name)
    (hback : ¬ ReflTransGen (DependsOn (g.sorted condense .topological)) y.name x.name) :
    x.level < y.level := by
  obtain ⟨i, hi, hxl⟩ := exists_position h hx
  obtain ⟨j, hj, hyl⟩ := exists_position h hy
  rw [dependsOn_sorted h] at hxy hback
  rw [hxl, hyl]
  exact topological_lt_of_reaches h.wellFormed (hc g.edges h.wellFormed)
    ((h.reaches_iff hi hj).mp hxy) fun hji => hback ((h.reaches_iff hj hi).mpr hji)

end FileGraph

/-- The build order holds every file once, by decreasing level and then by name. A file
that another depends on has a higher level and stands before it, unless its own
dependencies lead back; with levels by component this holds at any distance. -/
theorem definitions_precede_users {condense : List (List Nat) → List (List Nat)}
    (hc : Condensing condense) (units : List DesignUnit) (rules : OrderRules) :
    let files := (orderFiles condense units rules).1
    (files.map (·.name)).Nodup ∧
    (∀ name, name ∈ files.map (·.name) ↔ name ∈ units.map (·.file)) ∧
    (files.Pairwise fun f g => g.level < f.level ∨ (f.level = g.level ∧ f.name < g.name)) ∧
    (∀ x ∈ files, ∀ y ∈ files, y.name ∈ x.dependencies →
      ¬ ReflTransGen (DependsOn files) y.name x.name →
      x.level < y.level ∧ [y, x].Sublist files) ∧
    (rules.strategy = .topological → ∀ x ∈ files, ∀ y ∈ files,
      ReflTransGen (DependsOn files) x.name y.name →
      ¬ ReflTransGen (DependsOn files) y.name x.name →
      x.level < y.level ∧ [y, x].Sublist files) := by
  have h := FileGraph.ofUnits_coherent rules.crossLibrary units
  have hperm := FileGraph.map_name_sorted_perm condense h rules.strategy
  refine ⟨hperm.nodup_iff.mpr h.names_nodup, fun name => ?_, FileGraph.sorted_pairwise h,
    fun x hx y hy hxy hback => ?_, fun hs x hx y hy hxy hback => ?_⟩
  · rw [orderFiles, hperm.mem_iff, FileGraph.map_name_ofUnits, List.mem_eraseDups]
  · have hlt := FileGraph.level_lt_of_dependency hc h hx hy hxy hback
    exact ⟨hlt, FileGraph.sublist_of_level_lt h hx hy hlt⟩
  · have hlt : x.level < y.level := by
      simp only [orderFiles, hs] at hx hy hxy hback
      exact FileGraph.level_lt_of_reaches hc h hx hy hxy hback
    exact ⟨hlt, FileGraph.sublist_of_level_lt h hx hy hlt⟩

namespace Loop

/-- Two packages that use each other, a third one below them, and an entity that uses one
of the two and a fourth. -/
def units : List DesignUnit :=
  [.declare .package "B" "WORK" "b.vhd" 1 [] [⟨"WORK", some "A"⟩, ⟨"WORK", some "BASE"⟩],
   .declare .package "A" "WORK" "a.vhd" 1 [] [⟨"WORK", some "B"⟩],
   .declare .package "BASE" "WORK" "base.vhd" 1 [] [],
   .declare .entity "TOP" "WORK" "top.vhd" 1 [] [⟨"WORK", some "A"⟩, ⟨"WORK", some "LEAF"⟩],
   .declare .package "LEAF" "WORK" "leaf.vhd" 1 [] []]

/-- A package of the loop. -/
def left : SourceFile where
  name := "a.vhd"
  library := "WORK"
  defines := ["A"]
  uses := [("WORK", "B")]
  dependencies := ["b.vhd"]
  dependents := ["b.vhd", "top.vhd"]
  level := 2

/-- The other package of the loop. -/
def right : SourceFile where
  name := "b.vhd"
  library := "WORK"
  defines := ["B"]
  uses := [("WORK", "A"), ("WORK", "BASE")]
  dependencies := ["a.vhd", "base.vhd"]
  dependents := ["a.vhd"]
  level := 2

/-- The package below the loop. -/
def below : SourceFile where
  name := "base.vhd"
  library := "WORK"
  defines := ["BASE"]
  uses := []
  dependencies := []
  dependents := ["b.vhd"]
  level := 3

/-- The entity above the loop. -/
def above : SourceFile where
  name := "top.vhd"
  library := "WORK"
  defines := ["TOP"]
  uses := [("WORK", "A"), ("WORK", "LEAF")]
  dependencies := ["a.vhd", "leaf.vhd"]
  dependents := []
  level := 1

/-- The package beside the loop. -/
def beside : SourceFile where
  name := "leaf.vhd"
  library := "WORK"
  defines := ["LEAF"]
  uses := []
  dependencies := []
  dependents := ["top.vhd"]
  level := 2

/-- The files of these units, levelled by component. -/
def levelled : List SourceFile := [right, left, below, above, beside]

theorem levelled_topological :
    (FileGraph.ofUnits false units).levelled Graph.components .topological = levelled := by
  decide +kernel

/-- The build order by component holds these files. -/
theorem mem_topological (f : SourceFile) :
    f ∈ (orderFiles Graph.components units ⟨.topological, false⟩).1 ↔ f ∈ levelled := by
  rw [← levelled_topological]
  exact List.mem_mergeSort

/-- The package below the loop leads nowhere. -/
theorem not_reaches_of_below {name : String} (hne : name ≠ below.name) :
    ¬ ReflTransGen (DependsOn levelled) below.name name := by
  intro h
  rcases ReflTransGen.cases_head h with he | ⟨c, ⟨f, hf, hname, hc⟩, -⟩
  · exact hne he.symm
  · have hnone : ∀ f ∈ levelled, f.name = below.name → f.dependencies = [] := by decide
    rw [hnone f hf hname] at hc
    exact absurd hc List.not_mem_nil

end Loop

open Loop in
/-- The package below the loop stands before the package that uses it and before the
entity above the loop. -/
theorem below_precedes_loop :
    let files := (orderFiles Graph.components units ⟨.topological, false⟩).1
    Condensing Graph.components ∧
    (below.name ∈ right.dependencies ∧ right.level < below.level ∧
      [below, right].Sublist files) ∧
    (ReflTransGen (DependsOn files) above.name below.name ∧ above.level < below.level ∧
      [below, above].Sublist files) := by
  intro files
  obtain ⟨-, -, -, hdirect, hfar⟩ :=
    definitions_precede_users components_condensing units ⟨.topological, false⟩
  have hmem : ∀ f, f ∈ files ↔ f ∈ levelled := mem_topological
  have hdep : DependsOn files = DependsOn levelled := dependsOn_congr hmem
  have hleft : DependsOn levelled above.name left.name := ⟨above, by decide, rfl, by decide⟩
  have hright : DependsOn levelled left.name right.name := ⟨left, by decide, rfl, by decide⟩
  have hbelow : DependsOn levelled right.name below.name := ⟨right, by decide, rfl, by decide⟩
  have hreach : ReflTransGen (DependsOn files) above.name below.name :=
    hdep ▸ ((ReflTransGen.single hleft).tail hright).tail hbelow
  have hback : ∀ name, name ≠ below.name → ¬ ReflTransGen (DependsOn files) below.name name :=
    fun name hne => hdep ▸ not_reaches_of_below hne
  have habove : above ∈ files := (hmem _).mpr (by decide)
  have hright' : right ∈ files := (hmem _).mpr (by decide)
  have hbelow' : below ∈ files := (hmem _).mpr (by decide)
  exact ⟨components_condensing,
    ⟨by decide, hdirect right hright' below hbelow' (by decide) (hback _ (by decide))⟩,
    hreach, hfar rfl above habove below hbelow' hreach (hback _ (by decide))⟩

end CompileOrder
