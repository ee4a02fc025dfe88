import CompileOrder.Proofs.Corpus.Selection
import CompileOrder.Proofs.DesignUnit.Origin
import CompileOrder.Proofs.Plan.Files
import CompileOrder.Proofs.Runs

/-!
# The files of one library

A file belongs to the library of the first of its units that are ordered, and its other units
do not change that. So the files of a plan fall into one group for each library, every file
into exactly one of them; a file that is configured under several libraries is found only in
the group of the library for which its first ordered unit was read.
-/

namespace CompileOrder

/-- The units belong to the libraries of the project. -/
def Analysis.Within (a : Analysis) (p : Project) : Prop :=
  ∀ u ∈ a.corpus.units, ∃ l ∈ p.libraries, u.library = Text.upper l.name

namespace FileTree

variable {t : FileTree} {p : Project} {a a' : Analysis} {l : Library}

/-- The units of a file belong to the library that it is read for. -/
theorem within_analyzeFile (hl : l ∈ p.libraries) {file : String} (ha : a.Within p)
    (h : t.analyzeFile l.name a file = .ok a') : a'.Within p := by
  obtain ⟨text, -, hadded⟩ := exists_of_bind_eq_ok h
  obtain rfl := Except.ok.inj hadded
  intro u hu
  rcases List.mem_append.mp hu with hu | hu
  · exact ha u hu
  · exact ⟨l, hl, (of_mem_extract hu).library_eq⟩

theorem within_analyzePath (hl : l ∈ p.libraries) {path : String} (ha : a.Within p)
    (h : t.analyzePath l.name a path = .ok a') : a'.Within p := by
  obtain ⟨files, -, hfiles⟩ := exists_of_bind_eq_ok h
  exact foldlM_keeps (fun _ _ _ _ => within_analyzeFile hl) ha hfiles

/-- All units that are read belong to libraries of the project. -/
theorem within_analyze (h : t.analyze p = .ok a) : a.Within p :=
  foldlM_keeps (fun _ _ hl _ ha h => foldlM_keeps (fun _ _ _ _ => within_analyzePath hl) ha h)
    (fun _ hu => absurd hu List.not_mem_nil) h

end FileTree

/-- The units that are ordered were read. -/
theorem Analysis.mem_of_mem_levelled {a : Analysis} {p : Project} {u : DesignUnit}
    (hu : u ∈ (a.levelled p).units) : u ∈ a.corpus.units := by
  have hselected : u ∈ (a.selected p).units := by
    rw [levelled, Corpus.reduce] at hu
    split at hu
    · exact hu
    · exact Corpus.mem_of_mem_closure hu
  rw [selected, Corpus.select_eq] at hselected
  exact (List.mem_filter.mp hselected).1

/-- The first of some units that stands in a file. -/
def firstUnit? (units : List DesignUnit) (file : String) : Option DesignUnit :=
  units.find? fun u => u.file == file

theorem mem_of_firstUnit? {units : List DesignUnit} {file : String} {u : DesignUnit}
    (h : firstUnit? units file = some u) : u ∈ units ∧ u.file = file := by
  have hfile := List.find?_some h
  exact ⟨List.mem_of_find?_eq_some h, beq_iff_eq.mp hfile⟩

theorem exists_firstUnit? {units : List DesignUnit} {file : String}
    (h : file ∈ units.map (·.file)) : ∃ u, firstUnit? units file = some u := by
  obtain ⟨u, hu, rfl⟩ := List.mem_map.mp h
  exact Option.isSome_iff_exists.mp (List.find?_isSome.mpr ⟨u, hu, beq_self_eq_true _⟩)

/-- A file in build order belongs to the library of the first of its units. -/
theorem library_of_mem_orderFiles {condense : List (List Nat) → List (List Nat)}
    {units : List DesignUnit} {rules : OrderRules} {f : SourceFile}
    (hf : f ∈ (orderFiles condense units rules).1) :
    ∃ u, firstUnit? units f.name = some u ∧ f.library = u.library := by
  have hcoherent := FileGraph.ofUnits_coherent rules.crossLibrary units
  obtain ⟨i, f₀, hf₀, rfl⟩ :=
    (FileGraph.mem_sorted hcoherent f).mp hf
  have hmem := List.mem_of_getElem? hf₀
  rw [FileGraph.files_ofUnits] at hmem
  obtain ⟨g, hg, rfl⟩ := List.mem_map.mp hmem
  obtain ⟨hname, hg⟩ := FileGraph.mem_gather.mp hg
  obtain ⟨u, hu⟩ := exists_firstUnit? hname
  have hfirst : (units.filter fun v => v.file == g.name).head? = some u :=
    List.head?_filter.trans hu
  have hlibrary : g.library = u.library := by
    rw [hg, SourceFile.ofUnits]
    simp only [hfirst, Option.map_some, Option.getD_some]
  exact ⟨u, hu, hlibrary⟩

namespace Plan

theorem mem_group {plan : Plan} {library : String} {f : SourceFile} :
    f ∈ plan.group (some library) ↔ f ∈ plan.files ∧ f.library = library := by
  simp [group]

/-- The group of a library holds the files whose first unit belongs to it. -/
theorem mem_map_name_group (condense : List (List Nat) → List (List Nat)) (p : Project)
    (a : Analysis) (library name : String) :
    name ∈ ((ofAnalysis condense p a).group (some library)).map (·.name) ↔
      ∃ u, firstUnit? (a.levelled p).units name = some u ∧ u.library = library := by
  constructor
  · intro hname
    obtain ⟨f, hf, rfl⟩ := List.mem_map.mp hname
    obtain ⟨hplanned, hlibrary⟩ := mem_group.mp hf
    obtain ⟨u, hu, hfirst⟩ := library_of_mem_orderFiles hplanned
    exact ⟨u, hu, hfirst.symm.trans hlibrary⟩
  · rintro ⟨u, hu, rfl⟩
    obtain ⟨hmem, hfile⟩ := mem_of_firstUnit? hu
    have hname : name ∈ (ofAnalysis condense p a).files.map (·.name) :=
      (mem_files_ofAnalysis condense p a name).mpr (List.mem_map.mpr ⟨u, hmem, hfile⟩)
    obtain ⟨f, hf, rfl⟩ := List.mem_map.mp hname
    obtain ⟨v, hv, hlibrary⟩ := library_of_mem_orderFiles hf
    obtain rfl : u = v := Option.some.inj (hu.symm.trans hv)
    exact List.mem_map.mpr ⟨f, mem_group.mpr ⟨hf, hlibrary⟩, rfl⟩

end Plan

/-- The group of a library holds, in the order of the plan and each once, just the files whose
first ordered unit belongs to the library; and every file is in the group of one of the libraries
of the project, and in no other group. -/
theorem group_of_first_units {condense : List (List Nat) → List (List Nat)} {t : FileTree}
    {p : Project} {plan : Plan} (h : t.plan condense p = .ok plan) :
    ∃ a, t.analyze p = .ok a ∧
      (∀ library, (plan.group (some library)).Sublist plan.files ∧
        ((plan.group (some library)).map (·.name)).Nodup ∧
        ∀ name, name ∈ (plan.group (some library)).map (·.name) ↔
          ∃ u, firstUnit? (a.levelled p).units name = some u ∧ u.library = library) ∧
      ∀ f ∈ plan.files, ∃ l ∈ p.libraries, ∀ library,
        f ∈ plan.group (some library) ↔ library = Text.upper l.name := by
  obtain ⟨a, ha, rfl⟩ := FileTree.plan_eq_ok.mp h
  refine ⟨a, ha, fun library => ⟨List.filter_sublist, ?_, ?_⟩, fun f hf => ?_⟩
  · exact (List.filter_sublist.map _).nodup (nodup_map_name_orderFiles condense _ _)
  · exact Plan.mem_map_name_group condense p a library
  · obtain ⟨u, hu, hlibrary⟩ := library_of_mem_orderFiles hf
    obtain ⟨l, hl, hupper⟩ := FileTree.within_analyze ha u
      (Analysis.mem_of_mem_levelled (mem_of_firstUnit? hu).1)
    refine ⟨l, hl, fun library => ?_⟩
    rw [Plan.mem_group, ← hupper, ← hlibrary]
    exact ⟨fun h => h.2.symm, fun h => ⟨hf, h.symm⟩⟩

namespace Shared

/-- A directory with a package. -/
def tree : FileTree where
  root := .directory [("p.vhd", .ofBytes (Text.encode "package p is\nend;\n"))] .ofDirectory
  workingDirectory := []

/-- A project in which two libraries have the file. -/
def project : Project where
  libraries := [{ name := "A", paths := ["p.vhd"] }, { name := "B", paths := ["p.vhd"] }]

/-- The package as it is read for a library. -/
def package (library : String) : DesignUnit :=
  { DesignUnit.declare .package "P" library "p.vhd" 1 [] [] with endLine := 2 }

/-- What is read from the file. -/
def found : Analysis := ⟨⟨[package "A", package "B"]⟩, [], 2⟩

theorem analyze_project : tree.analyze project = .ok found := by decide +kernel

theorem plan_project :
    tree.plan Graph.components project = .ok (Plan.ofAnalysis Graph.components project found) :=
  FileTree.plan_eq_ok.mpr ⟨found, analyze_project, rfl⟩

/-- The file is in the group of the first library. -/
theorem grouped_by_first :
    tree.plan Graph.components project = .ok (Plan.ofAnalysis Graph.components project found) ∧
      "p.vhd" ∈
        ((Plan.ofAnalysis Graph.components project found).group (some "A")).map (·.name) := by
  obtain ⟨a, hread, hgroups, -⟩ := group_of_first_units plan_project
  obtain rfl : a = found := Except.ok.inj (hread.symm.trans analyze_project)
  exact ⟨plan_project, ((hgroups "A").2.2 "p.vhd").mpr ⟨package "A", by decide +kernel, rfl⟩⟩

/-- The second library has a unit in the file, but not the file in its group. -/
theorem lost_by_second :
    tree.plan Graph.components project = .ok (Plan.ofAnalysis Graph.components project found) ∧
      (∃ u ∈ (found.levelled project).units, u.library = "B" ∧ u.file = "p.vhd") ∧
      (Plan.ofAnalysis Graph.components project found).group (some "B") = [] :=
  ⟨plan_project, by decide +kernel, by decide +kernel⟩

end Shared

end CompileOrder
