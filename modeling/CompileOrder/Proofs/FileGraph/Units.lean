import CompileOrder.Proofs.FileGraph.Links

/-!
# What files take from their units

A file of the graph is folded from the units found in it: it defines the names of its
entities and packages and uses what its units use. When the units of a file belong to one
library, that is the library of the file, and then dependencies and undefined names can be
read off the units, without the files between.
-/

namespace CompileOrder

open CompileOrder.Graph

/-- Some use clause of the unit names this unit of a library. -/
def DesignUnit.Uses (u : DesignUnit) (library name : String) : Prop :=
  ∃ names, (library, names) ∈ u.uses ∧ name ∈ names

/-- Units of one file belong to one library. -/
def OneLibraryPerFile (units : List DesignUnit) : Prop :=
  ∀ u ∈ units, ∀ v ∈ units, u.file = v.file → u.library = v.library

instance (units : List DesignUnit) : Decidable (OneLibraryPerFile units) :=
  inferInstanceAs (Decidable (∀ u ∈ units, ∀ v ∈ units, u.file = v.file → u.library = v.library))

theorem DesignUnit.mem_pairs {u : DesignUnit} {p : String × String} :
    p ∈ u.uses.pairs ↔ u.Uses p.1 p.2 := by
  simp only [UseTable.pairs, List.mem_flatMap, List.mem_map, DesignUnit.Uses]
  constructor
  · rintro ⟨⟨library, names⟩, hentry, name, hname, rfl⟩
    exact ⟨names, hentry, hname⟩
  · rintro ⟨names, hentry, hname⟩
    exact ⟨(p.1, names), hentry, p.2, hname, rfl⟩

instance (u : DesignUnit) (library name : String) : Decidable (u.Uses library name) :=
  decidable_of_iff _ (DesignUnit.mem_pairs (p := (library, name)))

/-- The record of a file with its links to the other files of a list. -/
def SourceFile.linked (files : List SourceFile) (f : SourceFile) : SourceFile :=
  { f with
    dependencies := Text.nameSet
      ((files.filter fun h => h.name != f.name && f.usesFile h).map (·.name))
    dependents := Text.nameSet
      ((files.filter fun h => h.name != f.name && h.usesFile f).map (·.name)) }

/-- The links of a file are a matter of which other files there are. -/
theorem SourceFile.linked_congr {files files' : List SourceFile} (h : ∀ f, f ∈ files ↔ f ∈ files') :
    linked files = linked files' := by
  funext f
  have hnames : ∀ (p : SourceFile → Bool) (name : String),
      name ∈ (files.filter p).map (·.name) ↔ name ∈ (files'.filter p).map (·.name) := by
    simp [h]
  simp only [linked, Text.nameSet_congr (hnames _)]

namespace FileGraph

variable {crossLibrary : Bool} {units : List DesignUnit} {f h : SourceFile} {u : DesignUnit}

/-- The files gathered are those of the units, each folded from its own units. -/
theorem mem_gather :
    f ∈ gather crossLibrary units ↔ f.name ∈ units.map (·.file) ∧
      f = .ofUnits crossLibrary f.name (units.filter fun u => u.file == f.name) := by
  simp only [gather, List.mem_map, List.mem_eraseDups]
  constructor
  · rintro ⟨name, hname, rfl⟩
    exact ⟨hname, rfl⟩
  · rintro ⟨hname, hf⟩
    exact ⟨f.name, hname, hf.symm⟩

theorem exists_mem_gather (crossLibrary : Bool) (hu : u ∈ units) :
    ∃ f ∈ gather crossLibrary units, f.name = u.file :=
  ⟨.ofUnits crossLibrary u.file (units.filter fun v => v.file == u.file),
    mem_gather.mpr ⟨List.mem_map_of_mem hu, rfl⟩, rfl⟩

theorem exists_unit (hf : f ∈ gather crossLibrary units) : ∃ u ∈ units, u.file = f.name :=
  List.mem_map.mp (mem_gather.mp hf).1

theorem mem_defines (hf : f ∈ gather crossLibrary units) (name : String) :
    name ∈ f.defines ↔ ∃ u ∈ units, u.file = f.name ∧ u.definesName = true ∧ u.name = name := by
  rw [(mem_gather.mp hf).2]
  simp [SourceFile.ofUnits, and_assoc, and_left_comm]

theorem mem_uses (hf : f ∈ gather crossLibrary units) (p : String × String) :
    p ∈ f.uses ↔ ∃ u ∈ units, u.file = f.name ∧ u.Uses p.1 p.2 ∧
      (crossLibrary = true ∨ p.1 = f.library) := by
  rw [(mem_gather.mp hf).2]
  simp [SourceFile.ofUnits, and_assoc, DesignUnit.mem_pairs]

/-- A file whose units belong to one library belongs to that library. -/
theorem library_eq (hlibrary : OneLibraryPerFile units) (hf : f ∈ gather crossLibrary units)
    (hu : u ∈ units) (hfile : u.file = f.name) : f.library = u.library := by
  have hmem : u ∈ units.filter fun u => u.file == f.name :=
    List.mem_filter.mpr ⟨hu, beq_iff_eq.mpr hfile⟩
  rw [(mem_gather.mp hf).2, SourceFile.ofUnits]
  cases hfirst : units.filter fun u => u.file == f.name with
  | nil => rw [hfirst] at hmem; cases hmem
  | cons v vs =>
    obtain ⟨hv, hvfile⟩ := List.mem_filter.mp (hfirst ▸ List.mem_cons_self : v ∈ units.filter _)
    exact hlibrary v hv u hu ((beq_iff_eq.mp hvfile).trans hfile.symm)

/-- A file defines a name when one of its entities and packages has it. -/
theorem definesPair_iff (hlibrary : OneLibraryPerFile units) (hf : f ∈ gather crossLibrary units)
    (p : String × String) :
    f.definesPair p = true ↔ ∃ u ∈ units, u.file = f.name ∧ u.definesName = true ∧
      u.library = p.1 ∧ u.name = p.2 := by
  simp only [SourceFile.definesPair, Bool.and_eq_true, beq_iff_eq, List.contains_iff_mem,
    mem_defines hf]
  constructor
  · rintro ⟨hp, u, hu, hfile, hdefines, hname⟩
    exact ⟨u, hu, hfile, hdefines, (library_eq hlibrary hf hu hfile).symm.trans hp, hname⟩
  · rintro ⟨u, hu, hfile, hdefines, hp, hname⟩
    exact ⟨(library_eq hlibrary hf hu hfile).trans hp, u, hu, hfile, hdefines, hname⟩

/-- A file uses another when one of its units names an entity or package of the other. -/
theorem usesFile_iff (hlibrary : OneLibraryPerFile units) (hf : f ∈ gather crossLibrary units)
    (hh : h ∈ gather crossLibrary units) :
    f.usesFile h = true ↔ ∃ u ∈ units, ∃ v ∈ units, u.file = f.name ∧ v.file = h.name ∧
      v.definesName = true ∧ u.Uses v.library v.name ∧
      (crossLibrary = true ∨ v.library = u.library) := by
  simp only [SourceFile.usesFile, List.any_eq_true, mem_uses hf, definesPair_iff hlibrary hh]
  constructor
  · rintro ⟨⟨_, _⟩, ⟨u, hu, hfile, huses, hcross⟩, v, hv, hvfile, hdefines, rfl, rfl⟩
    rw [library_eq hlibrary hf hu hfile] at hcross
    exact ⟨u, hu, v, hv, hfile, hvfile, hdefines, huses, hcross⟩
  · rintro ⟨u, hu, v, hv, hfile, hvfile, hdefines, huses, hcross⟩
    rw [← library_eq hlibrary hf hu hfile] at hcross
    exact ⟨(v.library, v.name), ⟨u, hu, hfile, huses, hcross⟩, v, hv, hvfile, hdefines, rfl, rfl⟩

/-- Files gathered at different places have different names. -/
theorem name_ne_iff {i j : Nat} (hi : (gather crossLibrary units)[i]? = some f)
    (hj : (gather crossLibrary units)[j]? = some h) : h.name ≠ f.name ↔ j ≠ i := by
  have hnd : ((gather crossLibrary units).map (·.name)).Nodup :=
    map_name_gather crossLibrary units ▸ Text.nodup_eraseDups _
  have hi' := congrArg (Option.map (·.name)) hi
  have hj' := congrArg (Option.map (·.name)) hj
  rw [← List.getElem?_map, Option.map_some] at hi' hj'
  obtain ⟨hilt, hi'⟩ := List.getElem?_eq_some_iff.mp hi'
  obtain ⟨hjlt, hj'⟩ := List.getElem?_eq_some_iff.mp hj'
  rw [← hi', ← hj', ne_eq, hnd.getElem_inj_iff]

/-- The names at the positions of the files with a property. -/
theorem namesAt_eq {files : List SourceFile} {is : List Nat} {p : SourceFile → Bool}
    (hp : ∀ j h, files[j]? = some h → (j ∈ is ↔ p h = true)) :
    namesAt files is = Text.nameSet ((files.filter p).map (·.name)) := by
  refine Text.nameSet_congr fun b => ?_
  simp only [List.mem_filterMap, List.mem_map, List.mem_filter, Option.map_eq_some_iff]
  constructor
  · rintro ⟨j, hj, h, hget, rfl⟩
    exact ⟨h, ⟨List.mem_of_getElem? hget, (hp j h hget).mp hj⟩, rfl⟩
  · rintro ⟨h, ⟨hmem, hph⟩, rfl⟩
    obtain ⟨j, hget⟩ := List.mem_iff_getElem?.mp hmem
    exact ⟨j, (hp j h hget).mpr hph, h, hget, rfl⟩

/-- An edge leads from a file to another file it uses. -/
theorem edge_iff {i j : Nat} (hi : (gather crossLibrary units)[i]? = some f)
    (hj : (gather crossLibrary units)[j]? = some h) :
    Edge (ofUnits crossLibrary units).edges i j ↔ h.name ≠ f.name ∧ f.usesFile h = true := by
  rw [Edge, successors_ofUnits, hi, name_ne_iff hi hj]
  simp [mem_dependenciesOf, hj]

/-- The files of the graph are the files gathered, linked among themselves. -/
theorem files_ofUnits (crossLibrary : Bool) (units : List DesignUnit) :
    (ofUnits crossLibrary units).files =
      (gather crossLibrary units).map (.linked (gather crossLibrary units)) := by
  refine List.ext_getElem? fun i => ?_
  rw [getElem?_files_ofUnits, List.getElem?_map]
  cases hf : (gather crossLibrary units)[i]? with
  | none => rfl
  | some f =>
    have hdependencies : namesAt (gather crossLibrary units)
        (successors (ofUnits crossLibrary units).edges i) = (SourceFile.linked _ f).dependencies :=
      namesAt_eq fun j h hj => (edge_iff hf hj).trans (by simp)
    have hdependents : namesAt (gather crossLibrary units)
        (dependentsOf (ofUnits crossLibrary units).edges i) = (SourceFile.linked _ f).dependents :=
      namesAt_eq fun j h hj => by
        rw [mem_dependentsOf, edge_iff hj hf, ne_comm]
        simp
    rw [Option.map_some, Option.map_some, hdependencies, hdependents]
    rfl

/-- A file depends on another when one of its units names an entity or package there. -/
theorem dependsOn_ofUnits (hlibrary : OneLibraryPerFile units) {a b : String} :
    DependsOn (ofUnits crossLibrary units).files a b ↔ a ≠ b ∧ ∃ u ∈ units, ∃ v ∈ units,
      u.file = a ∧ v.file = b ∧ v.definesName = true ∧ u.Uses v.library v.name ∧
      (crossLibrary = true ∨ v.library = u.library) := by
  simp only [DependsOn, files_ofUnits, List.mem_map, SourceFile.linked]
  constructor
  · rintro ⟨_, ⟨f, hf, rfl⟩, rfl, hb⟩
    obtain ⟨h, hh, rfl⟩ := List.mem_map.mp ((Text.mem_nameSet ..).mp hb)
    obtain ⟨hh, hlink⟩ := List.mem_filter.mp hh
    obtain ⟨hne, huses⟩ := (Bool.and_eq_true ..).mp hlink
    exact ⟨Ne.symm (bne_iff_ne.mp hne), (usesFile_iff hlibrary hf hh).mp huses⟩
  · rintro ⟨hne, u, hu, v, hv, rfl, rfl, huses⟩
    obtain ⟨f, hf, hfile⟩ := exists_mem_gather crossLibrary hu
    obtain ⟨h, hh, hvfile⟩ := exists_mem_gather crossLibrary hv
    refine ⟨_, ⟨f, hf, rfl⟩, hfile, (Text.mem_nameSet ..).mpr (List.mem_map.mpr ⟨h, ?_, hvfile⟩)⟩
    refine List.mem_filter.mpr ⟨hh, (Bool.and_eq_true ..).mpr ⟨bne_iff_ne.mpr ?_, ?_⟩⟩
    · rw [hfile, hvfile]
      exact hne.symm
    · exact (usesFile_iff hlibrary hf hh).mpr ⟨u, hu, v, hv, hfile.symm, hvfile.symm, huses⟩

/-- Some file belongs to a library when some unit does. -/
theorem exists_library_iff (hlibrary : OneLibraryPerFile units) (library : String) :
    (∃ h ∈ gather crossLibrary units, h.library = library) ↔ ∃ w ∈ units, w.library = library := by
  constructor
  · rintro ⟨h, hh, rfl⟩
    obtain ⟨w, hw, hfile⟩ := exists_unit hh
    exact ⟨w, hw, (library_eq hlibrary hh hw hfile).symm⟩
  · rintro ⟨w, hw, rfl⟩
    obtain ⟨h, hh, hfile⟩ := exists_mem_gather crossLibrary hw
    exact ⟨h, hh, library_eq hlibrary hh hw hfile.symm⟩

/-- Some file defines a name when some entity or package of its library has it. -/
theorem exists_definesPair_iff (hlibrary : OneLibraryPerFile units) (p : String × String) :
    (∃ h ∈ gather crossLibrary units, h.definesPair p = true) ↔
      ∃ v ∈ units, v.definesName = true ∧ v.library = p.1 ∧ v.name = p.2 := by
  constructor
  · rintro ⟨h, hh, hdefines⟩
    obtain ⟨v, hv, -, hdefines⟩ := (definesPair_iff hlibrary hh p).mp hdefines
    exact ⟨v, hv, hdefines⟩
  · rintro ⟨v, hv, hdefines⟩
    obtain ⟨h, hh, hfile⟩ := exists_mem_gather crossLibrary hv
    exact ⟨h, hh, (definesPair_iff hlibrary hh p).mpr ⟨v, hv, hfile.symm, hdefines⟩⟩

/-- Links do not matter to what is undefined. -/
theorem undefined_ofUnits (crossLibrary : Bool) (units : List DesignUnit) :
    (ofUnits crossLibrary units).undefined = undefined ⟨gather crossLibrary units, []⟩ := by
  simp only [undefined, files_ofUnits, List.flatMap_map, List.any_map]
  rfl

/-- A name is reported for a file whose unit uses it when its library has units but no entity
or package of the library has the name. -/
theorem mem_undefined (hlibrary : OneLibraryPerFile units) {d : Diagnostic} :
    d ∈ (ofUnits crossLibrary units).undefined ↔ ∃ u ∈ units, ∃ library name,
      u.Uses library name ∧ (crossLibrary = true ∨ library = u.library) ∧
      (¬ ∃ v ∈ units, v.definesName = true ∧ v.library = library ∧ v.name = name) ∧
      (∃ w ∈ units, w.library = library) ∧ d = .undefinedName u.file library name := by
  rw [undefined_ofUnits]
  simp only [undefined, List.mem_flatMap, List.mem_map, List.mem_filter, Bool.and_eq_true,
    Bool.not_eq_true', ← Bool.not_eq_true, List.any_eq_true, beq_iff_eq,
    exists_library_iff hlibrary, exists_definesPair_iff hlibrary]
  constructor
  · rintro ⟨f, hf, ⟨library, name⟩, ⟨hp, hnone, hknown⟩, rfl⟩
    obtain ⟨u, hu, hfile, huses, hcross⟩ := (mem_uses hf _).mp hp
    rw [library_eq hlibrary hf hu hfile] at hcross
    exact ⟨u, hu, library, name, huses, hcross, hnone, hknown, by rw [hfile]⟩
  · rintro ⟨u, hu, library, name, huses, hcross, hnone, hknown, rfl⟩
    obtain ⟨f, hf, hfile⟩ := exists_mem_gather crossLibrary hu
    rw [← library_eq hlibrary hf hu hfile.symm] at hcross
    exact ⟨f, hf, (library, name),
      ⟨(mem_uses hf _).mpr ⟨u, hu, hfile.symm, huses, hcross⟩, hnone, hknown⟩, by rw [hfile]⟩

end FileGraph

end CompileOrder
