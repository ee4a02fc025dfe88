import CompileOrder.Proofs.FileGraph.BuildOrder
import CompileOrder.Proofs.FileGraph.Units

/-!
# What the build order records

The files of a build order are those of the graph, whatever levels they get, so the links
they record and the names reported for them can be read off the units. A file depends on the
other files that define a name it needs, its dependents are the files that depend on it, and
a needed name is reported once if its library has files and none of its units has the name.
-/

namespace CompileOrder

open CompileOrder.Graph

/-- The unit is the entity or package that a library has under a name. -/
def DesignUnit.Defines (u : DesignUnit) (library name : String) : Prop :=
  u.definesName = true ∧ u.library = library ∧ u.name = name

instance (u : DesignUnit) (library name : String) : Decidable (u.Defines library name) :=
  inferInstanceAs (Decidable (u.definesName = true ∧ u.library = library ∧ u.name = name))

/-- Some unit in the file uses the name, and names of this library count: those of the file's
own library do, and all names do when libraries are ordered across. -/
def SourceFile.Needs (f : SourceFile) (crossLibrary : Bool) (units : List DesignUnit)
    (library name : String) : Prop :=
  (library = f.library ∨ crossLibrary = true) ∧
    ∃ u ∈ units, u.file = f.name ∧ u.Uses library name

instance (f : SourceFile) (crossLibrary : Bool) (units : List DesignUnit)
    (library name : String) : Decidable (f.Needs crossLibrary units library name) :=
  inferInstanceAs (Decidable ((library = f.library ∨ crossLibrary = true) ∧
    ∃ u ∈ units, u.file = f.name ∧ u.Uses library name))

namespace FileGraph

variable {condense : List (List Nat) → List (List Nat)} {g : FileGraph} {s : Strategy}
  {f h : SourceFile} {name : String}

namespace Coherent

variable (hg : g.Coherent)
include hg

/-- No two files of the build order have the same name. -/
theorem eq_of_name_eq (hf : f ∈ g.sorted condense s) (hh : h ∈ g.sorted condense s)
    (hname : f.name = h.name) : f = h := by
  obtain ⟨i, f₀, hi, rfl⟩ := (mem_sorted hg _).mp hf
  obtain ⟨j, h₀, hj, rfl⟩ := (mem_sorted hg _).mp hh
  have hsame : g.nameAt? j = some f₀.name := (nameAt?_eq hj).trans (congrArg some hname.symm)
  obtain rfl := hg.position_unique (nameAt?_eq hi) hsame
  obtain rfl : f₀ = h₀ := Option.some.inj (hi.symm.trans hj)
  rfl

/-- What a file depends on is what it records. -/
theorem dependsOn_iff_mem (hf : f ∈ g.sorted condense s) :
    DependsOn (g.sorted condense s) f.name name ↔ name ∈ f.dependencies := by
  constructor
  · rintro ⟨h, hh, hname, hdep⟩
    exact hg.eq_of_name_eq hh hf hname ▸ hdep
  · exact fun hdep => ⟨f, hf, rfl, hdep⟩

/-- The dependents of a file are the files that depend on it. -/
theorem mem_dependents_iff (hf : f ∈ g.sorted condense s) :
    name ∈ f.dependents ↔ DependsOn (g.sorted condense s) name f.name := by
  rw [dependsOn_sorted hg, hg.dependsOn_iff_exists]
  obtain ⟨i, f₀, hi, rfl⟩ := (mem_sorted hg _).mp hf
  have hname : g.nameAt? i = some f₀.name := nameAt?_eq hi
  simp only [hg.mem_dependents i f₀ hi]
  constructor
  · rintro ⟨j, hji, hj⟩
    exact ⟨j, i, hj, hname, hji⟩
  · rintro ⟨j, i', hj, hi', hji⟩
    exact ⟨j, hg.position_unique hname hi' ▸ hji, hj⟩

end Coherent

section

variable {units : List DesignUnit} {rules : OrderRules} {u : DesignUnit}

/-- The build order has the dependencies of the graph of files. -/
theorem dependsOn_orderFiles (units : List DesignUnit) (rules : OrderRules) :
    DependsOn (orderFiles condense units rules).1 =
      DependsOn (ofUnits rules.crossLibrary units).files :=
  dependsOn_sorted (ofUnits_coherent rules.crossLibrary units)

/-- A file of the build order has the name and the library of a file gathered. -/
theorem exists_gathered (hf : f ∈ (orderFiles condense units rules).1) :
    ∃ h ∈ gather rules.crossLibrary units, h.name = f.name ∧ h.library = f.library := by
  obtain ⟨i, f₀, hi, rfl⟩ := (mem_sorted (ofUnits_coherent rules.crossLibrary units) _).mp hf
  have hmem := List.mem_of_getElem? hi
  rw [files_ofUnits] at hmem
  obtain ⟨h, hh, rfl⟩ := List.mem_map.mp hmem
  exact ⟨h, hh, rfl, rfl⟩

/-- Every file gathered is in the build order, with its name and its library. -/
theorem exists_recorded (condense : List (List Nat) → List (List Nat))
    (hh : h ∈ gather rules.crossLibrary units) :
    ∃ f ∈ (orderFiles condense units rules).1, f.name = h.name ∧ f.library = h.library := by
  have hmem : h.linked (gather rules.crossLibrary units) ∈
      (ofUnits rules.crossLibrary units).files := by
    rw [files_ofUnits]
    exact List.mem_map_of_mem hh
  obtain ⟨i, hi⟩ := List.mem_iff_getElem?.mp hmem
  exact ⟨_, (mem_sorted (ofUnits_coherent rules.crossLibrary units) _).mpr ⟨i, _, hi, rfl⟩,
    rfl, rfl⟩

/-- The file of a unit is in the build order, and in the library of the unit. -/
theorem exists_file_of_unit (condense : List (List Nat) → List (List Nat))
    (hlibrary : OneLibraryPerFile units) (hu : u ∈ units) :
    ∃ f ∈ (orderFiles condense units rules).1, f.name = u.file ∧ f.library = u.library := by
  obtain ⟨h, hh, hfile⟩ := exists_mem_gather rules.crossLibrary hu
  obtain ⟨f, hf, hname, hflibrary⟩ := exists_recorded condense hh
  exact ⟨f, hf, hname.trans hfile, hflibrary.trans (library_eq hlibrary hh hu hfile.symm)⟩

/-- The units in a file of the build order belong to its library. -/
theorem library_of_file_eq (hlibrary : OneLibraryPerFile units)
    (hf : f ∈ (orderFiles condense units rules).1) (hu : u ∈ units) (hfile : u.file = f.name) :
    u.library = f.library := by
  obtain ⟨h, hh, hname, hflibrary⟩ := exists_gathered hf
  exact (library_eq hlibrary hh hu (hfile.trans hname.symm)).symm.trans hflibrary

/-- A file depends on another that defines a name it needs. -/
theorem mem_dependencies_iff (hlibrary : OneLibraryPerFile units)
    (hf : f ∈ (orderFiles condense units rules).1) :
    name ∈ f.dependencies ↔ name ≠ f.name ∧ ∃ library used,
      f.Needs rules.crossLibrary units library used ∧
        ∃ v ∈ units, v.file = name ∧ v.Defines library used := by
  rw [← (ofUnits_coherent rules.crossLibrary units).dependsOn_iff_mem hf]
  change DependsOn (orderFiles condense units rules).1 f.name name ↔ _
  rw [dependsOn_orderFiles, dependsOn_ofUnits hlibrary, ne_comm]
  refine and_congr_right fun _ => ⟨?_, ?_⟩
  · rintro ⟨u, hu, v, hv, hfile, hvfile, hdefines, huses, hcross⟩
    rw [library_of_file_eq hlibrary hf hu hfile] at hcross
    exact ⟨v.library, v.name, ⟨hcross.symm, u, hu, hfile, huses⟩, v, hv, hvfile, hdefines, rfl, rfl⟩
  · rintro ⟨_, _, ⟨hcross, u, hu, hfile, huses⟩, v, hv, hvfile, hdefines, rfl, rfl⟩
    rw [← library_of_file_eq hlibrary hf hu hfile] at hcross
    exact ⟨u, hu, v, hv, hfile, hvfile, hdefines, huses, hcross.symm⟩

/-- Leveling reports no undefined names. -/
theorem not_mem_findings (g : FileGraph) (s : Strategy) (file library name : String) :
    .undefinedName file library name ∉ g.findings condense s := by
  cases s <;> simp [findings, cycles]

/-- The undefined names reported are those of the graph of files. -/
theorem mem_orderFiles_iff {file library : String} :
    .undefinedName file library name ∈ (orderFiles condense units rules).2 ↔
      .undefinedName file library name ∈ (ofUnits rules.crossLibrary units).undefined := by
  rw [orderFiles, List.mem_append, or_iff_left (not_mem_findings _ _ file library name)]

/-- No name is reported twice for a file. -/
theorem nodup_undefined (crossLibrary : Bool) (units : List DesignUnit) :
    (ofUnits crossLibrary units).undefined.Nodup := by
  have hnames : (gather crossLibrary units).Pairwise fun f h => f.name ≠ h.name := by
    rw [← List.pairwise_map, map_name_gather]
    exact Text.nodup_eraseDups _
  rw [undefined_ofUnits, undefined, List.nodup_flatMap]
  constructor
  · intro f hf
    have huses : f.uses.Nodup := by
      rw [(mem_gather.mp hf).2]
      exact Text.orders_pairPrecedes.nodup_sortedSet _
    refine (huses.filter _).map fun p q hpq => ?_
    obtain ⟨-, hlibrary, hname⟩ := Diagnostic.undefinedName.inj hpq
    exact Prod.ext hlibrary hname
  · refine hnames.imp fun hne => ?_
    intro d hd hd'
    obtain ⟨p, -, rfl⟩ := List.mem_map.mp hd
    obtain ⟨q, -, hq⟩ := List.mem_map.mp hd'
    exact hne (Diagnostic.undefinedName.inj hq).1.symm

/-- A name is reported for a file once at most. -/
theorem count_orderFiles_le (condense : List (List Nat) → List (List Nat))
    (units : List DesignUnit) (rules : OrderRules) (file library name : String) :
    (orderFiles condense units rules).2.count (.undefinedName file library name) ≤ 1 := by
  rw [orderFiles, List.count_append,
    List.count_eq_zero_of_not_mem (not_mem_findings _ _ file library name), Nat.add_zero]
  exact List.nodup_iff_count_le_one.mp (nodup_undefined _ _) _

/-- A name is reported for a file that needs it when its library has files and no unit of the
library has the name. -/
theorem mem_findings_iff (hlibrary : OneLibraryPerFile units) {file library : String} :
    .undefinedName file library name ∈ (orderFiles condense units rules).2 ↔
      (∃ f ∈ (orderFiles condense units rules).1, f.name = file ∧
          f.Needs rules.crossLibrary units library name) ∧
        (∃ h ∈ (orderFiles condense units rules).1, h.library = library) ∧
        ¬ ∃ v ∈ units, v.Defines library name := by
  have hknown : (∃ h ∈ (orderFiles condense units rules).1, h.library = library) ↔
      ∃ w ∈ units, w.library = library := by
    constructor
    · rintro ⟨f, hf, rfl⟩
      obtain ⟨h, hh, hname, hflibrary⟩ := exists_gathered hf
      obtain ⟨w, hw, hfile⟩ := exists_unit hh
      exact ⟨w, hw, library_of_file_eq hlibrary hf hw (hfile.trans hname)⟩
    · rintro ⟨w, hw, rfl⟩
      obtain ⟨f, hf, -, hflibrary⟩ := exists_file_of_unit condense hlibrary hw
      exact ⟨f, hf, hflibrary⟩
  rw [mem_orderFiles_iff, mem_undefined hlibrary, hknown]
  constructor
  · rintro ⟨u, hu, _, _, huses, hcross, hnone, hlib, heq⟩
    cases heq
    obtain ⟨f, hf, hname, hflibrary⟩ := exists_file_of_unit condense hlibrary hu
    rw [← hflibrary] at hcross
    exact ⟨⟨f, hf, hname, hcross.symm, u, hu, hname.symm, huses⟩, hlib, hnone⟩
  · rintro ⟨⟨f, hf, rfl, hcross, u, hu, hfile, huses⟩, hlib, hnone⟩
    rw [← library_of_file_eq hlibrary hf hu hfile] at hcross
    exact ⟨u, hu, library, name, huses, hcross.symm, hnone, hlib, by rw [hfile]⟩

end

end FileGraph

/-- The build order records the graph of its files exactly, when the units of a file belong
to one library. A file depends on the other files with an entity or package that it needs,
its dependents are the files that depend on it, and a name is reported once for each file
that needs it if its library has files but no entity or package of that name. -/
theorem records_exact (condense : List (List Nat) → List (List Nat)) {units : List DesignUnit}
    (hlibrary : OneLibraryPerFile units) (rules : OrderRules) :
    let files := (orderFiles condense units rules).1
    let findings := (orderFiles condense units rules).2
    (∀ u ∈ units, ∃ f ∈ files, f.name = u.file ∧ f.library = u.library) ∧
    (∀ f ∈ files, ∀ name, name ∈ f.dependencies ↔ name ≠ f.name ∧ ∃ library used,
      f.Needs rules.crossLibrary units library used ∧
        ∃ v ∈ units, v.file = name ∧ v.Defines library used) ∧
    (∀ f ∈ files, ∀ name, name ∈ f.dependents ↔
      ∃ h ∈ files, h.name = name ∧ f.name ∈ h.dependencies) ∧
    ∀ file library name, findings.count (.undefinedName file library name) =
      if (∃ f ∈ files, f.name = file ∧ f.Needs rules.crossLibrary units library name) ∧
          (∃ h ∈ files, h.library = library) ∧ ¬ ∃ v ∈ units, v.Defines library name
        then 1 else 0 := by
  intro files findings
  refine ⟨fun u hu => FileGraph.exists_file_of_unit condense hlibrary hu,
    fun f hf name => FileGraph.mem_dependencies_iff hlibrary hf,
    fun f hf name => (FileGraph.ofUnits_coherent _ _).mem_dependents_iff hf,
    fun file library name => ?_⟩
  split
  · rename_i hreported
    have hpos := List.count_pos_iff.mpr ((FileGraph.mem_findings_iff hlibrary).mpr hreported)
    have hle := FileGraph.count_orderFiles_le condense units rules file library name
    exact Nat.le_antisymm hle hpos
  · rename_i hnot
    exact List.count_eq_zero_of_not_mem fun hmem =>
      hnot ((FileGraph.mem_findings_iff hlibrary).mp hmem)

namespace Across

/-- An entity that uses a package of another library and one that this library lacks. -/
def app : DesignUnit :=
  .declare .entity "APP" "WORK" "app.vhd" 1 [] [⟨"UTIL", some "TYPES"⟩, ⟨"UTIL", some "MISSING"⟩]

/-- The package. -/
def types : DesignUnit := .declare .package "TYPES" "UTIL" "types.vhd" 1 [] []

/-- Its body, in the same file. -/
def body : DesignUnit :=
  .declare .packageBody "TYPES" "UTIL" "types.vhd" 4 [] [⟨"UTIL", some "TYPES"⟩]

/-- All of them. -/
def units : List DesignUnit := [app, types, body]

/-- Across libraries the file of the entity is linked to that of the package, and the missing
package is reported once. -/
theorem app_linked_to_types :
    let files := (orderFiles Graph.components units ⟨.propagate, true⟩).1
    let findings := (orderFiles Graph.components units ⟨.propagate, true⟩).2
    OneLibraryPerFile units ∧
    (∃ f ∈ files, ∃ h ∈ files, f.name = "app.vhd" ∧ h.name = "types.vhd" ∧
      h.name ∈ f.dependencies ∧ f.name ∈ h.dependents) ∧
    findings.count (.undefinedName "app.vhd" "UTIL" "MISSING") = 1 := by
  intro files findings
  have hlibrary : OneLibraryPerFile units := by decide
  obtain ⟨hfiles, hdependencies, hdependents, hreported⟩ :=
    records_exact Graph.components hlibrary ⟨.propagate, true⟩
  obtain ⟨f, hf, hname, -⟩ := hfiles app (by decide)
  obtain ⟨h, hh, hname', hutil⟩ := hfiles types (by decide)
  have hneeds : ∀ name, app.Uses "UTIL" name → f.Needs true units "UTIL" name := fun _ huses =>
    ⟨Or.inr rfl, app, by decide, hname.symm, huses⟩
  have hlink : h.name ∈ f.dependencies :=
    (hdependencies f hf h.name).mpr ⟨by rw [hname, hname']; decide, "UTIL", "TYPES",
      hneeds "TYPES" (by decide), types, by decide, hname'.symm, by decide⟩
  refine ⟨hlibrary, ⟨f, hf, h, hh, hname, hname', hlink,
    (hdependents h hh f.name).mpr ⟨f, hf, rfl, hlink⟩⟩, (hreported ..).trans (if_pos ?_)⟩
  exact ⟨⟨f, hf, hname, hneeds "MISSING" (by decide)⟩, ⟨h, hh, hutil⟩, by decide⟩

end Across

end CompileOrder
