import CompileOrder.Proofs.Corpus.Restriction
import CompileOrder.Proofs.FileGraph.Records

/-!
# The build order of a closure

Names are resolved twice: the closure looks for every unit of a name that is no architecture,
the graph of files for entities and packages alone, and each passes over libraries it does
not know. What the graph finds the closure keeps, so a file of a closure depends on every file
it depended on through a kept unit, and no name becomes undefined that was defined before.
-/

namespace CompileOrder

variable {c : Corpus} {tops : List Request} {u v : DesignUnit}

/-- Entities and packages are no architectures. -/
theorem DesignUnit.isArchitecture_of_definesName (h : u.definesName = true) :
    u.isArchitecture = false := by
  cases hkind : u.kind with
  | entity | package => simp [isArchitecture, architecture?, hkind]
  | architecture | packageBody => simp [definesName, hkind] at h

namespace Corpus

/-- A part that keeps every position of a unit has as many copies of it. -/
theorem PartAt.count_eq {part : Corpus} {kept : List Nat} (h : PartAt c kept part)
    (hkept : ∀ j, c.units[j]? = some v → j ∈ kept) : part.units.count v = c.units.count v := by
  have hpositions : ∀ i ∈ c.positions (· == v), i ∈ kept := by
    intro i hi
    obtain ⟨w, hw, heq⟩ := mem_positions.mp hi
    exact hkept i (eq_of_beq heq ▸ hw)
  have heq := congrArg List.length (h.filterMap_positions_of_subset hpositions)
  have horigin : ∀ k ∈ part.positions (· == v), (kept[k]?).isSome = true := fun k hk =>
    Option.isSome_iff_exists.mpr (h.exists_origin hk)
  rw [List.length_filterMap_eq_countP, List.countP_eq_length.mpr horigin, length_positions,
    length_positions] at heq
  exact heq

/-- A closure has no units but those of the corpus. -/
theorem mem_of_mem_closure (hu : u ∈ (c.closure tops).1.units) : u ∈ c.units := by
  obtain ⟨i, -, hi⟩ := mem_closure.mp hu
  exact List.mem_of_getElem? hi

/-- Every copy of an entity or package that a unit of a closure names is needed. -/
theorem needed_of_uses (hu : u ∈ (c.closure tops).1.units) (hdefines : v.definesName = true)
    (huses : u.Uses v.library v.name) (j : Nat) (hj : c.units[j]? = some v) :
    j ∈ c.neededPositions tops := by
  obtain ⟨i, hi, hu⟩ := mem_closure.mp hu
  obtain ⟨names, hentry, hname⟩ := huses
  exact (closedUnder_neededPositions c tops).used i hi u hu v.library names hentry v.name hname
    j v hj (DesignUnit.isArchitecture_of_definesName hdefines) rfl rfl

/-- An entity or package that a unit of a closure names is in the closure. -/
theorem mem_closure_of_uses (hu : u ∈ (c.closure tops).1.units) (hv : v ∈ c.units)
    (hdefines : v.definesName = true) (huses : u.Uses v.library v.name) :
    v ∈ (c.closure tops).1.units := by
  obtain ⟨j, hj⟩ := List.mem_iff_getElem?.mp hv
  exact mem_closure.mpr ⟨j, needed_of_uses hu hdefines huses j hj, hj⟩

end Corpus

/-- Ordering the closure of some requests instead of the whole corpus reports no name as
undefined that the corpus defines. An entity or package named by a unit of the closure is in the
closure with all its copies, and the file of the unit depends on its file there. -/
theorem orderFiles_closure (condense : List (List Nat) → List (List Nat)) (c : Corpus)
    (tops : List Request) (rules : OrderRules) (hlibrary : OneLibraryPerFile c.units) :
    let kept := (c.closure tops).1
    (∀ file library name,
      .undefinedName file library name ∈ (orderFiles condense kept.units rules).2 →
        .undefinedName file library name ∈ (orderFiles condense c.units rules).2) ∧
    ∀ u ∈ kept.units, ∀ v ∈ c.units, u.file ≠ v.file → v.definesName = true →
      u.Uses v.library v.name → (rules.crossLibrary = true ∨ v.library = u.library) →
      v ∈ kept.units ∧ kept.units.count v = c.units.count v ∧
        DependsOn (orderFiles condense kept.units rules).1 u.file v.file := by
  intro kept
  have hsub : ∀ u ∈ kept.units, u ∈ c.units := fun _ hu => Corpus.mem_of_mem_closure hu
  have hlibrary' : OneLibraryPerFile kept.units := fun u hu v hv =>
    hlibrary u (hsub u hu) v (hsub v hv)
  constructor
  · intro file library name hreport
    rw [FileGraph.mem_orderFiles_iff, FileGraph.mem_undefined hlibrary'] at hreport
    rw [FileGraph.mem_orderFiles_iff, FileGraph.mem_undefined hlibrary]
    obtain ⟨u, hu, l, n, huses, hcross, hnone, ⟨w, hw, hwl⟩, hreport⟩ := hreport
    refine ⟨u, hsub u hu, l, n, huses, hcross, ?_, ⟨w, hsub w hw, hwl⟩, hreport⟩
    rintro ⟨v, hv, hdefines, rfl, rfl⟩
    exact hnone ⟨v, Corpus.mem_closure_of_uses hu hv hdefines huses, hdefines, rfl, rfl⟩
  · intro u hu v hv hfile hdefines huses hcross
    have hv' : v ∈ kept.units := Corpus.mem_closure_of_uses hu hv hdefines huses
    refine ⟨hv', (Corpus.partAt_closure c tops).count_eq
      (Corpus.needed_of_uses hu hdefines huses), ?_⟩
    rw [FileGraph.dependsOn_orderFiles, FileGraph.dependsOn_ofUnits hlibrary']
    exact ⟨hfile, u, hu, v, hv', rfl, rfl, hdefines, huses, hcross⟩

namespace Reduced

/-- A package read twice. -/
def shared : DesignUnit := .declare .package "SHARED" "WORK" "shared.vhd" 1 [] []

/-- A package that nothing uses. -/
def spare : DesignUnit := .declare .package "SPARE" "WORK" "spare.vhd" 1 [] []

/-- An entity that uses the shared package and one that is missing. -/
def top : DesignUnit :=
  .declare .entity "TOP" "WORK" "top.vhd" 1 []
    [⟨"WORK", some "SHARED"⟩, ⟨"WORK", some "MISSING"⟩]

/-- The architecture of the entity. -/
def body : DesignUnit :=
  .declare (.architecture "RTL" []) "TOP" "WORK" "body.vhd" 1 [] [⟨"WORK", some "TOP"⟩]

/-- All of them. -/
def corpus : Corpus := ⟨[shared, spare, top, body, shared]⟩

/-- The request for the entity. -/
def requests : List Request := [⟨"WORK", "TOP", none⟩]

end Reduced

open Reduced in
/-- Without the spare package the name is still missing, and both copies of the shared package
are there for the entity to depend on. -/
theorem reduced_corpus_ordered :
    let kept := (corpus.closure requests).1
    spare ∉ kept.units ∧
    .undefinedName "top.vhd" "WORK" "MISSING" ∈
      (orderFiles Graph.components corpus.units ⟨.topological, false⟩).2 ∧
    shared ∈ kept.units ∧ kept.units.count shared = corpus.units.count shared ∧
    DependsOn (orderFiles Graph.components kept.units ⟨.topological, false⟩).1
      "top.vhd" "shared.vhd" := by
  intro kept
  obtain ⟨hundefined, hkept⟩ :=
    orderFiles_closure Graph.components corpus requests ⟨.topological, false⟩ (by decide)
  have hmissing : .undefinedName "top.vhd" "WORK" "MISSING" ∈
      (orderFiles Graph.components kept.units ⟨.topological, false⟩).2 := by decide +kernel
  exact ⟨by decide +kernel, hundefined _ _ _ hmissing,
    hkept top (by decide +kernel) shared (by decide) (by decide) rfl (by decide) (Or.inr rfl)⟩

end CompileOrder
