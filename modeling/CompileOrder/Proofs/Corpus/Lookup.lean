import CompileOrder.Corpus
import Mathlib.Data.List.Basic

/-!
# Positions found in a corpus

What the lookups of a corpus return, position by position.
-/

namespace CompileOrder.Corpus

variable {c : Corpus} {i : Nat}

/-- The positions of a property are those of the units that have it. -/
theorem mem_positions {p : DesignUnit → Bool} :
    i ∈ c.positions p ↔ ∃ u, c.units[i]? = some u ∧ p u = true := by
  simp only [positions, List.mem_map, List.mem_filter, Prod.exists,
    List.mk_mem_zipIdx_iff_getElem?]
  constructor
  · rintro ⟨u, j, ⟨hu, hp⟩, rfl⟩
    exact ⟨u, hu, hp⟩
  · rintro ⟨u, hu, hp⟩
    exact ⟨u, i, ⟨hu, hp⟩, rfl⟩

theorem lt_of_mem_positions {p : DesignUnit → Bool} (hi : i ∈ c.positions p) :
    i < c.units.length := by
  obtain ⟨u, hu, -⟩ := mem_positions.mp hi
  exact (List.getElem?_eq_some_iff.mp hu).1

/-- Positions picked out of a list are in increasing order. -/
theorem pairwise_filter_zipIdx (us : List DesignUnit) (p : DesignUnit × Nat → Bool) :
    ((us.zipIdx.filter p).map (·.2)).Pairwise (· < ·) := by
  have hsorted : (us.zipIdx.map (·.2)).Pairwise (· < ·) := by
    rw [List.zipIdx_map_snd]
    exact List.pairwise_lt_range'
  exact hsorted.sublist (List.filter_sublist.map _)

/-- Positions are found in increasing order. -/
theorem pairwise_positions (c : Corpus) (p : DesignUnit → Bool) :
    (c.positions p).Pairwise (· < ·) := pairwise_filter_zipIdx c.units fun x => p x.1

/-- As many positions are found as there are units with the property. -/
theorem length_positions (c : Corpus) (p : DesignUnit → Bool) :
    (c.positions p).length = c.units.countP p := by
  have hfst : (c.units.zipIdx.map (·.1)).countP p = c.units.countP p := by
    rw [List.zipIdx_map_fst]
  rw [positions, List.length_map, ← List.countP_eq_length_filter, ← hfst, List.countP_map]
  rfl

/-- The units at the positions of a property are those that have it. -/
theorem unitsAt_positions (c : Corpus) (p : DesignUnit → Bool) :
    c.unitsAt (c.positions p) = c.units.filter p := by
  let found := c.units.zipIdx.filter fun x => p x.1
  have hfound : ∀ x ∈ found, c.units[x.2]? = some x.1 := fun x hx =>
    List.mk_mem_zipIdx_iff_getElem?.mp (List.mem_filter.mp hx).1
  have hfst : found.map (·.1) = c.units.filter p := by
    calc found.map (·.1) = (c.units.zipIdx.map (·.1)).filter p := (List.filter_map ..).symm
      _ = c.units.filter p := by rw [List.zipIdx_map_fst]
  calc c.unitsAt (c.positions p)
      = found.filterMap ((fun i => c.units[i]?) ∘ (·.2)) := List.filterMap_map ..
    _ = found.filterMap (some ∘ (·.1)) := List.filterMap_congr fun x hx => hfound x hx
    _ = c.units.filter p := by rw [List.filterMap_eq_map, hfst]

/-- Nothing is found where no unit has the property. -/
theorem positions_eq_nil_iff_forall {p : DesignUnit → Bool} :
    c.positions p = [] ↔ ∀ u ∈ c.units, p u = false := by
  rw [← List.length_eq_zero_iff, length_positions, List.countP_eq_zero]
  simp only [Bool.not_eq_true]

theorem isArchitectureOf_iff {library entity : String} {architecture : Option String}
    {u : DesignUnit} :
    isArchitectureOf library entity architecture u = true ↔
      ∃ a, u.architecture? = some a ∧ u.library = library ∧ u.name = entity ∧
        ∀ b, architecture = some b → a = b := by
  cases ha : u.architecture? with
  | none => simp [isArchitectureOf, ha]
  | some a => cases hb : architecture <;> simp [isArchitectureOf, ha, and_assoc]

/-- A request stands for the architectures of its entity that have the name it gives. -/
theorem mem_candidates {r : Request} :
    i ∈ c.candidates r ↔ ∃ u a, c.units[i]? = some u ∧ u.architecture? = some a ∧
      u.library = r.library ∧ u.name = r.entity ∧ ∀ b, r.architecture = some b → a = b := by
  simp only [candidates, architectures, mem_positions, isArchitectureOf_iff]
  constructor
  · rintro ⟨u, hu, a, ha⟩
    exact ⟨u, a, hu, ha⟩
  · rintro ⟨u, a, hu, ha⟩
    exact ⟨u, hu, a, ha⟩

/-- A name of a library stands for its units of that name, architectures left out. -/
theorem mem_named {library name : String} :
    i ∈ c.named library name ↔ ∃ u, c.units[i]? = some u ∧ u.isArchitecture = false ∧
      u.library = library ∧ u.name = name := by
  simp [named, mem_positions, and_assoc]

/-- A name of a library stands for nothing if all units of that name are architectures. -/
theorem named_eq_nil_iff {library name : String} :
    c.named library name = [] ↔
      ∀ u ∈ c.units, u.library = library → u.name = name → u.isArchitecture = true := by
  rw [named, positions_eq_nil_iff_forall]
  refine forall₂_congr fun u _ => ?_
  cases u.isArchitecture <;> simp

theorem hasLibrary_eq_true {library : String} :
    c.hasLibrary library = true ↔ ∃ u ∈ c.units, u.library = library := by
  simp [hasLibrary]

theorem hasLibrary_eq_false {library : String} :
    c.hasLibrary library = false ↔ ∀ u ∈ c.units, u.library ≠ library := by
  simp [hasLibrary]

/-- A library without units defines no names. -/
theorem named_eq_nil {library : String} (h : c.hasLibrary library = false) (name : String) :
    c.named library name = [] :=
  named_eq_nil_iff.mpr fun u hu hlibrary _ => absurd hlibrary (hasLibrary_eq_false.mp h u hu)

/-- The targets of an instance are architectures of the corpus. -/
theorem lt_of_mem_targets {u : DesignUnit} {inst : Instance} (hi : i ∈ c.targets u inst) :
    i < c.units.length := by
  rw [targets] at hi
  cases hfind : ((searchPath u inst).map fun l =>
      c.architectures l inst.target.name inst.target.architecture).find? (!·.isEmpty) with
  | none => simp [hfind] at hi
  | some found =>
    rw [hfind] at hi
    obtain ⟨l, -, rfl⟩ := List.mem_map.mp (List.mem_of_find?_eq_some hfind)
    exact lt_of_mem_positions hi

end CompileOrder.Corpus
