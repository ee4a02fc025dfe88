import CompileOrder.Proofs.Corpus.Closure
import Mathlib.Data.List.Sort

/-!
# Lookups in a part of a corpus

A part of a corpus keeps the units at some positions, in their order. A lookup in the
part finds what the lookup in the whole corpus finds, as far as it was kept. The search
for an instance stops at the first library with a match, so it could stop at another
library in the part; but where all targets are kept, no library before theirs has a
match in the part either. A closure keeps the targets of its instances and the units
of the names it uses, so it is its own closure.
-/

namespace CompileOrder.Corpus

/-- The corpus `part` consists of the units of `c` at the increasing positions `kept`. -/
structure PartAt (c : Corpus) (kept : List Nat) (part : Corpus) : Prop where
  /-- The positions are in order, each once. -/
  increasing : kept.Pairwise (· < ·)
  /-- The units there are the part. -/
  map_units : part.units.map some = kept.map fun i => c.units[i]?

namespace PartAt

variable {c part : Corpus} {kept : List Nat} {i j k : Nat}

theorem length_eq (h : PartAt c kept part) : part.units.length = kept.length := by
  simpa using congrArg List.length h.map_units

/-- The unit at a position of the part is the unit where it was kept from. -/
theorem getElem?_units (h : PartAt c kept part) (hk : kept[k]? = some i) :
    part.units[k]? = c.units[i]? := by
  have hlt : k < part.units.length := by
    rw [h.length_eq]
    exact (List.getElem?_eq_some_iff.mp hk).1
  have hget := congrArg (·[k]?) h.map_units
  simp only [List.getElem?_map, hk, Option.map_some] at hget
  rw [List.getElem?_eq_getElem hlt] at hget ⊢
  exact Option.some.inj hget

/-- No position of the corpus is kept twice. -/
theorem position_unique (h : PartAt c kept part) (hj : kept[j]? = some i)
    (hk : kept[k]? = some i) : j = k :=
  (List.getElem?_inj (List.getElem?_eq_some_iff.mp hj).1 (h.increasing.imp ne_of_lt)).mp
    (hj.trans hk.symm)

/-- A property is found in the part where it is found in the corpus at a kept position. -/
theorem mem_positions_iff (h : PartAt c kept part) (hk : kept[k]? = some i)
    {p : DesignUnit → Bool} : k ∈ part.positions p ↔ i ∈ c.positions p := by
  rw [mem_positions, mem_positions, h.getElem?_units hk]

/-- Every position found in the part was kept from a position of the corpus. -/
theorem exists_origin (h : PartAt c kept part) {p : DesignUnit → Bool}
    (hk : k ∈ part.positions p) : ∃ i, kept[k]? = some i := by
  have hlt : k < kept.length := h.length_eq ▸ lt_of_mem_positions hk
  exact ⟨kept[k], List.getElem?_eq_getElem hlt⟩

/-- What is found in the part is, position by position, what is found in the corpus as far
as it was kept. -/
theorem filterMap_positions (h : PartAt c kept part) (p : DesignUnit → Bool) :
    (part.positions p).filterMap (fun k => kept[k]?) = (c.positions p).filter (· ∈ kept) := by
  have hsorted : ((part.positions p).filterMap fun k => kept[k]?).Pairwise (· < ·) := by
    rw [List.pairwise_filterMap]
    refine (pairwise_positions part p).imp fun {j k} hlt a ha b hb => ?_
    obtain ⟨hj, rfl⟩ := List.getElem?_eq_some_iff.mp ha
    obtain ⟨hk, rfl⟩ := List.getElem?_eq_some_iff.mp hb
    exact List.pairwise_iff_getElem.mp h.increasing j k hj hk hlt
  refine hsorted.eq_of_mem_iff ((pairwise_positions c p).filter _) fun i => ?_
  simp only [List.mem_filterMap, List.mem_filter, decide_eq_true_eq]
  constructor
  · rintro ⟨k, hk, hi⟩
    exact ⟨(h.mem_positions_iff hi).mp hk, List.mem_of_getElem? hi⟩
  · rintro ⟨hi, hkept⟩
    obtain ⟨k, hk⟩ := List.mem_iff_getElem?.mp hkept
    exact ⟨k, (h.mem_positions_iff hk).mpr hi, hk⟩

/-- Where all that a lookup finds was kept, the part finds the same. -/
theorem filterMap_positions_of_subset (h : PartAt c kept part) {p : DesignUnit → Bool}
    (hp : ∀ i ∈ c.positions p, i ∈ kept) :
    (part.positions p).filterMap (fun k => kept[k]?) = c.positions p := by
  rw [h.filterMap_positions, List.filter_eq_self]
  simpa using hp

/-- A lookup finds nothing in the part where nothing of what it finds was kept. -/
theorem positions_eq_nil_iff (h : PartAt c kept part) {p : DesignUnit → Bool} :
    part.positions p = [] ↔ ∀ i ∈ c.positions p, i ∉ kept := by
  constructor
  · intro hnone i hi hkept
    obtain ⟨k, hk⟩ := List.mem_iff_getElem?.mp hkept
    have hfound := (h.mem_positions_iff hk).mpr hi
    rw [hnone] at hfound
    cases hfound
  · intro hdropped
    rw [List.eq_nil_iff_forall_not_mem]
    intro k hk
    obtain ⟨i, hi⟩ := h.exists_origin hk
    exact hdropped i ((h.mem_positions_iff hi).mp hk) (List.mem_of_getElem? hi)

/-- An instance that keeps a target, or has none, has in the part the targets that were
kept. -/
theorem filterMap_targets_of_kept (h : PartAt c kept part) (u : DesignUnit) (inst : Instance)
    (hkept : c.targets u inst = [] ∨ ∃ i ∈ c.targets u inst, i ∈ kept) :
    (part.targets u inst).filterMap (fun k => kept[k]?) =
      (c.targets u inst).filter (· ∈ kept) := by
  simp only [targets] at hkept ⊢
  generalize searchPath u inst = path at hkept ⊢
  induction path with
  | nil => rfl
  | cons l path ih =>
    simp only [List.map_cons, List.find?_cons, architectures] at hkept ih ⊢
    cases hfound : c.positions (isArchitectureOf l inst.target.name inst.target.architecture) with
    | nil =>
      have hnone := h.positions_eq_nil_iff.mpr fun i hi => by rw [hfound] at hi; cases hi
      simp only [hfound, hnone, List.isEmpty_nil, Bool.not_true] at hkept ⊢
      exact ih hkept
    | cons i is =>
      simp only [hfound, List.isEmpty_cons, Bool.not_false, Option.getD_some, reduceCtorEq,
        false_or] at hkept ⊢
      obtain ⟨j, hj, hjkept⟩ := hkept
      have hsome : part.positions
          (isArchitectureOf l inst.target.name inst.target.architecture) ≠ [] := fun hnone =>
        h.positions_eq_nil_iff.mp hnone j (hfound ▸ hj) hjkept
      simp only [List.isEmpty_eq_false_iff.mpr hsome, Bool.not_false, Option.getD_some, ← hfound]
      exact h.filterMap_positions _

/-- An instance whose targets were all kept has the same targets in the part. -/
theorem filterMap_targets (h : PartAt c kept part) (u : DesignUnit) (inst : Instance)
    (hkept : ∀ i ∈ c.targets u inst, i ∈ kept) :
    (part.targets u inst).filterMap (fun k => kept[k]?) = c.targets u inst := by
  have hsome : c.targets u inst = [] ∨ ∃ i ∈ c.targets u inst, i ∈ kept := by
    cases htargets : c.targets u inst with
    | nil => exact Or.inl rfl
    | cons i is => exact Or.inr ⟨i, List.mem_cons_self, hkept i (htargets ▸ List.mem_cons_self)⟩
  rw [h.filterMap_targets_of_kept u inst hsome, List.filter_eq_self]
  simpa using hkept

/-- The units found are the same as well. -/
theorem unitsAt_targets (h : PartAt c kept part) (u : DesignUnit) (inst : Instance)
    (hkept : ∀ i ∈ c.targets u inst, i ∈ kept) :
    part.unitsAt (part.targets u inst) = c.unitsAt (c.targets u inst) := by
  rw [← h.filterMap_targets u inst hkept, unitsAt, unitsAt, List.filterMap_filterMap]
  refine List.filterMap_congr fun k hk => ?_
  have hlt : k < kept.length := h.length_eq ▸ lt_of_mem_targets hk
  rw [h.getElem?_units (List.getElem?_eq_getElem hlt), List.getElem?_eq_getElem hlt]
  rfl

/-- A part that keeps every position is the whole corpus. -/
theorem eq_of_range (h : PartAt c (List.range c.units.length) part) : part = c := by
  have hunits : part.units.map some = c.units.map some := by
    rw [h.map_units]
    exact List.ext_getElem (by simp) (by simp)
  exact congrArg Corpus.mk (List.map_injective_iff.mpr (Option.some_injective _) hunits)

end PartAt

/-- A closure is the part of the corpus at the needed positions. -/
theorem partAt_closure (c : Corpus) (tops : List Request) :
    PartAt c (c.neededPositions tops) (c.closure tops).1 where
  increasing := pairwise_neededPositions c tops
  map_units := by
    have hkept : ∀ x ∈ c.units.zipIdx, some x.1 = c.units[x.2]? := fun x hx =>
      (List.mk_mem_zipIdx_iff_getElem?.mp hx).symm
    simp only [closure, neededPositions, List.map_map]
    exact List.map_congr_left fun x hx => hkept x (List.mem_filter.mp hx).1

/-- The needed positions cover the requests. -/
theorem closedUnder_neededPositions (c : Corpus) (tops : List Request) :
    ClosedUnder c tops {i | i ∈ c.neededPositions tops} := by
  have hset : {i | i ∈ c.neededPositions tops} = {i | i ∈ (c.needed tops).required} :=
    Set.ext (mem_neededPositions c tops)
  exact hset ▸ (needed_isLeast c tops).2.1

/-- A closure holds the units at the needed positions. -/
theorem mem_closure {c : Corpus} {tops : List Request} {u : DesignUnit} :
    u ∈ (c.closure tops).1.units ↔ ∃ i ∈ c.neededPositions tops, c.units[i]? = some u := by
  rw [units_closure, List.mem_filterMap]

/-- The targets of an instance of a needed unit are needed. -/
theorem targets_needed {c : Corpus} {tops : List Request} {u : DesignUnit} {inst : Instance}
    (hu : u ∈ (c.closure tops).1.units) (hinst : inst ∈ u.instances) :
    ∀ j ∈ c.targets u inst, j ∈ c.neededPositions tops := by
  obtain ⟨i, hi, hu⟩ := mem_closure.mp hu
  exact (closedUnder_neededPositions c tops).instantiated i hi u hu inst hinst

/-- What the closure still needs of itself covers the requests in the whole corpus. -/
theorem closedUnder_origins (c : Corpus) (tops : List Request) :
    ClosedUnder c tops {i | ∃ k ∈ (c.closure tops).1.neededPositions tops,
      (c.neededPositions tops)[k]? = some i} := by
  have hpart := partAt_closure c tops
  obtain ⟨hrequested, hneeds⟩ := closedUnder_iff.mp (closedUnder_neededPositions c tops)
  obtain ⟨hrequested', hneeds'⟩ :=
    closedUnder_iff.mp (closedUnder_neededPositions (c.closure tops).1 tops)
  refine closedUnder_iff.mpr ⟨fun r hr i hi => ?_, ?_⟩
  · obtain ⟨k, hk⟩ := List.mem_iff_getElem?.mp (hrequested r hr i hi)
    exact ⟨k, hrequested' r hr k ((hpart.mem_positions_iff hk).mpr hi), hk⟩
  · rintro i ⟨k, hk, hi⟩ j hj
    have hkept : j ∈ c.neededPositions tops := hneeds i (List.mem_of_getElem? hi) hj
    obtain ⟨m, hm⟩ := List.mem_iff_getElem?.mp hkept
    refine ⟨m, hneeds' k hk ?_, hm⟩
    obtain ⟨u, hu, hj⟩ := hj
    have hu' : (c.closure tops).1.units[k]? = some u := (hpart.getElem?_units hi).trans hu
    refine ⟨u, hu', ?_⟩
    rcases hj with ⟨entry, hentry, name, hname, hj⟩ | ⟨inst, hinst, hj⟩
    · exact Or.inl ⟨entry, hentry, name, hname, (hpart.mem_positions_iff hm).mpr hj⟩
    · refine Or.inr ⟨inst, hinst, ?_⟩
      have htargets := targets_needed (List.mem_of_getElem? hu') hinst
      rw [← hpart.filterMap_targets u inst htargets] at hj
      obtain ⟨m', hm', horigin⟩ := List.mem_filterMap.mp hj
      exact hpart.position_unique horigin hm ▸ hm'

/-- Everything in a closure is needed inside it. -/
theorem neededPositions_closure (c : Corpus) (tops : List Request) :
    (c.closure tops).1.neededPositions tops = List.range (c.closure tops).1.units.length := by
  have hpart := partAt_closure c tops
  refine (pairwise_neededPositions _ tops).eq_of_mem_iff List.pairwise_lt_range fun k => ?_
  rw [List.mem_range]
  constructor
  · intro hk
    exact (needed_isLeast _ tops).2.2 (closedUnder_positions _ tops)
      ((mem_neededPositions _ tops k).mp hk)
  · intro hk
    have hlt : k < (c.neededPositions tops).length := hpart.length_eq ▸ hk
    have hget := List.getElem?_eq_getElem hlt
    have hrequired := (mem_neededPositions c tops _).mp (List.mem_of_getElem? hget)
    obtain ⟨m, hm, horigin⟩ := (needed_isLeast c tops).2.2 (closedUnder_origins c tops) hrequired
    exact hpart.position_unique hget horigin ▸ hm

/-- A closure is its own closure for the same requests, and each instance of one of its
units has the same targets inside it as in the whole corpus. -/
theorem closure_idempotent (c : Corpus) (tops : List Request) :
    ((c.closure tops).1.closure tops).1 = (c.closure tops).1 ∧
      ∀ u ∈ (c.closure tops).1.units, ∀ inst ∈ u.instances,
        (c.closure tops).1.unitsAt ((c.closure tops).1.targets u inst) =
          c.unitsAt (c.targets u inst) := by
  constructor
  · have hpart := partAt_closure (c.closure tops).1 tops
    rw [neededPositions_closure] at hpart
    exact hpart.eq_of_range
  · intro u hu inst hinst
    exact (partAt_closure c tops).unitsAt_targets u inst (targets_needed hu hinst)

end CompileOrder.Corpus
