import CompileOrder.Proofs.Corpus.Restriction
import CompileOrder.Proofs.Corpus.Selection

/-!
# Closures after a selection

A selection drops architectures and leaves everything else in place, so a unit needs after
it what it needed before, less what was dropped, with one exception: an instance that names
no library and loses all its targets is looked for in the libraries that come later, and may
be redirected to architectures that nothing needed before. These redirections are all that
can keep the closure of what is left from being part of the closure of the whole corpus.
-/

namespace CompileOrder.Corpus

variable {c : Corpus} {selections tops : List Request} {u v : DesignUnit} {inst : Instance}

/-- The selections redirect an instance of `u`: all its targets are dropped, and what is left
still has targets for it. -/
def Redirects (c : Corpus) (selections : List Request) (u : DesignUnit) (inst : Instance) : Prop :=
  c.targets u inst ≠ [] ∧
    (∀ v ∈ c.unitsAt (c.targets u inst), survives selections v = false) ∧
    (c.select selections).1.targets u inst ≠ []

instance : Decidable (c.Redirects selections u inst) :=
  inferInstanceAs (Decidable (_ ∧ _ ∧ _))

/-- The units with a property are the part of the corpus at their positions. -/
theorem partAt_filter (c : Corpus) (p : DesignUnit → Bool) :
    PartAt c (c.positions p) ⟨c.units.filter p⟩ where
  increasing := pairwise_positions c p
  map_units := by
    have hunits : c.units.filter p = (c.units.zipIdx.filter fun x => p x.1).map (·.1) := by
      rw [← Function.comp_def p, ← List.filter_map, List.zipIdx_map_fst]
    have hget : ∀ x ∈ c.units.zipIdx.filter fun x => p x.1, some x.1 = c.units[x.2]? := fun x hx =>
      (List.mk_mem_zipIdx_iff_getElem?.mp (List.mem_filter.mp hx).1).symm
    rw [hunits, positions, List.map_map, List.map_map]
    exact List.map_congr_left hget

/-- What is left after a selection is the part of the corpus where units survive. -/
theorem partAt_select (c : Corpus) (selections : List Request) :
    PartAt c (c.positions (survives selections)) (c.select selections).1 := by
  rw [select_eq]
  exact partAt_filter c (survives selections)

/-- Everything a unit of a closure needs is in the closure. -/
theorem unitNeeds_needed (hu : u ∈ (c.closure tops).1.units) :
    ∀ i ∈ c.unitNeeds u, i ∈ c.neededPositions tops := by
  obtain ⟨j, hj, hu⟩ := mem_closure.mp hu
  exact fun i hi => (closedUnder_iff.mp (closedUnder_neededPositions c tops)).2 j hj ⟨u, hu, hi⟩

/-- No target is kept where all of them are dropped. -/
theorem not_mem_survivors
    (hdropped : ∀ v ∈ c.unitsAt (c.targets u inst), survives selections v = false) :
    ∀ i ∈ c.targets u inst, i ∉ c.positions (survives selections) := by
  intro i hi hkept
  obtain ⟨v, hv, hsurvives⟩ := mem_positions.mp hkept
  have hmem : v ∈ c.unitsAt (c.targets u inst) := List.mem_filterMap.mpr ⟨i, hi, hv⟩
  rw [hdropped v hmem] at hsurvives
  cases hsurvives

/-- Only an instance that names no library can be redirected. -/
theorem Redirects.library_eq_none (h : c.Redirects selections u inst) : inst.library = none := by
  obtain ⟨-, hdropped, hleft⟩ := h
  cases hlibrary : inst.library with
  | none => rfl
  | some l =>
    have htargets : ∀ c : Corpus, c.targets u inst =
        c.positions (isArchitectureOf l inst.target.name inst.target.architecture) := by
      intro c
      simp only [targets, searchPath, hlibrary, List.map_cons, List.map_nil, List.find?_cons,
        List.find?_nil, architectures]
      cases c.positions (isArchitectureOf l inst.target.name inst.target.architecture) <;> rfl
    refine absurd ?_ hleft
    rw [htargets, (partAt_select c selections).positions_eq_nil_iff, ← htargets]
    exact not_mem_survivors hdropped

/-- An instance that is not redirected has only targets that it had before the selection. -/
theorem mem_targets_of_not_redirects (h : ¬ c.Redirects selections u inst) {k : Nat}
    (hk : k ∈ (c.select selections).1.targets u inst) :
    ∃ i ∈ c.targets u inst, (c.positions (survives selections))[k]? = some i := by
  have hpart := partAt_select c selections
  have hkept : c.targets u inst = [] ∨
      ∃ i ∈ c.targets u inst, i ∈ c.positions (survives selections) := by
    by_contra hnone
    rw [not_or, not_exists] at hnone
    refine h ⟨hnone.1, fun v hv => ?_, List.ne_nil_of_mem hk⟩
    obtain ⟨i, hi, hv⟩ := List.mem_filterMap.mp hv
    have hdropped : i ∉ c.positions (survives selections) := fun hkept => hnone.2 i ⟨hi, hkept⟩
    rw [mem_positions] at hdropped
    simpa using fun hsurvives => hdropped ⟨v, hv, hsurvives⟩
  have hlt : k < (c.positions (survives selections)).length :=
    hpart.length_eq ▸ lt_of_mem_targets hk
  have horigin := List.getElem?_eq_getElem hlt
  refine ⟨_, ?_, horigin⟩
  have hmem := List.mem_filterMap.mpr ⟨k, hk, horigin⟩
  rw [hpart.filterMap_targets_of_kept u inst hkept] at hmem
  exact (List.mem_filter.mp hmem).1

/-- Every instance that the selections redirect, of a unit in both closures, is redirected to
units that the whole corpus needs anyway. -/
def RedirectsWithin (c : Corpus) (selections tops : List Request) : Prop :=
  ∀ u ∈ ((c.select selections).1.closure tops).1.units, u ∈ (c.closure tops).1.units →
    ∀ inst ∈ u.instances, inst.library = none → c.Redirects selections u inst →
      ∀ v ∈ (c.select selections).1.unitsAt ((c.select selections).1.targets u inst),
        v ∈ (c.closure tops).1.units

/-- The positions in what is left of the units that both closures hold. -/
def sharedPositions (c : Corpus) (selections tops : List Request) : Set Nat :=
  {k | k ∈ (c.select selections).1.neededPositions tops ∧
    ∃ v, (c.select selections).1.units[k]? = some v ∧ v ∈ (c.closure tops).1.units}

/-- A unit that is left and was needed before is in the closure of the whole corpus. -/
theorem exists_unit_of_needed {i k : Nat} (hi : (c.positions (survives selections))[k]? = some i)
    (hneeded : i ∈ c.neededPositions tops) :
    ∃ v, (c.select selections).1.units[k]? = some v ∧ v ∈ (c.closure tops).1.units := by
  obtain ⟨v, hv, -⟩ := mem_positions.mp (List.mem_of_getElem? hi)
  exact ⟨v, ((partAt_select c selections).getElem?_units hi).trans hv,
    mem_closure.mpr ⟨i, hneeded, hv⟩⟩

/-- The units of both closures cover the requests in what is left. -/
theorem closedUnder_sharedPositions (hwithin : c.RedirectsWithin selections tops) :
    ClosedUnder (c.select selections).1 tops (c.sharedPositions selections tops) := by
  have hpart := partAt_select c selections
  obtain ⟨hrequested, hneeds⟩ :=
    closedUnder_iff.mp (closedUnder_neededPositions (c.select selections).1 tops)
  refine closedUnder_iff.mpr ⟨fun r hr k hk => ⟨hrequested r hr k hk, ?_⟩, ?_⟩
  · obtain ⟨i, hi⟩ := hpart.exists_origin hk
    have hcandidate : i ∈ c.candidates r := (hpart.mem_positions_iff hi).mp hk
    exact exists_unit_of_needed hi
      ((closedUnder_iff.mp (closedUnder_neededPositions c tops)).1 r hr i hcandidate)
  · rintro j ⟨hj, u, hu, hboth⟩ k hk
    refine ⟨hneeds j hj hk, ?_⟩
    obtain ⟨u', hu', hk⟩ := hk
    obtain rfl : u = u' := Option.some.inj (hu.symm.trans hu')
    rcases hk with ⟨entry, hentry, name, hname, hk⟩ | ⟨inst, hinst, hk⟩
    · obtain ⟨i, hi⟩ := hpart.exists_origin hk
      have hnamed : i ∈ c.named entry.1 name := (hpart.mem_positions_iff hi).mp hk
      exact exists_unit_of_needed hi
        (unitNeeds_needed hboth i (Or.inl ⟨entry, hentry, name, hname, hnamed⟩))
    · by_cases hredirects : c.Redirects selections u inst
      · have hget := List.getElem?_eq_getElem (lt_of_mem_targets hk)
        exact ⟨_, hget, hwithin u (mem_closure.mpr ⟨j, hj, hu⟩) hboth inst hinst
          hredirects.library_eq_none hredirects _ (List.mem_filterMap.mpr ⟨k, hk, hget⟩)⟩
      · obtain ⟨i, hi, horigin⟩ := mem_targets_of_not_redirects hredirects hk
        exact exists_unit_of_needed horigin
          (unitNeeds_needed hboth i (Or.inr ⟨inst, hinst, hi⟩))

/-- The closure of what a selection leaves is part of the closure of the whole corpus exactly
if every redirected instance of a unit in both is redirected to units needed anyway; where no
instance is redirected it always is. -/
theorem closure_select_subset_iff (c : Corpus) (selections tops : List Request) :
    (∀ v ∈ ((c.select selections).1.closure tops).1.units, v ∈ (c.closure tops).1.units) ↔
      c.RedirectsWithin selections tops := by
  constructor
  · intro hsub u hu _ inst hinst _ _ v hv
    obtain ⟨k, hk, hv⟩ := List.mem_filterMap.mp hv
    exact hsub v (mem_closure.mpr ⟨k, targets_needed hu hinst k hk, hv⟩)
  · intro hwithin v hv
    obtain ⟨k, hk, hv⟩ := mem_closure.mp hv
    have hleast := (needed_isLeast (c.select selections).1 tops).2.2
      (closedUnder_sharedPositions hwithin)
    obtain ⟨-, w, hw, hmem⟩ := hleast ((mem_neededPositions _ tops k).mp hk)
    obtain rfl : v = w := Option.some.inj (hv.symm.trans hw)
    exact hmem

namespace Redirected

/-- An architecture with an instance of one architecture of another entity. -/
def top : DesignUnit :=
  .declare (.architecture "RTL" [⟨"U", none, .entity "CORE" (some "FAST")⟩]) "TOP" "WORK"
    "top.vhd" 1 ["UTIL"] []

/-- The architecture that the instance names. -/
def fast : DesignUnit := .declare (.architecture "FAST" []) "CORE" "WORK" "core.vhd" 1 [] []

/-- Another architecture of its entity. -/
def slow : DesignUnit := .declare (.architecture "SLOW" []) "CORE" "WORK" "core.vhd" 4 [] []

/-- The architecture of the same names in another library. -/
def foreign : DesignUnit := .declare (.architecture "FAST" []) "CORE" "UTIL" "util.vhd" 1 [] []

/-- All of them. -/
def corpus : Corpus := ⟨[top, fast, slow, foreign]⟩

/-- The selection of the architecture that the instance does not name. -/
def choice : List Request := [⟨"WORK", "CORE", some "SLOW"⟩]

/-- The request for the architecture with the instance. -/
def requests : List Request := [⟨"WORK", "TOP", none⟩]

/-- The selection pulls in the architecture of the other library, which was not needed before. -/
theorem foreign_pulled_in :
    foreign ∈ ((corpus.select choice).1.closure requests).1.units ∧
      foreign ∉ (corpus.closure requests).1.units := by
  decide +kernel

end Redirected

end CompileOrder.Corpus
