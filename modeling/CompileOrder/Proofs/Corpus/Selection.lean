import CompileOrder.Corpus.Selection
import CompileOrder.Proofs.Corpus.Lookup
import CompileOrder.Proofs.Text.Order

/-!
# What selections keep

Reading the selections one after the other gathers, for each entity, exactly the architectures
that some selection chooses for it. So an architecture stays if its entity has no choices or it
is among them, in whatever order and however often the selections are given. Whether a chosen
architecture exists matters for the findings only, and is asked of the corpus before anything
is dropped.
-/

namespace CompileOrder.Corpus

/-- Whether the selection is about the entity of this architecture. -/
def concerns (r : Request) (u : DesignUnit) : Bool :=
  r.architecture.isSome && r.library == u.library && r.entity == u.name

/-- Whether the unit stays under the selections. -/
def survives (selections : List Request) (u : DesignUnit) : Bool :=
  !u.isArchitecture || !(selections.any fun r => concerns r u) ||
    selections.any fun r => concerns r u && r.architecture == u.architecture?

/-- The unit is no architecture, or no selection names an architecture of its entity, or some
selection names this one. -/
def Stays (selections : List Request) (u : DesignUnit) : Prop :=
  u.isArchitecture = false ∨ (∀ a, ⟨u.library, u.name, some a⟩ ∉ selections) ∨
    ∃ a, u.architecture? = some a ∧ ⟨u.library, u.name, some a⟩ ∈ selections

/-- A selection is about an entity if it names one of its architectures. -/
theorem concerns_iff {r : Request} {u : DesignUnit} :
    concerns r u = true ↔ ∃ a, r = ⟨u.library, u.name, some a⟩ := by
  obtain ⟨library, entity, architecture⟩ := r
  cases architecture <;> simp [concerns]

theorem survives_iff {selections : List Request} {u : DesignUnit} :
    survives selections u = true ↔ Stays selections u := by
  have hconcerned : (selections.any fun r => concerns r u) = false ↔
      ∀ a, ⟨u.library, u.name, some a⟩ ∉ selections := by
    simp only [List.any_eq_false, concerns_iff]
    constructor
    · intro h a ha
      exact h _ ha ⟨a, rfl⟩
    · rintro h _ hr ⟨a, rfl⟩
      exact h a hr
  have hchosen : (selections.any fun r => concerns r u && r.architecture == u.architecture?) =
      true ↔ ∃ a, u.architecture? = some a ∧ ⟨u.library, u.name, some a⟩ ∈ selections := by
    simp only [List.any_eq_true, Bool.and_eq_true, concerns_iff, beq_iff_eq]
    constructor
    · rintro ⟨_, hr, ⟨a, rfl⟩, ha⟩
      exact ⟨a, ha.symm, hr⟩
    · rintro ⟨a, ha, hr⟩
      exact ⟨_, hr, ⟨a, rfl⟩, ha.symm⟩
  rw [survives, Bool.or_eq_true, Bool.or_eq_true, Bool.not_eq_true', Bool.not_eq_true',
    hconcerned, hchosen, or_assoc, Stays]

instance (selections : List Request) (u : DesignUnit) : Decidable (Stays selections u) :=
  decidable_of_iff _ survives_iff

/-- What has to be told about a selection: that it names no architecture, or one that the corpus
does not have. -/
def selectionFinding? (c : Corpus) (r : Request) : Option Diagnostic :=
  if r.architecture = none then some (.selectsNothing r)
  else if ∃ u ∈ c.units, u.library = r.library ∧ u.name = r.entity ∧
    u.architecture? = r.architecture then none
  else some (.topNotFound r)

/-- A choice adds one architecture to those of its entity and leaves other entities alone. -/
theorem Choices.lookup_add (choices : Choices) (entity key : String × String) (a : String) :
    (choices.add entity a).lookup key =
      if key = entity then
        some (Text.insertSorted Text.precedes a ((choices.lookup entity).getD []))
      else choices.lookup key := by
  induction choices with
  | nil =>
    rw [add, List.lookup_cons, List.lookup_nil, List.lookup_nil]
    by_cases hkey : key = entity
    · simp [hkey, Text.insertSorted]
    · have hne : (key == entity) = false := beq_eq_false_iff_ne.mpr hkey
      simp [hkey, hne]
  | cons entry rest ih =>
    obtain ⟨named, chosen⟩ := entry
    rw [add]
    by_cases hnamed : named = entity
    · subst hnamed
      rw [if_pos (beq_self_eq_true named)]
      by_cases hkey : key = named
      · simp [hkey]
      · have hne : (key == named) = false := beq_eq_false_iff_ne.mpr hkey
        simp [List.lookup_cons, hkey, hne]
    · have hentity : (entity == named) = false := beq_eq_false_iff_ne.mpr fun h => hnamed h.symm
      rw [if_neg (by simpa using hnamed)]
      by_cases hkey : key = named
      · subst hkey
        simp [hnamed]
      · have hne : (key == named) = false := beq_eq_false_iff_ne.mpr hkey
        simp only [List.lookup_cons, hne, hentity]
        exact ih

/-- The choices are those that the selections make. -/
structure Gathered (selections : List Request) (choices : Choices) : Prop where
  /-- The architectures of an entity are those that a selection names. -/
  mem_chosen : ∀ key a, a ∈ (choices.lookup key).getD [] ↔ ⟨key.1, key.2, some a⟩ ∈ selections
  /-- An entity stands among the choices only if an architecture of it is chosen. -/
  ne_nil : ∀ key chosen, choices.lookup key = some chosen → chosen ≠ []

namespace Gathered

variable {selections : List Request} {choices : Choices}

/-- Before any selection there are no choices. -/
theorem nil : Gathered [] [] := ⟨fun _ _ => by simp, nofun⟩

/-- A selection without an architecture chooses nothing. -/
theorem keep (h : Gathered selections choices) {r : Request} (hr : r.architecture = none) :
    Gathered (selections ++ [r]) choices := by
  refine ⟨fun key a => ?_, h.ne_nil⟩
  have hne : (⟨key.1, key.2, some a⟩ : Request) ≠ r := by
    rintro rfl
    cases hr
  rw [h.mem_chosen, List.mem_append, List.mem_singleton, or_iff_left hne]

/-- A selection with one chooses just this one. -/
theorem add (h : Gathered selections choices) (library entity a : String) :
    Gathered (selections ++ [⟨library, entity, some a⟩]) (choices.add (library, entity) a) := by
  refine ⟨fun key b => ?_, fun key chosen hchosen => ?_⟩
  · rw [Choices.lookup_add, List.mem_append, List.mem_singleton]
    by_cases hkey : key = (library, entity)
    · subst hkey
      rw [if_pos rfl, Option.getD_some, Text.mem_insertSorted, h.mem_chosen, or_comm]
      simp
    · have hne : (⟨key.1, key.2, some b⟩ : Request) ≠ ⟨library, entity, some a⟩ := by
        intro heq
        injection heq with hlibrary hentity
        exact hkey (Prod.ext hlibrary hentity)
      rw [if_neg hkey, h.mem_chosen, or_iff_left hne]
  · rw [Choices.lookup_add] at hchosen
    split at hchosen
    · obtain rfl := Option.some.inj hchosen
      exact List.ne_nil_of_mem ((Text.mem_insertSorted ..).mpr (Or.inl rfl))
    · exact h.ne_nil key chosen hchosen

/-- One more selection is read. -/
theorem read {s : Selecting} (h : Gathered selections s.choices) (c : Corpus) (r : Request) :
    Gathered (selections ++ [r]) (s.read c r).choices := by
  obtain ⟨library, entity, architecture⟩ := r
  cases architecture with
  | none => exact h.keep rfl
  | some a =>
    have hread : (s.read c ⟨library, entity, some a⟩).choices =
        s.choices.add (library, entity) a := by
      simp only [Selecting.read]
      split <;> rfl
    rw [hread]
    exact h.add library entity a

/-- More selections are read. -/
theorem foldl_read {s : Selecting} (h : Gathered selections s.choices) (c : Corpus)
    (more : List Request) :
    Gathered (selections ++ more) (more.foldl (Selecting.read c) s).choices := by
  induction more generalizing selections s with
  | nil => rwa [List.append_nil]
  | cons r more ih =>
    rw [List.foldl_cons, List.append_cons]
    exact ih (h.read c r)

/-- The choices keep the units that stay. -/
theorem keeps_iff (h : Gathered selections choices) (u : DesignUnit) :
    choices.keeps u = true ↔ Stays selections u := by
  rw [Choices.keeps]
  cases hu : u.architecture? with
  | none =>
    have hkind : u.isArchitecture = false := by simp [DesignUnit.isArchitecture, hu]
    exact iff_of_true rfl (Or.inl hkind)
  | some a =>
    have hkind : u.isArchitecture ≠ false := by simp [DesignUnit.isArchitecture, hu]
    rw [Stays, or_iff_right hkind]
    cases hlookup : choices.lookup (u.library, u.name) with
    | none =>
      refine iff_of_true rfl (Or.inl fun b hb => ?_)
      have hmem := (h.mem_chosen (u.library, u.name) b).mpr hb
      rw [hlookup] at hmem
      cases hmem
    | some chosen =>
      have hchosen : ∀ b, b ∈ chosen ↔ ⟨u.library, u.name, some b⟩ ∈ selections := by
        intro b
        rw [← h.mem_chosen (u.library, u.name) b, hlookup, Option.getD_some]
      obtain ⟨b, hb⟩ := List.exists_mem_of_ne_nil chosen (h.ne_nil _ _ hlookup)
      have hnamed : ¬ ∀ a, ⟨u.library, u.name, some a⟩ ∉ selections := fun hnone =>
        hnone b ((hchosen b).mp hb)
      rw [or_iff_right hnamed]
      simp [hchosen, hu]

end Gathered

/-- An architecture that a selection names is found if the corpus has it. -/
theorem candidates_eq_nil_iff {c : Corpus} {r : Request} {a : String}
    (hr : r.architecture = some a) :
    c.candidates r = [] ↔ ¬ ∃ u ∈ c.units, u.library = r.library ∧ u.name = r.entity ∧
      u.architecture? = r.architecture := by
  rw [candidates, architectures, positions_eq_nil_iff_forall]
  simp only [← Bool.not_eq_true, isArchitectureOf_iff, hr, not_exists, not_and]
  constructor
  · intro h u hu hlibrary hname ha
    exact h u hu a ha hlibrary hname fun b hb => Option.some.inj hb
  · intro h u hu b hb hlibrary hname hchosen
    exact h u hu hlibrary hname (hchosen a rfl ▸ hb)

theorem findings_read (c : Corpus) (s : Selecting) (r : Request) :
    (s.read c r).findings = s.findings ++ (c.selectionFinding? r).toList := by
  rw [Selecting.read, selectionFinding?]
  cases hr : r.architecture with
  | none => rfl
  | some a =>
    have hfound := candidates_eq_nil_iff (c := c) hr
    rw [hr] at hfound
    simp only [reduceCtorEq, if_false, List.isEmpty_iff, hfound]
    by_cases hpresent : ∃ u ∈ c.units, u.library = r.library ∧ u.name = r.entity ∧
        u.architecture? = some a
    · rw [if_neg (not_not.mpr hpresent), if_pos hpresent]
      exact (List.append_nil _).symm
    · rw [if_pos hpresent, if_neg hpresent]
      rfl

theorem findings_foldl_read (c : Corpus) (s : Selecting) (selections : List Request) :
    (selections.foldl (Selecting.read c) s).findings =
      s.findings ++ selections.filterMap c.selectionFinding? := by
  induction selections generalizing s with
  | nil => exact (List.append_nil _).symm
  | cons r selections ih =>
    rw [List.foldl_cons, ih, findings_read, List.append_assoc, List.filterMap_cons]
    cases c.selectionFinding? r <;> rfl

/-- What a selection leaves are the units that survive it. -/
theorem select_eq (c : Corpus) (selections : List Request) :
    (c.select selections).1 = ⟨c.units.filter (survives selections)⟩ := by
  have hgathered := Gathered.nil.foldl_read (s := {}) c selections
  rw [List.nil_append] at hgathered
  refine congrArg Corpus.mk (List.filter_congr fun u _ => ?_)
  rw [Bool.eq_iff_iff, hgathered.keeps_iff, survives_iff]

/-- What stays does not depend on the order of the selections, nor on repetitions. -/
theorem survives_congr {selections others : List Request}
    (h : ∀ r, r ∈ others ↔ r ∈ selections) (u : DesignUnit) :
    survives others u = survives selections u := by
  rw [Bool.eq_iff_iff, survives_iff, survives_iff]
  simp only [Stays, h]

/-- A selection keeps, in order, exactly the units that are no architectures, whose entity no
selection with an architecture names, or which some selection names; the same for every list of
the same selections, and nothing more is dropped when it is made again. It tells, in the order
of the selections, of each one that names no architecture or names one that the corpus did not
have before. -/
theorem select_exact (c : Corpus) (selections : List Request) :
    (c.select selections).1.units = c.units.filter (fun u => Stays selections u) ∧
      (∀ others, (∀ r, r ∈ others ↔ r ∈ selections) →
        (c.select others).1 = (c.select selections).1) ∧
      ((c.select selections).1.select selections).1 = (c.select selections).1 ∧
      (c.select selections).2 = selections.filterMap c.selectionFinding? := by
  refine ⟨?_, fun others hsame => ?_, ?_, ?_⟩
  · rw [select_eq]
    apply List.filter_congr
    intro u _
    rw [Bool.eq_iff_iff, survives_iff, decide_eq_true_iff]
  · rw [select_eq, select_eq, funext (survives_congr hsame)]
  · simp only [select_eq, List.filter_filter, Bool.and_self]
  · rw [select, findings_foldl_read]
    rfl

namespace Chosen

/-- An entity. -/
def core : DesignUnit := .declare .entity "CORE" "WORK" "core.vhd" 1 [] []

/-- One of its architectures. -/
def fast : DesignUnit := .declare (.architecture "FAST" []) "CORE" "WORK" "core.vhd" 4 [] []

/-- Another one. -/
def slow : DesignUnit := .declare (.architecture "SLOW" []) "CORE" "WORK" "core.vhd" 8 [] []

/-- The architecture of an entity that no selection names. -/
def top : DesignUnit := .declare (.architecture "RTL" []) "TOP" "WORK" "top.vhd" 1 [] []

/-- All of them. -/
def corpus : Corpus := ⟨[core, fast, slow, top]⟩

/-- One architecture is chosen, one that does not exist, and one selection names none. -/
def selections : List Request :=
  [⟨"WORK", "CORE", some "FAST"⟩, ⟨"WORK", "CORE", none⟩, ⟨"WORK", "CORE", some "LOST"⟩]

/-- The same selections in another order, each of them twice. -/
def others : List Request := selections.reverse ++ selections

/-- Both choices concern the entity, so its other architecture goes. -/
theorem slow_dropped :
    (∀ r, r ∈ others ↔ r ∈ selections) ∧
      (corpus.select others).1.units = [core, fast, top] ∧
      (corpus.select selections).2 =
        [.selectsNothing ⟨"WORK", "CORE", none⟩, .topNotFound ⟨"WORK", "CORE", some "LOST"⟩] := by
  have hsame : ∀ r, r ∈ others ↔ r ∈ selections := by simp [others]
  obtain ⟨hunits, hcongr, -, hfindings⟩ := select_exact corpus selections
  refine ⟨hsame, ?_, hfindings.trans (by decide +kernel)⟩
  rw [hcongr others hsame, hunits]
  decide +kernel

end Chosen

end CompileOrder.Corpus
