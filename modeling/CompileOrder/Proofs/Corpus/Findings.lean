import CompileOrder.Proofs.Corpus.Closure

/-!
# What the search for a closure tells

The requests are reported on one after another. After that every needed unit is visited once,
and each visit reports what its unit uses or instantiates and the corpus does not hold. A
library without units, or a name without a unit, is reported by the first visit that comes
across it and marked; so whatever the order of the visits, each is reported once. An instance
is reported wherever it stands. What was told before the search stays in front of all this.
-/

namespace CompileOrder

namespace Diagnostic

/-- The library that is reported to have no units. -/
def unknownLibrary? : Diagnostic → Option String
  | .unknownLibrary _ library => some library
  | _ => none

/-- The library and the name that is reported to stand for no unit of it. -/
def unresolvedUse? : Diagnostic → Option (String × String)
  | .unresolvedUse _ library name => some (library, name)
  | _ => none

/-- The instance that is reported to have no target, with its unit. -/
def missingInstance? : Diagnostic → Option (DesignUnit × Instance)
  | .instanceNotFound unit missing => some (unit, missing)
  | _ => none

end Diagnostic

namespace Corpus

/-- The names of the architectures that a request stands for, in corpus order. -/
def matching (c : Corpus) (r : Request) : List String :=
  c.units.filterMap fun u =>
    if u.library = r.library ∧ u.name = r.entity then
      u.architecture?.filter fun a => r.architecture.all fun b => a == b
    else none

/-- What has to be told about a request. -/
def requestFindings (c : Corpus) (r : Request) : List Diagnostic :=
  if c.matching r = [] then [.topNotFound r]
  else if r.architecture = none ∧ 1 < (c.matching r).length then [.conflict r (c.matching r)]
  else []

/-- The instances of a unit that have no target, with the unit. -/
def unmet (c : Corpus) (u : DesignUnit) : List (DesignUnit × Instance) :=
  (u.instances.filter fun i => c.targets u i = []).map fun i => (u, i)

/-- The findings tell all that some units use and instantiate and the corpus does not hold, and
nothing else. -/
structure TellsNeeds (c : Corpus) (units : List DesignUnit) (told : List Diagnostic) : Prop where
  /-- A library is told of by a unit that uses it, a name by a unit that uses that; apart from
  these only instances are told of. -/
  told_by : ∀ d ∈ told,
    (∃ u ∈ units, ∃ library names, (library, names) ∈ u.uses ∧ d = .unknownLibrary u library) ∨
    (∃ u ∈ units, ∃ library names, ∃ name ∈ names, (library, names) ∈ u.uses ∧
      d = .unresolvedUse u library name) ∨ ∃ u i, d = .instanceNotFound u i
  /-- No library is told of twice. -/
  libraries_nodup : (told.filterMap Diagnostic.unknownLibrary?).Nodup
  /-- The libraries told of are those that are used and own no unit. -/
  mem_libraries : ∀ library, library ∈ told.filterMap Diagnostic.unknownLibrary? ↔
    (∃ u ∈ units, ∃ names, (library, names) ∈ u.uses) ∧ ∀ v ∈ c.units, v.library ≠ library
  /-- No name of a library is told of twice. -/
  uses_nodup : (told.filterMap Diagnostic.unresolvedUse?).Nodup
  /-- The names told of are those that are used from a library with units and stand for no unit
  other than architectures. -/
  mem_uses : ∀ library name, (library, name) ∈ told.filterMap Diagnostic.unresolvedUse? ↔
    (∃ u ∈ units, ∃ names, (library, names) ∈ u.uses ∧ name ∈ names) ∧
      (∃ v ∈ c.units, v.library = library) ∧
      ∀ v ∈ c.units, v.library = library → v.name = name → v.isArchitecture = true
  /-- Each occurrence of an instance without targets is told of once. -/
  instances : (told.filterMap Diagnostic.missingInstance?).Perm (units.flatMap c.unmet)

variable {c : Corpus}

/-- The candidates of a request are the architectures that it stands for. -/
theorem map_architecture_candidates (c : Corpus) (r : Request) :
    (c.unitsAt (c.candidates r)).map DesignUnit.architecture? = (c.matching r).map some := by
  rw [candidates, architectures, unitsAt_positions, matching]
  induction c.units with
  | nil => rfl
  | cons u us ih =>
    rw [List.filter_cons, List.filterMap_cons]
    cases ha : u.architecture? with
    | none => simpa [isArchitectureOf, ha] using ih
    | some a =>
      by_cases hname : u.library = r.library ∧ u.name = r.entity
      · cases hchoice : r.architecture.all fun b => a == b with
        | true => simp [isArchitectureOf, Option.filter, ha, hname, hchoice, ih]
        | false => simp [isArchitectureOf, Option.filter, ha, hname, hchoice, ih]
      · have hnot : isArchitectureOf r.library r.entity r.architecture u = false := by
          rw [not_and_or] at hname
          rcases hname with hlibrary | hname <;> simp [isArchitectureOf, *]
        simp [hnot, hname, ih]

namespace Worklist

variable {s s' : Worklist}

@[simp] theorem unknown_require (s : Worklist) (i : Nat) :
    (s.require i).unknown = s.unknown := by
  rw [require]
  split <;> rfl

@[simp] theorem findings_require (s : Worklist) (i : Nat) :
    (s.require i).findings = s.findings := by
  rw [require]
  split <;> rfl

/-- Units that become required are not told of. -/
theorem told_foldl_require (s : Worklist) (found : List Nat) :
    (found.foldl require s).reached = s.reached ∧ (found.foldl require s).unknown = s.unknown ∧
      (found.foldl require s).findings = s.findings := by
  induction found generalizing s with
  | nil => exact ⟨rfl, rfl, rfl⟩
  | cons i found ih => simpa using ih (s.require i)

/-- What was to be told if nothing is found is told just then. -/
theorem told_requireOr (s : Worklist) (d : Diagnostic) (found : List Nat) :
    (s.requireOr d found).reached = s.reached ∧ (s.requireOr d found).unknown = s.unknown ∧
      (s.requireOr d found).findings = s.findings ++ if found = [] then [d] else [] := by
  cases found with
  | nil => exact ⟨rfl, rfl, rfl⟩
  | cons i found => simpa [requireOr] using told_foldl_require s (i :: found)

/-- A request is told of as it has to be. -/
theorem told_addTop (c : Corpus) (s : Worklist) (r : Request) :
    (addTop c s r).reached = s.reached ∧ (addTop c s r).unknown = s.unknown ∧
      (addTop c s r).findings = s.findings ++ c.requestFindings r := by
  have hnames := map_architecture_candidates c r
  have hlisted : (c.unitsAt (c.candidates r)).filterMap DesignUnit.architecture? =
      c.matching r := by
    have hjoined := congrArg (List.filterMap id) hnames
    simpa [List.filterMap_map, Function.comp_def] using hjoined
  have hlength : (c.candidates r).length = (c.matching r).length := by
    have hunits := congrArg List.length hnames
    rwa [List.length_map, List.length_map, candidates, architectures, unitsAt_positions,
      ← List.countP_eq_length_filter, ← length_positions] at hunits
  rw [addTop]
  split
  · rename_i hconflict
    obtain ⟨hnone, hmany⟩ : r.architecture = none ∧ 1 < (c.matching r).length := by
      simpa [hlength] using hconflict
    have hsome : c.matching r ≠ [] := List.ne_nil_of_length_pos (by omega)
    have htold := told_foldl_require
      (s.report (.conflict r ((c.unitsAt (c.candidates r)).filterMap DesignUnit.architecture?)))
      (c.candidates r)
    simpa [report, hlisted, requestFindings, hsome, hnone, hmany] using htold
  · rename_i hclear
    have hsingle : ¬ (r.architecture = none ∧ 1 < (c.matching r).length) := by
      simpa [hlength] using hclear
    have hnil : c.candidates r = [] ↔ c.matching r = [] := by
      rw [← List.length_eq_zero_iff, hlength, List.length_eq_zero_iff]
    have htold := told_requireOr s (.topNotFound r) (c.candidates r)
    simpa [requestFindings, hnil, hsingle] using htold

/-- The requests are told of one after another. -/
theorem told_addTops (c : Corpus) (tops : List Request) (s : Worklist) :
    (tops.foldl (addTop c) s).reached = s.reached ∧
      (tops.foldl (addTop c) s).unknown = s.unknown ∧
      (tops.foldl (addTop c) s).findings = s.findings ++ tops.flatMap c.requestFindings := by
  induction tops generalizing s with
  | nil => simp
  | cons r tops ih =>
    obtain ⟨hreached, hunknown, hfindings⟩ := told_addTop c s r
    simpa [hreached, hunknown, hfindings] using ih (addTop c s r)

/-- A use that a visit looks at: its unit, the library, and the name if the library has units. -/
abbrev Lookup := DesignUnit × String × Option String

/-- What a visit looks up for one entry of a use table. -/
def entryLookups (c : Corpus) (u : DesignUnit) (entry : String × List String) : List Lookup :=
  if c.hasLibrary entry.1 then entry.2.map fun name => (u, entry.1, some name)
  else [(u, entry.1, none)]

/-- What a visit looks up. -/
def lookups (c : Corpus) (u : DesignUnit) : List Lookup :=
  u.uses.entries.flatMap (entryLookups c u)

/-- What is told and marked after some lookups, with some instances found to have no target. -/
structure Tells (c : Corpus) (looked : List Lookup) (unmet : List (DesignUnit × Instance))
    (s : Worklist) : Prop where
  /-- No library is marked twice. -/
  nodup_unknown : s.unknown.Nodup
  /-- The libraries marked are those looked up that have no units. -/
  mem_unknown : ∀ library, library ∈ s.unknown ↔ ∃ u, (u, library, none) ∈ looked
  /-- No name is marked twice. -/
  nodup_reached : s.reached.Nodup
  /-- The names marked are those looked up in libraries with units. -/
  mem_reached : ∀ library name,
    (library, name) ∈ s.reached ↔ ∃ u, (u, library, some name) ∈ looked
  /-- The libraries marked are told of. -/
  libraries : s.findings.filterMap Diagnostic.unknownLibrary? = s.unknown.reverse
  /-- The names marked are told of if they stand for no unit. -/
  uses : s.findings.filterMap Diagnostic.unresolvedUse? =
    (s.reached.filter fun p => c.named p.1 p.2 = []).reverse
  /-- The instances without targets are told of. -/
  instances : s.findings.filterMap Diagnostic.missingInstance? = unmet
  /-- Each finding comes from a lookup, or is about an instance. -/
  told_by : ∀ d ∈ s.findings,
    (∃ u library, (u, library, none) ∈ looked ∧ d = .unknownLibrary u library) ∨
    (∃ u library name, (u, library, some name) ∈ looked ∧ d = .unresolvedUse u library name) ∨
    ∃ u i, d = .instanceNotFound u i

theorem flatMap_nothing {α β : Type} (xs : List α) : xs.flatMap (fun _ => ([] : List β)) = [] :=
  List.flatMap_eq_nil_iff.mpr fun _ _ => rfl

namespace Tells

variable {looked : List Lookup} {unmet : List (DesignUnit × Instance)}

/-- Required and queued units do not matter. -/
theorem of_eq (h : Tells c looked unmet s) (hreached : s'.reached = s.reached)
    (hunknown : s'.unknown = s.unknown) (hfindings : s'.findings = s.findings) :
    Tells c looked unmet s' where
  nodup_unknown := hunknown ▸ h.nodup_unknown
  mem_unknown := hunknown ▸ h.mem_unknown
  nodup_reached := hreached ▸ h.nodup_reached
  mem_reached := hreached ▸ h.mem_reached
  libraries := by rw [hfindings, hunknown, h.libraries]
  uses := by rw [hfindings, hreached, h.uses]
  instances := hfindings ▸ h.instances
  told_by := hfindings ▸ h.told_by

/-- A finding stays justified by more lookups. -/
theorem told_by_append (h : Tells c looked unmet s) (more : List Lookup) {d : Diagnostic}
    (hd : d ∈ s.findings) :
    (∃ u library, (u, library, none) ∈ looked ++ more ∧ d = .unknownLibrary u library) ∨
    (∃ u library name, (u, library, some name) ∈ looked ++ more ∧
      d = .unresolvedUse u library name) ∨ ∃ u i, d = .instanceNotFound u i := by
  rcases h.told_by d hd with ⟨u, library, hlooked, rfl⟩ | ⟨u, library, name, hlooked, rfl⟩ | hother
  · exact Or.inl ⟨u, library, List.mem_append_left more hlooked, rfl⟩
  · exact Or.inr (Or.inl ⟨u, library, name, List.mem_append_left more hlooked, rfl⟩)
  · exact Or.inr (Or.inr hother)

/-- Before the first visit nothing is told of. -/
theorem nothing (hreached : s.reached = []) (hunknown : s.unknown = [])
    (hfindings : s.findings = []) : Tells c [] [] s := by
  have hempty : Tells c [] [] {} := by constructor <;> simp
  exact hempty.of_eq hreached hunknown hfindings

/-- A name is told of when it is looked up for the first time. -/
theorem addName (h : Tells c looked unmet s) (u : DesignUnit) (library name : String) :
    Tells c (looked ++ [(u, library, some name)]) unmet (addName c u library s name) := by
  have hunknown : ∀ l, (∃ v, (v, l, none) ∈ looked ++ [(u, library, some name)]) ↔
      ∃ v, (v, l, none) ∈ looked := fun l => by simp
  have hreached : ∀ l n, (∃ v, (v, l, some n) ∈ looked ++ [(u, library, some name)]) ↔
      (∃ v, (v, l, some n) ∈ looked) ∨ (l = library ∧ n = name) := fun l n => by
    simp [exists_or]
  rw [Worklist.addName]
  split
  · rename_i hmarked
    refine { h with mem_unknown := ?_, mem_reached := ?_, told_by := ?_ }
    · exact fun l => (h.mem_unknown l).trans (hunknown l).symm
    · intro l n
      rw [hreached, ← h.mem_reached]
      constructor
      · exact Or.inl
      · rintro (hmem | ⟨rfl, rfl⟩)
        · exact hmem
        · exact List.contains_iff_mem.mp hmarked
    · exact fun d hd => h.told_by_append _ hd
  · rename_i hmarked
    have hnew : (library, name) ∉ s.reached := fun hmem =>
      hmarked (List.contains_iff_mem.mpr hmem)
    obtain ⟨hr, hu, hf⟩ := told_requireOr { s with reached := (library, name) :: s.reached }
      (.unresolvedUse u library name) (c.named library name)
    constructor
    · rw [hu]
      exact h.nodup_unknown
    · intro l
      rw [hu, hunknown]
      exact h.mem_unknown l
    · rw [hr]
      exact List.nodup_cons.mpr ⟨hnew, h.nodup_reached⟩
    · intro l n
      rw [hr, hreached, ← h.mem_reached, List.mem_cons, Prod.mk.injEq]
      exact Or.comm
    · rw [hf, hu, List.filterMap_append, h.libraries]
      split <;> simp [Diagnostic.unknownLibrary?]
    · rw [hf, hr, List.filterMap_append, h.uses]
      split <;> simp [Diagnostic.unresolvedUse?, *]
    · rw [hf, List.filterMap_append, h.instances]
      split <;> simp [Diagnostic.missingInstance?]
    · intro d hd
      rw [hf, List.mem_append] at hd
      rcases hd with hd | hd
      · exact h.told_by_append _ hd
      · have hnow : d = .unresolvedUse u library name := by
          split at hd
          · exact List.mem_singleton.mp hd
          · cases hd
        exact Or.inr (Or.inl ⟨u, library, name, by simp, hnow⟩)

/-- A library without units is told of when it is looked up for the first time. -/
theorem addUnknown (h : Tells c looked unmet s) {u : DesignUnit} {entry : String × List String}
    (hlibrary : c.hasLibrary entry.1 = false) :
    Tells c (looked ++ [(u, entry.1, none)]) unmet (addUses c u s entry) := by
  have hunknown : ∀ l, (∃ v, (v, l, none) ∈ looked ++ [(u, entry.1, none)]) ↔
      (∃ v, (v, l, none) ∈ looked) ∨ l = entry.1 := fun l => by simp [exists_or]
  have hreached : ∀ l n, (∃ v, (v, l, some n) ∈ looked ++ [(u, entry.1, none)]) ↔
      ∃ v, (v, l, some n) ∈ looked := fun l n => by simp
  rw [Worklist.addUses, if_neg (by simp [hlibrary])]
  split
  · rename_i hmarked
    refine { h with mem_unknown := ?_, mem_reached := ?_, told_by := ?_ }
    · intro l
      rw [hunknown, ← h.mem_unknown]
      constructor
      · exact Or.inl
      · rintro (hmem | rfl)
        · exact hmem
        · exact List.contains_iff_mem.mp hmarked
    · exact fun l n => (h.mem_reached l n).trans (hreached l n).symm
    · exact fun d hd => h.told_by_append _ hd
  · rename_i hmarked
    have hnew : entry.1 ∉ s.unknown := fun hmem => hmarked (List.contains_iff_mem.mpr hmem)
    constructor
    · exact List.nodup_cons.mpr ⟨hnew, h.nodup_unknown⟩
    · intro l
      rw [hunknown, ← h.mem_unknown]
      exact List.mem_cons.trans Or.comm
    · exact h.nodup_reached
    · exact fun l n => (h.mem_reached l n).trans (hreached l n).symm
    · simp [report, h.libraries, Diagnostic.unknownLibrary?]
    · simp [report, h.uses, Diagnostic.unresolvedUse?]
    · simp [report, h.instances, Diagnostic.missingInstance?]
    · intro d hd
      rcases List.mem_append.mp hd with hd | hd
      · exact h.told_by_append _ hd
      · exact Or.inl ⟨u, entry.1, by simp, List.mem_singleton.mp hd⟩

/-- An instance is told of if it has no target. -/
theorem addInstance (h : Tells c looked unmet s) (u : DesignUnit) (i : Instance) :
    Tells c looked (unmet ++ if c.targets u i = [] then [(u, i)] else [])
      (addInstance c u s i) := by
  obtain ⟨hr, hu, hf⟩ := told_requireOr s (.instanceNotFound u i) (c.targets u i)
  constructor
  · exact hu ▸ h.nodup_unknown
  · exact hu ▸ h.mem_unknown
  · exact hr ▸ h.nodup_reached
  · exact hr ▸ h.mem_reached
  · rw [Worklist.addInstance, hf, hu, List.filterMap_append, h.libraries]
    split <;> simp [Diagnostic.unknownLibrary?]
  · rw [Worklist.addInstance, hf, hr, List.filterMap_append, h.uses]
    split <;> simp [Diagnostic.unresolvedUse?]
  · rw [Worklist.addInstance, hf, List.filterMap_append, h.instances]
    split <;> simp [Diagnostic.missingInstance?]
  · intro d hd
    rw [Worklist.addInstance, hf, List.mem_append] at hd
    rcases hd with hd | hd
    · exact h.told_by d hd
    · have hnow : d = .instanceNotFound u i := by
        split at hd
        · exact List.mem_singleton.mp hd
        · cases hd
      exact Or.inr (Or.inr ⟨u, i, hnow⟩)

/-- Steps that each tell of one member of a list tell of all of them. -/
theorem foldl {α : Type} {f : Worklist → α → Worklist} (looks : α → List Lookup)
    (misses : α → List (DesignUnit × Instance))
    (hf : ∀ x looked unmet s, Tells c looked unmet s →
      Tells c (looked ++ looks x) (unmet ++ misses x) (f s x))
    (h : Tells c looked unmet s) (xs : List α) :
    Tells c (looked ++ xs.flatMap looks) (unmet ++ xs.flatMap misses) (xs.foldl f s) := by
  induction xs generalizing looked unmet s with
  | nil => simpa using h
  | cons x xs ih => simpa using ih (hf x looked unmet s h)

/-- What one entry of a use table makes a visit tell. -/
theorem addUses (h : Tells c looked unmet s) (u : DesignUnit) (entry : String × List String) :
    Tells c (looked ++ entryLookups c u entry) unmet (addUses c u s entry) := by
  rw [entryLookups]
  split
  · rename_i hlibrary
    have hnames := h.foldl (fun name => [(u, entry.1, some name)]) (fun _ => [])
      (fun name looked unmet s h => by simpa using h.addName u entry.1 name) entry.2
    rw [flatMap_nothing, List.append_nil] at hnames
    rw [Worklist.addUses, if_pos hlibrary, List.map_eq_flatMap]
    exact hnames
  · rename_i hlibrary
    exact h.addUnknown (Bool.not_eq_true _ ▸ hlibrary)

/-- What a visit tells. -/
theorem visit (h : Tells c looked unmet s) (i : Nat) :
    Tells c (looked ++ (c.unitsAt [i]).flatMap (lookups c))
      (unmet ++ (c.unitsAt [i]).flatMap c.unmet) (visit c s i) := by
  rw [Worklist.visit]
  split
  · rename_i u hu
    have huses := h.foldl (entryLookups c u) (fun _ => [])
      (fun entry looked unmet s h => by simpa using h.addUses u entry) u.uses.entries
    have hinstances := huses.foldl (fun _ => [])
      (fun i => if c.targets u i = [] then [(u, i)] else [])
      (fun i looked unmet s h => by simpa using h.addInstance u i) u.instances
    have hunmet : c.unmet u =
        u.instances.flatMap fun i => if c.targets u i = [] then [(u, i)] else [] := by
      rw [Corpus.unmet]
      induction u.instances with
      | nil => rfl
      | cons i is ih => by_cases hi : c.targets u i = [] <;> simp [hi, ih]
    rw [flatMap_nothing, flatMap_nothing, List.append_nil, List.append_nil, ← hunmet] at hinstances
    simpa [unitsAt, hu, lookups] using hinstances
  · rename_i hnone
    simpa [unitsAt, hnone] using h

end Tells

/-- A unit looks up the libraries it uses that have no units. -/
theorem mem_lookups_none {u v : DesignUnit} {library : String} :
    (v, library, none) ∈ lookups c u ↔
      v = u ∧ c.hasLibrary library = false ∧ ∃ names, (library, names) ∈ u.uses := by
  simp only [lookups, entryLookups, List.mem_flatMap, UseTable.mem_entries, Prod.exists]
  constructor
  · rintro ⟨library', names, huses, hmem⟩
    split at hmem
    · simp at hmem
    · rename_i hlibrary
      obtain ⟨rfl, rfl⟩ : v = u ∧ library = library' := by simpa using hmem
      exact ⟨rfl, Bool.not_eq_true _ ▸ hlibrary, names, huses⟩
  · rintro ⟨rfl, hlibrary, names, huses⟩
    exact ⟨library, names, huses, by simp [hlibrary]⟩

/-- A unit looks up the names it uses from libraries with units. -/
theorem mem_lookups_some {u v : DesignUnit} {library name : String} :
    (v, library, some name) ∈ lookups c u ↔
      v = u ∧ c.hasLibrary library = true ∧ ∃ names, (library, names) ∈ u.uses ∧ name ∈ names := by
  simp only [lookups, entryLookups, List.mem_flatMap, UseTable.mem_entries, Prod.exists]
  constructor
  · rintro ⟨library', names, huses, hmem⟩
    split at hmem
    · rename_i hlibrary
      obtain ⟨hname, rfl, rfl⟩ : name ∈ names ∧ v = u ∧ library = library' := by
        simpa [eq_comm] using hmem
      exact ⟨rfl, hlibrary, names, huses, hname⟩
    · simp at hmem
  · rintro ⟨rfl, hlibrary, names, huses, hname⟩
    exact ⟨library, names, huses, by simpa [hlibrary] using hname⟩

/-- What holds between visits, when the units at some positions have been visited. -/
structure Visited (c : Corpus) (visited : List Nat) (s : Worklist) : Prop where
  /-- The units of the names looked up are required. -/
  marked : Marked c s
  /-- No unit is required twice. -/
  nodup : s.required.Nodup
  /-- The required units are those visited and those queued. -/
  mem_required : ∀ i, i ∈ s.required ↔ i ∈ visited ∨ i ∈ s.queue
  /-- Each required unit is visited once or queued once. -/
  length_eq : s.required.length = visited.length + s.queue.length
  /-- The visits told of what their units need. -/
  tells : Tells c ((c.unitsAt visited).flatMap (lookups c)) ((c.unitsAt visited).flatMap c.unmet) s

namespace Visited

variable {visited : List Nat}

/-- Visiting the first unit of the queue keeps what holds. -/
theorem visit {i : Nat} {rest : List Nat} (h : Visited c visited s) (hqueue : s.queue = i :: rest) :
    Visited c (visited ++ [i]) (visit c { s with queue := rest } i) := by
  obtain ⟨hadds, hmarked⟩ := visit_adds (s := { s with queue := rest }) h.marked i
  refine ⟨hmarked, hadds.nodup h.nodup, fun j => ?_, ?_, ?_⟩
  · have hold : j ∈ s.required ↔ j ∈ visited ∨ j = i ∨ j ∈ rest := by
      rw [h.mem_required, hqueue, List.mem_cons]
    rw [hadds.mem_required, hadds.mem_queue, hold, List.mem_append, List.mem_singleton]
    tauto
  · have hlength := hadds.length_eq
    have hbefore := h.length_eq
    rw [hqueue, List.length_cons] at hbefore
    simp only [List.length_append, List.length_cons, List.length_nil] at hlength ⊢
    omega
  · have hdequeued : Tells c ((c.unitsAt visited).flatMap (lookups c))
        ((c.unitsAt visited).flatMap c.unmet) { s with queue := rest } :=
      h.tells.of_eq rfl rfl rfl
    have htells := hdequeued.visit i
    rwa [← List.flatMap_append, ← List.flatMap_append, unitsAt, unitsAt,
      ← List.filterMap_append] at htells

/-- Any number of visits keeps what holds. -/
theorem run (h : Visited c visited s) (visits : Nat) :
    ∃ more, Visited c (visited ++ more) (run c visits s) := by
  induction visits generalizing visited s with
  | zero => exact ⟨[], by simpa [Worklist.run] using h⟩
  | succ visits ih =>
    rw [Worklist.run]
    split
    · exact ⟨[], by simpa using h⟩
    · rename_i i rest hqueue
      obtain ⟨more, hmore⟩ := ih (h.visit hqueue)
      exact ⟨i :: more, by simpa using hmore⟩

/-- With nothing left to visit, each required unit has been visited, and no unit twice. -/
theorem perm_required (h : Visited c visited s) (hqueue : s.queue = []) :
    s.required.Perm visited := by
  have hsub : s.required ⊆ visited := fun i hi => by
    simpa [hqueue] using (h.mem_required i).mp hi
  have hlength := h.length_eq
  rw [hqueue, List.length_nil, Nat.add_zero] at hlength
  exact (h.nodup.subperm hsub).perm_of_length_le hlength.ge

end Visited

/-- The requests leave a search that has not visited any unit. -/
theorem visited_addTops (c : Corpus) (tops : List Request) :
    Visited c [] { tops.foldl (addTop c) {} with findings := [] } := by
  have hmarked : Marked c {} := fun p hp => absurd hp List.not_mem_nil
  obtain ⟨hadds, hmarked'⟩ := foldl_adds tops (fun r _ t ht => addTop_adds ht r) hmarked
  obtain ⟨hreached, hunknown, -⟩ := told_addTops c tops {}
  constructor
  · exact hmarked'
  · exact hadds.nodup List.nodup_nil
  · intro i
    have hrequired := hadds.mem_required i
    have hqueue := hadds.mem_queue i
    simp only [List.not_mem_nil, false_or, not_false_iff, and_true] at hrequired hqueue ⊢
    exact hrequired.trans hqueue.symm
  · simpa using hadds.length_eq
  · exact Tells.nothing hreached hunknown rfl

/-- The same state of a search, some things having been told before it began. -/
def after (earlier : List Diagnostic) (s : Worklist) : Worklist :=
  { s with findings := earlier ++ s.findings }

variable (earlier : List Diagnostic) (s : Worklist)

@[simp] theorem reached_after : (s.after earlier).reached = s.reached := rfl

@[simp] theorem unknown_after : (s.after earlier).unknown = s.unknown := rfl

theorem report_after (d : Diagnostic) :
    (s.after earlier).report d = (s.report d).after earlier := by
  simp [report, after]

theorem require_after (i : Nat) : (s.after earlier).require i = (s.require i).after earlier := by
  rw [require, require]
  split <;> simp_all [after]

theorem requireOr_after (d : Diagnostic) (found : List Nat) :
    (s.after earlier).requireOr d found = (s.requireOr d found).after earlier := by
  rw [requireOr, requireOr, report_after]
  split <;> exact List.foldl_hom (after earlier) (require_after earlier)

theorem addTop_after (c : Corpus) (r : Request) :
    addTop c (s.after earlier) r = (addTop c s r).after earlier := by
  rw [addTop, addTop, report_after, requireOr_after]
  split
  · exact List.foldl_hom (after earlier) (require_after earlier)
  · rfl

theorem addName_after (c : Corpus) (u : DesignUnit) (library name : String) :
    addName c u library (s.after earlier) name = (addName c u library s name).after earlier := by
  rw [addName, addName, reached_after]
  split
  · rfl
  · exact requireOr_after earlier { s with reached := (library, name) :: s.reached } _ _

theorem addUses_after (c : Corpus) (u : DesignUnit) (entry : String × List String) :
    addUses c u (s.after earlier) entry = (addUses c u s entry).after earlier := by
  rw [addUses, addUses, unknown_after]
  split
  · exact List.foldl_hom (after earlier) fun s name => addName_after earlier s c u entry.1 name
  · split
    · rfl
    · exact report_after earlier { s with unknown := entry.1 :: s.unknown } _

theorem visit_after (c : Corpus) (i : Nat) :
    visit c (s.after earlier) i = (visit c s i).after earlier := by
  rw [visit, visit]
  split
  · rename_i u _
    have huses : u.uses.entries.foldl (addUses c u) (s.after earlier) =
        (u.uses.entries.foldl (addUses c u) s).after earlier :=
      List.foldl_hom (after earlier) fun s entry => addUses_after earlier s c u entry
    rw [huses]
    exact List.foldl_hom (after earlier) fun s i => requireOr_after earlier s _ (c.targets u i)
  · rfl

/-- What was told before a search stays in front, and changes nothing else. -/
theorem run_after (c : Corpus) (visits : Nat) :
    run c visits (s.after earlier) = (run c visits s).after earlier := by
  induction visits generalizing s with
  | zero => rfl
  | succ visits ih =>
    rw [run, run]
    cases hqueue : s.queue with
    | nil => simp [after, hqueue]
    | cons i rest =>
      have hvisit := visit_after earlier { s with queue := rest } c i
      simp only [after, hqueue] at hvisit ih ⊢
      rw [hvisit, ih]

end Worklist

/-- What the visits of a search have told when the queue is empty. -/
theorem Worklist.Visited.tellsNeeds {visited : List Nat} {s : Worklist}
    (h : Worklist.Visited c visited s) {units : List DesignUnit}
    (hunits : (c.unitsAt visited).Perm units) : TellsNeeds c units s.findings := by
  have hmem : ∀ {u}, u ∈ c.unitsAt visited ↔ u ∈ units := hunits.mem_iff
  constructor
  · intro d hd
    rcases h.tells.told_by d hd with
      ⟨v, library, hlooked, rfl⟩ | ⟨v, library, name, hlooked, rfl⟩ | hinstance
    · obtain ⟨u, hu, hlookup⟩ := List.mem_flatMap.mp hlooked
      obtain ⟨rfl, -, names, huses⟩ := Worklist.mem_lookups_none.mp hlookup
      exact Or.inl ⟨v, hmem.mp hu, library, names, huses, rfl⟩
    · obtain ⟨u, hu, hlookup⟩ := List.mem_flatMap.mp hlooked
      obtain ⟨rfl, -, names, huses, hname⟩ := Worklist.mem_lookups_some.mp hlookup
      exact Or.inr (Or.inl ⟨v, hmem.mp hu, library, names, name, hname, huses, rfl⟩)
    · exact Or.inr (Or.inr hinstance)
  · rw [h.tells.libraries]
    exact List.nodup_reverse.mpr h.tells.nodup_unknown
  · intro library
    rw [h.tells.libraries, List.mem_reverse, h.tells.mem_unknown]
    simp only [List.mem_flatMap, Worklist.mem_lookups_none, hmem]
    rw [← hasLibrary_eq_false]
    constructor
    · rintro ⟨v, u, hu, rfl, hlibrary, names, huses⟩
      exact ⟨⟨v, hu, names, huses⟩, hlibrary⟩
    · rintro ⟨⟨u, hu, names, huses⟩, hlibrary⟩
      exact ⟨u, u, hu, rfl, hlibrary, names, huses⟩
  · rw [h.tells.uses]
    exact List.nodup_reverse.mpr (h.tells.nodup_reached.filter _)
  · intro library name
    rw [h.tells.uses, List.mem_reverse, List.mem_filter, h.tells.mem_reached, decide_eq_true_iff,
      named_eq_nil_iff, ← hasLibrary_eq_true]
    simp only [List.mem_flatMap, Worklist.mem_lookups_some, hmem]
    constructor
    · rintro ⟨⟨v, u, hu, rfl, hlibrary, names, huses, hname⟩, hnone⟩
      exact ⟨⟨v, hu, names, huses, hname⟩, hlibrary, hnone⟩
    · rintro ⟨⟨u, hu, names, huses, hname⟩, hlibrary, hnone⟩
      exact ⟨⟨u, u, hu, rfl, hlibrary, names, huses, hname⟩, hnone⟩
  · rw [h.tells.instances]
    exact hunits.flatMap_right _

/-- A closure first tells, request by request, that no architecture matches or that several do,
and which; then it tells all that the units of the closure use and instantiate and the corpus
does not hold, each thing as often as it has to. What was told before stays in front of this,
and changes neither. -/
theorem closure_findings (c : Corpus) (tops : List Request) :
    ∃ told, TellsNeeds c (c.closure tops).1.units told ∧
      (c.closure tops).2 = tops.flatMap c.requestFindings ++ told ∧
      ∀ earlier : List Diagnostic,
        Worklist.run c c.units.length (tops.foldl (Worklist.addTop c) { findings := earlier }) =
          { c.needed tops with findings := earlier ++ (c.closure tops).2 } := by
  let start : Worklist := { tops.foldl (Worklist.addTop c) {} with findings := [] }
  let s := Worklist.run c c.units.length start
  obtain ⟨-, -, hfindings⟩ := Worklist.told_addTops c tops {}
  have htops : tops.foldl (Worklist.addTop c) {} =
      start.after (tops.flatMap c.requestFindings) := by
    simp only [Worklist.after, start, List.append_nil]
    rw [← List.nil_append (tops.flatMap _), ← hfindings]
  have hneeded : c.needed tops = s.after (tops.flatMap c.requestFindings) := by
    rw [needed, htops, Worklist.run_after]
  have hrequired : (c.needed tops).required = s.required := by rw [hneeded]; rfl
  have hqueue : (c.needed tops).queue = s.queue := by rw [hneeded]; rfl
  obtain ⟨visited, hvisited⟩ := (Worklist.visited_addTops c tops).run c.units.length
  have hunits : (c.unitsAt visited).Perm (c.closure tops).1.units := by
    have hvisits : s.required.Perm visited :=
      hvisited.perm_required (hqueue.symm.trans (needed_isLeast c tops).1)
    have hpositions : s.required.Perm (c.neededPositions tops) :=
      (List.perm_ext_iff_of_nodup hvisited.nodup (pairwise_neededPositions c tops).nodup).mpr
        fun i => by rw [mem_neededPositions, hrequired]
    rw [units_closure]
    exact (hvisits.symm.trans hpositions).filterMap _
  refine ⟨s.findings, hvisited.tellsNeeds hunits, ?_, fun earlier => ?_⟩
  · rw [closure, hneeded]
    rfl
  · have hearlier : ({ findings := earlier } : Worklist) = Worklist.after earlier {} := by
      simp [Worklist.after]
    rw [hearlier, List.foldl_hom (Worklist.after earlier)
      fun s r => Worklist.addTop_after earlier s c r, Worklist.run_after]
    rfl

end Corpus

end CompileOrder
