import CompileOrder.Project
import CompileOrder.Proofs.Text.Order
import CompileOrder.Proofs.Text.Trim
import Mathlib.Data.List.Induction

/-!
# Merging the entries of a configuration

The entries of a configuration are read one after the other, and each is merged into the first
library of its name. So after any number of entries the libraries are those that the entries
read so far name, in the order of their first mention, and each holds everything that its own
entries list, in their order, however entries of other libraries stand between them. Nothing is
merged in libraries of distinct canonical names, so they stay as they are.
-/

namespace CompileOrder

open Text

/-- Trimming and upper-casing a second time change nothing. -/
theorem Text.upper_trim_upper_trim (cs : List Char) :
    upper (String.ofList (trim (upper (String.ofList (trim cs))).toList)) =
      upper (String.ofList (trim cs)) := by
  have hchars : String.ofList ((trim cs).map Char.toUpper) = upper (String.ofList (trim cs)) := by
    rw [upper, String.toList_ofList]
  rw [toList_upper, String.toList_ofList, trim_map_toUpper, trim_trim, hchars, upper_upper]

namespace Library

section

variable (l : Library)

@[simp] theorem paths_canonical : l.canonical.paths = l.paths := by rw [canonical]

@[simp] theorem selections_canonical : l.canonical.selections = l.selections := by rw [canonical]

@[simp] theorem tops_canonical : l.canonical.tops = l.tops := by rw [canonical]

@[simp] theorem output_canonical : l.canonical.output = l.output := by rw [canonical]

/-- A canonical name is empty if nothing but blanks was given. -/
theorem canonical_name_eq_empty_iff : l.canonical.name = "" ↔ trim l.name.toList = [] := by
  rw [← String.toList_eq_nil_iff, canonical, toList_upper, String.toList_ofList,
    List.map_eq_nil_iff]

/-- Merged into a library that holds nothing, a library stays what it is. -/
theorem merge_empty : ({ name := l.name } : Library).merge l = l := by
  simp [merge]

/-- A library whose name is the canonical name of an entry is canonical. -/
theorem canonical_eq_self {l e : Library} (h : l.name = e.canonical.name) : l.canonical = l := by
  have hname : l.canonical.name = l.name := by
    rw [canonical, h]
    exact upper_trim_upper_trim e.name.toList
  obtain ⟨name, paths, selections, tops, output⟩ := l
  exact congrArg (Library.mk · paths selections tops output) hname

end

/-- What the entries of one name hold together: their lists one after the other, and the last
output that one of them gives. -/
def gathered (entries : List Library) (name : String) : Library :=
  let own := entries.filter fun e => e.canonical.name == name
  { name := name
    paths := own.flatMap (·.paths)
    selections := own.flatMap (·.selections)
    tops := own.flatMap (·.tops)
    output := (own.filterMap (·.output)).getLast? }

/-- The names of the libraries that the entries belong to, in the order of first mention. -/
def libraryNames (entries : List Library) : List String :=
  (entries.map fun e => e.canonical.name).eraseDups

/-- The libraries are distinct, each under its canonical name, and no name is blank. -/
structure Normal (libraries : List Library) : Prop where
  /-- No two libraries have the same name. -/
  distinct : (libraries.map (·.name)).Nodup
  /-- All names are canonical. -/
  canonical : ∀ l ∈ libraries, l.canonical = l
  /-- No name is blank. -/
  ne_empty : ∀ l ∈ libraries, l.name ≠ ""

/-- A library of a new name is added at the end. -/
theorem mergeInto_of_notMem {l : Library} {libraries : List Library}
    (h : l.name ∉ libraries.map (·.name)) : mergeInto l libraries = libraries ++ [l] := by
  induction libraries with
  | nil => rfl
  | cons m libraries ih =>
    rw [List.map_cons, List.mem_cons, not_or] at h
    have hne : (m.name == l.name) = false := beq_eq_false_iff_ne.mpr fun heq => h.1 heq.symm
    simp only [mergeInto, hne, Bool.false_eq_true, if_false, ih h.2, List.cons_append]

/-- A library of a known name changes the library of this name and no other. -/
theorem mergeInto_map_of_mem {names : List String} (hnames : names.Nodup) {g : String → Library}
    (hg : ∀ n, (g n).name = n) {l : Library} (hl : l.name ∈ names) :
    mergeInto l (names.map g) = names.map fun n => if n = l.name then (g n).merge l else g n := by
  induction names with
  | nil => cases hl
  | cons n names ih =>
    obtain ⟨hn, hnames⟩ := List.nodup_cons.mp hnames
    rw [List.map_cons, List.map_cons, mergeInto, hg]
    by_cases heq : n = l.name
    · have hrest : ∀ m ∈ names, (if m = l.name then (g m).merge l else g m) = g m := by
        intro m hm
        have hne : m ≠ l.name := fun hname => hn (heq.trans hname.symm ▸ hm)
        rw [if_neg hne]
      rw [if_pos (beq_iff_eq.mpr heq), if_pos heq, List.map_congr_left hrest]
    · have hl : l.name ∈ names := (List.mem_cons.mp hl).resolve_left fun h => heq h.symm
      rw [if_neg (by simpa using heq), if_neg heq, ih hnames hl]

theorem nodup_libraryNames (entries : List Library) : (libraryNames entries).Nodup :=
  nodup_eraseDups _

/-- Of a name without entries there is nothing. -/
theorem gathered_of_notMem {entries : List Library} {name : String}
    (h : name ∉ libraryNames entries) : gathered entries name = { name := name } := by
  have hnone : (entries.filter fun e => e.canonical.name == name) = [] := by
    rw [List.filter_eq_nil_iff]
    intro e he hname
    have hmem : e.canonical.name ∈ libraryNames entries :=
      List.mem_eraseDups.mpr (List.mem_map.mpr ⟨e, he, rfl⟩)
    exact h (beq_iff_eq.mp hname ▸ hmem)
  simp [gathered, hnone]

/-- One more entry adds what it holds to the library of its name. -/
theorem gathered_append (entries : List Library) (e : Library) (name : String) :
    gathered (entries ++ [e]) name =
      if name = e.canonical.name then (gathered entries name).merge e.canonical
      else gathered entries name := by
  by_cases hname : name = e.canonical.name
  · have hown : (e.canonical.name == name) = true := beq_iff_eq.mpr hname.symm
    rw [if_pos hname]
    cases houtput : e.output <;>
      simp [gathered, List.filter_append, hown, Library.merge, houtput]
  · have hown : (e.canonical.name == name) = false :=
      beq_eq_false_iff_ne.mpr fun h => hname h.symm
    rw [if_neg hname]
    simp [gathered, List.filter_append, hown]

/-- One more entry adds its name if that is new. -/
theorem libraryNames_append (entries : List Library) (e : Library) :
    libraryNames (entries ++ [e]) = libraryNames entries ++
      if e.canonical.name ∈ libraryNames entries then [] else [e.canonical.name] := by
  rw [libraryNames, List.map_append, List.map_singleton, eraseDups_concat]
  simp only [libraryNames, List.mem_eraseDups]

/-- An entry merged into what was gathered is gathered with it. -/
theorem mergeInto_gathered (entries : List Library) (e : Library) :
    mergeInto e.canonical ((libraryNames entries).map (gathered entries)) =
      (libraryNames (entries ++ [e])).map (gathered (entries ++ [e])) := by
  rw [libraryNames_append]
  by_cases hname : e.canonical.name ∈ libraryNames entries
  · rw [if_pos hname, List.append_nil,
      mergeInto_map_of_mem (nodup_libraryNames entries) (fun _ => rfl) hname]
    exact List.map_congr_left fun n _ => (gathered_append entries e n).symm
  · have hnew :
        e.canonical.name ∉ ((libraryNames entries).map (gathered entries)).map (·.name) := by
      simpa [Function.comp_def, gathered] using hname
    have hold : ∀ n ∈ libraryNames entries, gathered entries n = gathered (entries ++ [e]) n := by
      intro n hn
      have hne : n ≠ e.canonical.name := fun heq => hname (heq ▸ hn)
      rw [gathered_append, if_neg hne]
    have hlast : gathered (entries ++ [e]) e.canonical.name = e.canonical := by
      rw [gathered_append, if_pos rfl, gathered_of_notMem hname, Library.merge_empty]
    rw [if_neg hname, mergeInto_of_notMem hnew, List.map_append, List.map_singleton, hlast,
      List.map_congr_left hold]

/-- An entry without a name is refused, and any other is merged. -/
theorem addEntry_eq (merged : List Library) (e : Library) :
    addEntry merged e =
      if trim e.name.toList = [] then .error .emptyLibraryName
      else .ok (mergeInto e.canonical merged) := by
  simp only [addEntry, beq_iff_eq, canonical_name_eq_empty_iff]

/-- The entries of a configuration are gathered unless one has a blank name. -/
theorem normalize_eq (entries : List Library) :
    normalize entries =
      if ∃ e ∈ entries, trim e.name.toList = [] then .error .emptyLibraryName
      else .ok ((libraryNames entries).map (gathered entries)) := by
  induction entries using List.reverseRecOn with
  | nil => rfl
  | append_singleton entries e ih =>
    have hlast : ∀ merged, [e].foldlM addEntry merged = addEntry merged e := by
      intro merged
      rw [List.foldlM_cons]
      exact bind_pure _
    have hblank : (∃ e' ∈ entries ++ [e], trim e'.name.toList = []) ↔
        (∃ e' ∈ entries, trim e'.name.toList = []) ∨ trim e.name.toList = [] := by
      simp [or_and_right, exists_or]
    rw [normalize, List.foldlM_append, ← normalize, ih]
    simp only [hlast, addEntry_eq, hblank]
    by_cases hearlier : ∃ e' ∈ entries, trim e'.name.toList = []
    · rw [if_pos hearlier, if_pos (Or.inl hearlier)]
      rfl
    · rw [if_neg hearlier, ← mergeInto_gathered]
      by_cases hempty : trim e.name.toList = []
      · rw [if_pos (Or.inr hempty)]
        exact if_pos hempty
      · rw [if_neg (not_or.mpr ⟨hearlier, hempty⟩)]
        exact if_neg hempty

/-- What is gathered from entries without a blank name is in normal form. -/
theorem normal_gathered {entries : List Library}
    (h : ¬ ∃ e ∈ entries, trim e.name.toList = []) :
    Normal ((libraryNames entries).map (gathered entries)) := by
  have hentry : ∀ n ∈ libraryNames entries, ∃ e ∈ entries, e.canonical.name = n := by
    intro n hn
    exact List.mem_map.mp (List.mem_eraseDups.mp hn)
  refine ⟨?_, ?_, ?_⟩
  · simpa [Function.comp_def, gathered] using nodup_libraryNames entries
  · intro l hl
    obtain ⟨n, hn, rfl⟩ := List.mem_map.mp hl
    obtain ⟨e, -, rfl⟩ := hentry n hn
    exact Library.canonical_eq_self rfl
  · intro l hl
    obtain ⟨n, hn, rfl⟩ := List.mem_map.mp hl
    obtain ⟨e, he, rfl⟩ := hentry n hn
    exact fun hempty => h ⟨e, he, e.canonical_name_eq_empty_iff.mp hempty⟩

/-- Libraries in normal form are added one after the other. -/
theorem foldlM_addEntry_of_normal (seen : List Library) {libraries : List Library}
    (h : Normal (seen ++ libraries)) :
    libraries.foldlM addEntry seen = .ok (seen ++ libraries) := by
  induction libraries generalizing seen with
  | nil =>
    rw [List.append_nil]
    rfl
  | cons l libraries ih =>
    have hmem : l ∈ seen ++ l :: libraries := List.mem_append_right _ List.mem_cons_self
    have hcanonical := h.canonical l hmem
    have hnew : l.name ∉ seen.map (·.name) := by
      have hdistinct := h.distinct
      rw [List.map_append, List.map_cons, List.nodup_append] at hdistinct
      intro hl
      exact hdistinct.2.2 _ hl _ List.mem_cons_self rfl
    have hstep : addEntry seen l = .ok (seen ++ [l]) := by
      have hne : trim l.name.toList ≠ [] := by
        rw [ne_eq, ← l.canonical_name_eq_empty_iff, hcanonical]
        exact h.ne_empty l hmem
      rw [addEntry_eq, if_neg hne, hcanonical, mergeInto_of_notMem hnew]
    rw [List.foldlM_cons, hstep]
    exact (ih _ (List.append_cons .. ▸ h)).trans (by rw [← List.append_cons])

end Library

open Library

/-- A configuration is refused exactly if some entry has a blank name. Otherwise it has one
library for each canonical name among the entries, in the order of first mention, with everything
that the entries of this name list, in their order, and the last output that one of them gives.
Merged again, these libraries stay as they are. -/
theorem normalize_merges (entries : List Library) :
    normalize entries =
        (if ∃ e ∈ entries, trim e.name.toList = [] then .error .emptyLibraryName
        else .ok ((libraryNames entries).map (gathered entries))) ∧
      (normalize entries >>= normalize) = normalize entries := by
  refine ⟨normalize_eq entries, ?_⟩
  rw [normalize_eq]
  by_cases hblank : ∃ e ∈ entries, trim e.name.toList = []
  · rw [if_pos hblank]
    rfl
  · rw [if_neg hblank]
    exact foldlM_addEntry_of_normal [] (normal_gathered hblank)

example :
    normalize [{ name := "work", paths := ["a"] }, { name := "Util" },
      { name := " WORK\t", paths := ["b"], tops := ["top"] }] =
    .ok [{ name := "WORK", paths := ["a", "b"], tops := ["top"] }, { name := "UTIL" }] := by
  decide +kernel

end CompileOrder
