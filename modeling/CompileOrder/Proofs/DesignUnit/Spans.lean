import CompileOrder.Proofs.DesignUnit.Feeding
import Mathlib.Data.List.Nodup

/-!
# The lines that units span

A unit is found at the line that closes it, and the next one is opened by a later line at the
earliest, since what a line holds behind an end is not read as a header. So the units found span
disjoint ranges of lines, in order and before the open unit, and a further line adds one unit
at most, which ends there.
-/

namespace CompileOrder

@[simp] theorem OpenUnit.beginLine_close (o : OpenUnit) (line : Nat) :
    (o.close line).beginLine = o.unit.beginLine := rfl

@[simp] theorem OpenUnit.endLine_close (o : OpenUnit) (line : Nat) :
    (o.close line).endLine = line := rfl

namespace Extractor

variable {x : Extractor} {line : String} {o : OpenUnit}

/-- The units found span ranges of the lines read, each after the one before, and the open
unit begins after all of them. -/
structure Spanned (x : Extractor) : Prop where
  /-- Each unit spans lines that were read. -/
  bounded : ∀ u ∈ x.units, 1 ≤ u.beginLine ∧ u.beginLine ≤ u.endLine ∧ u.endLine ≤ x.lineCount
  /-- Each unit ends before the next begins. -/
  apart : x.units.Pairwise fun u v => u.endLine < v.beginLine
  /-- The open unit begins at a line that was read, after every unit found. -/
  current : ∀ o, x.current = some o → 1 ≤ o.unit.beginLine ∧ o.unit.beginLine ≤ x.lineCount ∧
    ∀ u ∈ x.units, u.endLine < o.unit.beginLine

namespace Spanned

theorem start (file library : String) : Spanned (start file library) where
  bounded _ hu := absurd hu List.not_mem_nil
  apart := .nil
  current _ ho := nomatch ho

/-- The unit that a line goes to begins after every unit found, at this line at the latest. -/
theorem receives (hx : Spanned x) (h : x.Receives line o) :
    1 ≤ o.unit.beginLine ∧ o.unit.beginLine ≤ x.lineCount + 1 ∧
      ∀ u ∈ x.units, u.endLine < o.unit.beginLine := by
  cases h with
  | continued hcurrent =>
    obtain ⟨hone, hle, hafter⟩ := hx.current _ hcurrent
    exact ⟨hone, Nat.le_succ_of_le hle, hafter⟩
  | opened _ =>
    rw [beginLine_opening]
    refine ⟨by omega, Nat.le_refl _, fun u hu => ?_⟩
    have := (hx.bounded u hu).2.2
    omega

/-- A line keeps the spans apart. -/
theorem feed (hx : Spanned x) (line : String) : Spanned (x.feed line) := by
  have hbounded : ∀ u ∈ x.units,
      1 ≤ u.beginLine ∧ u.beginLine ≤ u.endLine ∧ u.endLine ≤ x.lineCount + 1 := fun u hu =>
    let ⟨hone, hle, hend⟩ := hx.bounded u hu
    ⟨hone, hle, by omega⟩
  rcases feed_cases x line with ⟨o, ho, -, hcurrent, hunits⟩ | ⟨o, ho, -, hcurrent, hunits⟩ |
    ⟨-, hcurrent, hunits⟩
  · refine ⟨by simpa [hunits] using hbounded, by simpa [hunits] using hx.apart, ?_⟩
    intro o' ho'
    obtain rfl : o = o' := Option.some.inj (hcurrent.symm.trans ho')
    simpa [hunits] using hx.receives ho
  · have hspan := hx.receives ho
    refine ⟨fun u hu => ?_, ?_, fun o' ho' => ?_⟩
    · rw [lineCount_feed]
      rcases List.mem_append.mp (hunits ▸ hu) with hu | hu
      · exact hbounded u hu
      · rw [List.mem_singleton.mp hu]
        exact ⟨hspan.1, hspan.2.1, Nat.le_refl _⟩
    · rw [hunits, List.pairwise_append]
      refine ⟨hx.apart, List.pairwise_singleton _ _, fun u hu v hv => ?_⟩
      rw [List.mem_singleton.mp hv]
      exact hspan.2.2 u hu
    · rw [hcurrent] at ho'
      cases ho'
  · refine ⟨by simpa [hunits] using hbounded, by simpa [hunits] using hx.apart, fun o ho => ?_⟩
    rw [hcurrent] at ho
    cases ho

theorem foldl_feed (hx : Spanned x) (lines : List String) :
    Spanned (lines.foldl Extractor.feed x) :=
  foldl_feed_of_feed (fun _ line h => h.feed line) hx lines

/-- Two units do not begin at the same line. -/
theorem eq_of_beginLine (hx : Spanned x) {u v : DesignUnit} (hu : u ∈ x.units)
    (hv : v ∈ x.units) (h : u.beginLine = v.beginLine) : u = v := by
  have hlines : (x.units.map DesignUnit.beginLine).Nodup := by
    refine List.pairwise_map.mpr (hx.apart.imp_of_mem fun {u v} hu _ hlt => ?_)
    have := (hx.bounded u hu).2.1
    omega
  exact List.inj_on_of_nodup_map hlines hu hv h

/-- A unit found does not begin where the open one begins. -/
theorem beginLine_ne (hx : Spanned x) (ho : x.current = some o) {u : DesignUnit}
    (hu : u ∈ x.units) : u.beginLine ≠ o.unit.beginLine := by
  have := (hx.current o ho).2.2 u hu
  have := (hx.bounded u hu).2.1
  omega

end Spanned

/-- A line adds one unit at most, and that unit ends with it. -/
theorem units_feed (x : Extractor) (line : String) : ∃ found : Option DesignUnit,
    (x.feed line).units = x.units ++ found.toList ∧ ∀ u ∈ found, u.endLine = x.lineCount + 1 := by
  rcases feed_cases x line with ⟨-, -, -, -, hunits⟩ | ⟨o, -, -, -, hunits⟩ | ⟨-, -, hunits⟩
  · exact ⟨none, by simpa using hunits, fun _ hu => nomatch hu⟩
  · refine ⟨some (o.close (x.lineCount + 1)), hunits, fun u hu => ?_⟩
    rw [← Option.mem_some.mp hu, OpenUnit.endLine_close]
  · exact ⟨none, by simpa using hunits, fun _ hu => nomatch hu⟩

end Extractor

open Extractor

/-- However many lines have been read, the units found span disjoint ranges of them, in order
and all before the open unit, and the next line adds one unit at most, which ends there. -/
theorem spans_ordered (file library : String) (lines : List String) :
    let x := lines.foldl feed (start file library)
    (∀ u ∈ x.units, 1 ≤ u.beginLine ∧ u.beginLine ≤ u.endLine ∧ u.endLine ≤ lines.length) ∧
    (x.units.Pairwise fun u v => u.endLine < v.beginLine) ∧
    (∀ o, x.current = some o → 1 ≤ o.unit.beginLine ∧ o.unit.beginLine ≤ lines.length ∧
      ∀ u ∈ x.units, u.endLine < o.unit.beginLine) ∧
    ∀ line, ∃ found : Option DesignUnit, (x.feed line).units = x.units ++ found.toList ∧
      ∀ u ∈ found, u.endLine = lines.length + 1 := by
  intro x
  have hspanned : Spanned x := (Spanned.start file library).foldl_feed lines
  have hcount : x.lineCount = lines.length :=
    (lineCount_foldl_feed _ lines).trans (Nat.zero_add _)
  exact hcount ▸ ⟨hspanned.bounded, hspanned.apart, hspanned.current, units_feed x⟩

namespace Adjacent

/-- An entity on two lines, and a package begun on the next. -/
def lines : List String := ["entity e is", "end;", "package p is"]

/-- The entity. -/
def entity : DesignUnit := ⟨.entity, "E", "WORK", "f", 1, 2, [], { entries := [] }⟩

/-- The entity ends before the package begins. -/
theorem entity_before_package :
    let x := lines.foldl feed (start "f" "work")
    entity ∈ x.units ∧ ∃ o, x.current = some o ∧ entity.endLine < o.unit.beginLine := by
  intro x
  obtain ⟨-, -, hcurrent, -⟩ := spans_ordered "f" "work" lines
  have hread : entity ∈ x.units ∧ x.current.isSome = true := by decide +kernel
  obtain ⟨o, ho⟩ := Option.isSome_iff_exists.mp hread.2
  exact ⟨hread.1, o, ho, (hcurrent o ho).2.2 entity hread.1⟩

end Adjacent

end CompileOrder
