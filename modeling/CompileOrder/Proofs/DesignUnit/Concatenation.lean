import CompileOrder.Proofs.DesignUnit.Feeding
import CompileOrder.Proofs.DesignUnit.Renumbering

/-!
# Files put one after another

A line that closes a unit leaves nothing behind but the unit: no unit is open, and neither a
clause nor the use that a header implies is kept. From there on the next lines are read as
in a file of their own, save for the numbers of the lines. So the units of two files put one
after another are those of the first followed by those of the second, moved down, whenever
the first file leaves nothing open and nothing pending.
-/

namespace CompileOrder

namespace Extractor

variable {x : Extractor} {line : String}

/-- The line closes a unit: there are more units after it than before. -/
def Closes (x : Extractor) (line : String) : Prop :=
  x.units.length < (x.feed line).units.length

/-- Nothing is left behind by a line that closes a unit, whatever came before it. -/
theorem Closes.resting (h : x.Closes line) : (x.feed line).Resting := by
  rw [Closes] at h
  by_cases hreceives : ∃ o, x.Receives line o
  · obtain ⟨o, ho⟩ := hreceives
    cases hclosed : o.isClosed with
    | true => exact (ho.feed_closed hclosed).1
    | false =>
      rw [(ho.feed_open hclosed).2] at h
      exact absurd h (Nat.lt_irrefl _)
  · rw [(feed_of_not_receives hreceives).2.2] at h
    exact absurd h (Nat.lt_irrefl _)

/-- A state at rest is the start of a file, moved behind the lines and units before it. -/
theorem Resting.eq_after {file library : String} {lines : List String}
    (h : (lines.foldl feed (start file library)).Resting) :
    lines.foldl feed (start file library) =
      (start file library).after (· + lines.length)
        (lines.foldl feed (start file library)).units := by
  have hfile := file_foldl_feed (start file library) lines
  have hlibrary := library_foldl_feed (start file library) lines
  have hcount := lineCount_foldl_feed (start file library) lines
  obtain ⟨hcurrent, hlibraries, hclauses⟩ := h
  generalize lines.foldl feed (start file library) = x at *
  cases x
  simp_all [after, start]

/-- Lines after others are read like lines of a file of their own. -/
theorem foldl_feed_after (x : Extractor) (n : Nat) (found : List DesignUnit)
    (lines : List String) :
    lines.foldl feed (x.after (· + n) found) = (lines.foldl feed x).after (· + n) found := by
  induction lines generalizing x with
  | nil => rfl
  | cons line lines ih =>
    have hnext : x.lineCount + 1 + n = x.lineCount + n + 1 := by omega
    rw [List.foldl_cons, feed_after x found line hnext, ih, List.foldl_cons]

end Extractor

open Extractor

/-- Two files put one after another: if the first leaves no unit open and no clause pending,
the units are those of the first and, moved down by its length, those of the second, and so
is the unit left open; and the first leaves nothing if its last line closes a unit. -/
theorem extractLines_append (file library : String) (first second : List String) :
    ((first.foldl feed (start file library)).Resting →
      extractLines (first ++ second) file library =
        ⟨(extractLines first file library).units ++
            (extractLines second file library).units.map
              (DesignUnit.renumber (· + first.length)),
          (extractLines second file library).unterminated.map
            (DesignUnit.renumber (· + first.length))⟩) ∧
      ∀ before line, first = before ++ [line] →
        (before.foldl feed (start file library)).Closes line →
        (first.foldl feed (start file library)).Resting := by
  constructor
  · intro hrest
    calc extractLines (first ++ second) file library
        = (second.foldl feed (first.foldl feed (start file library))).finish := by
          rw [extractLines, List.foldl_append]
      _ = ((second.foldl feed (start file library)).after (· + first.length)
            (first.foldl feed (start file library)).units).finish := by
          rw [← foldl_feed_after, ← hrest.eq_after]
      _ = _ := finish_after _ _
  · rintro before line rfl hcloses
    rw [List.foldl_append]
    exact hcloses.resting

namespace Consecutive

/-- An entity under two clauses. -/
def first : List String := ["library ieee;", "use ieee.math.all;", "entity e is", "end e;"]

/-- An architecture with a clause of its own, and a package that is not closed. -/
def second : List String :=
  ["use work.p.all;", "architecture a of e is", "begin u : entity work.c port map (x);", "end a;",
    "package p is"]

/-- Behind the entity the architecture has only its own clause and its implied use. -/
theorem architecture_after_entity :
    (["library ieee;", "use ieee.math.all;", "entity e is"].foldl feed (start "f" "l")).Closes
        "end e;" ∧
      extractLines (first ++ second) "f" "l" =
        ⟨[⟨.entity, "E", "L", "f", 3, 4, ["IEEE"], { entries := [("IEEE", ["MATH"])] }⟩,
          ⟨.architecture "A" [⟨"U", some "L", .entity "C" none⟩], "E", "L", "f", 6, 8, [],
            { entries := [("L", ["E", "P"])] }⟩],
          some ⟨.package, "P", "L", "f", 9, 9, [], { entries := [] }⟩⟩ := by
  have hcloses :
      (["library ieee;", "use ieee.math.all;", "entity e is"].foldl feed (start "f" "l")).Closes
        "end e;" := by
    rw [Closes]
    decide +kernel
  obtain ⟨happend, hrest⟩ := extractLines_append "f" "l" first second
  refine ⟨hcloses, (happend (hrest _ _ rfl hcloses)).trans ?_⟩
  decide +kernel

end Consecutive

end CompileOrder
