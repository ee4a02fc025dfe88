import CompileOrder.Proofs.DesignUnit.Renumbering
import CompileOrder.Proofs.Token.Case

/-!
# Letters of either case

A line in upper case leads from a state whose tokens are in upper case to the state that
the line itself leads to, its tokens in upper case, for the tokens of both have the same
symbols and names. What is found in a file holds no token, so texts that differ only in
the case of letters hold the same units.
-/

namespace CompileOrder

namespace Extractor

/-- The state with the tokens of its open unit in upper case. -/
def upper (x : Extractor) : Extractor := x.change id Token.upper []

/-- Reading a line in upper case gives the state in upper case. -/
theorem feed_upper (x : Extractor) (line : String) :
    x.upper.feed (Text.upper line) = (x.feed line).upper := by
  have hcount : ({ x.upper with lineCount := x.upper.lineCount + 1 } : Extractor) =
      { x with lineCount := x.lineCount + 1 }.upper := rfl
  rw [feed, hcount, feed, Lexer.tokenize_upper]
  exact take_change Token.faithful_upper { x with lineCount := x.lineCount + 1 } [] _

theorem foldl_feed_upper (x : Extractor) (lines : List String) :
    (lines.map Text.upper).foldl feed x.upper = (lines.foldl feed x).upper := by
  induction lines generalizing x with
  | nil => rfl
  | cons line lines ih => rw [List.map_cons, List.foldl_cons, feed_upper, ih, List.foldl_cons]

/-- The tokens of the open unit are no part of what has been found. -/
theorem finish_upper (x : Extractor) : x.upper.finish = x.finish := by
  rw [upper, finish_change, List.nil_append]
  have hunit : DesignUnit.renumber id = id := rfl
  rw [hunit, List.map_id, Option.map_id]
  rfl

end Extractor

/-- The units in a text are those in the text in upper case. -/
theorem extract_upper (text file library : String) :
    extract (Text.upper text) file library = extract text file library := by
  have hkeep : ∀ {d : Char}, d.isAlpha = false → ∀ c : Char, c.toUpper = d ↔ c = d :=
    fun hd _ => Text.toUpper_eq_iff hd
  have hlines : (Text.lines (Text.upper text).toList).map String.ofList =
      ((Text.lines text.toList).map String.ofList).map Text.upper := by
    rw [Text.toList_upper, Text.lines_map (hkeep (by decide)) (hkeep (by decide)), List.map_map,
      List.map_map]
    exact List.map_congr_left fun line _ => by simp [Text.upper]
  have hstart : Extractor.start file library = (Extractor.start file library).upper := rfl
  rw [extract, hlines, extractLines, hstart, Extractor.foldl_feed_upper, Extractor.finish_upper]
  rfl

/-- Texts and names of libraries that differ only in the case of letters give the same units,
with the same names, lines, uses and instances, and the same unit left open. -/
theorem extract_eq_of_sameButCase {text text' library library' : String}
    (htext : Text.SameButCase text text') (hlibrary : Text.SameButCase library library')
    (file : String) : extract text file library = extract text' file library' := by
  have hstart : Extractor.start file library = Extractor.start file library' := by
    rw [Extractor.start, Extractor.start, hlibrary.upper_eq]
  calc extract text file library
      = extract (Text.upper text') file library := by rw [← htext.upper_eq, extract_upper]
    _ = extract text' file library := extract_upper text' file library
    _ = extract text' file library' := by
        rw [extract, extract, extractLines, extractLines, hstart]

namespace MixedCase

/-- An architecture with an instance, and a package that is not closed. -/
def text : String :=
  "use Ieee.Math;\narchitecture Rtl of top is\n" ++
    "begin u1: entity Work.Adder(beh) port map (1.5e3);\nEnd rtl;\npackage p iſ"

/-- The same text with letters in the other case. -/
def other : String :=
  "USE ieee.math;\nArchitecture RTL Of Top Is\n" ++
    "Begin U1: ENTITY work.ADDER(Beh) Port Map (1.5E3);\neND RTL;\nPACKAGE P Iſ"

/-- Both texts hold the same units, under both spellings of their library. -/
theorem extract_text_eq_extract_other :
    Text.SameButCase text other ∧ Text.SameButCase "lib" "Lib" ∧
      extract text "f" "lib" = extract other "f" "Lib" ∧
      extract other "f" "Lib" =
        ⟨[⟨.architecture "RTL" [⟨"U1", some "LIB", .entity "ADDER" (some "BEH")⟩],
            "TOP", "LIB", "f", 2, 4, [], { entries := [("IEEE", ["MATH"]), ("LIB", ["TOP"])] }⟩],
          some ⟨.package, "P", "LIB", "f", 5, 5, [], { entries := [] }⟩⟩ := by
  have htext : Text.SameButCase text other := by
    rw [Text.SameButCase]
    decide +kernel
  have hlibrary : Text.SameButCase "lib" "Lib" := by
    rw [Text.SameButCase]
    decide
  exact ⟨htext, hlibrary, extract_eq_of_sameButCase htext hlibrary "f", by decide +kernel⟩

end MixedCase

end CompileOrder
