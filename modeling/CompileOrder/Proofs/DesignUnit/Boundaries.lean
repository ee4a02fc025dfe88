import CompileOrder.Proofs.DesignUnit.Ending
import CompileOrder.Proofs.DesignUnit.Spans
import Mathlib.Order.Lattice.Nat

/-!
# Where units end

A unit collects the tokens of its lines until they end in one of the accepted forms, so it
ends at the first line where they do, and it is left open when there is no such line. The
tokens are looked at after every line, also after a line without any; as long as they do not
end the unit, looking again does not either.
-/

namespace CompileOrder

/-- The tokens of consecutive lines, the first of them numbered `number`. -/
def Lexer.tokenizeFrom (number : Nat) (lines : List String) : List Token :=
  (lines.zipIdx number).flatMap fun (line, n) => tokenize line n

theorem Lexer.tokenizeFrom_cons (number : Nat) (line : String) (lines : List String) :
    tokenizeFrom number (line :: lines) =
      tokenize line number ++ tokenizeFrom (number + 1) lines := rfl

/-- The unit with the tokens of further lines, the first of them numbered `number`. -/
def OpenUnit.through (o : OpenUnit) (number : Nat) (lines : List String) : OpenUnit :=
  { o with tokens := o.tokens ++ Lexer.tokenizeFrom number lines }

@[simp] theorem OpenUnit.unit_through (o : OpenUnit) (number : Nat) (lines : List String) :
    (o.through number lines).unit = o.unit := rfl

@[simp] theorem OpenUnit.through_nil (o : OpenUnit) (number : Nat) : o.through number [] = o := by
  simp [through, Lexer.tokenizeFrom]

theorem OpenUnit.through_cons (o : OpenUnit) (number : Nat) (line : String)
    (lines : List String) :
    o.through number (line :: lines) =
      { o with tokens := o.tokens ++ Lexer.tokenize line number }.through (number + 1) lines := by
  simp [through, Lexer.tokenizeFrom_cons]

namespace Extractor

variable {x : Extractor} {line : String} {o : OpenUnit} {n : Nat}

/-- The next line goes to the unit that a line leaves open. -/
theorem Receives.next (h : x.Receives line o) (hn : x.lineCount + 1 = n)
    (ho : o.isClosed = false) (line' : String) :
    (x.feed line).Receives line'
      { o with tokens := o.tokens ++ Lexer.tokenize line' (n + 1) } := by
  have hcontinued : (x.feed line).Receives line' _ := .continued (h.feed_open ho).1
  rwa [lineCount_feed, hn] at hcontinued

/-- As long as no line closes the unit, the last of some lines goes to it as well, with the
tokens of all of them. -/
theorem Receives.exists_last (h : x.Receives line o) (hn : x.lineCount + 1 = n)
    (lines : List String)
    (hopen : ∀ k < lines.length, (o.through (n + 1) (lines.take k)).isClosed = false) :
    ∃ (y : Extractor) (last : String), lines.foldl feed (x.feed line) = y.feed last ∧
      y.Receives last (o.through (n + 1) lines) ∧ y.units = x.units ∧
      y.lineCount + 1 = n + lines.length := by
  induction lines generalizing x line o n with
  | nil => exact ⟨x, line, rfl, by simpa using h, rfl, hn⟩
  | cons line' lines ih =>
    have ho : o.isClosed = false := by simpa using hopen 0 (by simp)
    have hopen' : ∀ k < lines.length,
        ({ o with tokens := o.tokens ++ Lexer.tokenize line' (n + 1) }.through (n + 1 + 1)
          (lines.take k)).isClosed = false := by
      intro k hk
      have hclosed := hopen (k + 1) (by simpa using hk)
      rwa [List.take_succ_cons, OpenUnit.through_cons] at hclosed
    obtain ⟨y, last, hrun, hreceives, hunits, hcount⟩ :=
      ih (h.next hn ho line') (by rw [lineCount_feed, hn]) hopen'
    rw [OpenUnit.through_cons]
    refine ⟨y, last, hrun, hreceives, hunits.trans (h.feed_open ho).2, ?_⟩
    rw [hcount, List.length_cons]
    omega

/-- A unit that none of some lines closes is open after them, with all their tokens. -/
theorem Receives.run_open (h : x.Receives line o) (hn : x.lineCount + 1 = n)
    (lines : List String)
    (hopen : ∀ k ≤ lines.length, (o.through (n + 1) (lines.take k)).isClosed = false) :
    (lines.foldl feed (x.feed line)).current = some (o.through (n + 1) lines) := by
  obtain ⟨y, last, hrun, hreceives, -⟩ := h.exists_last hn lines fun k hk => hopen k hk.le
  have hend : (o.through (n + 1) lines).isClosed = false := by
    simpa using hopen lines.length le_rfl
  rw [hrun]
  exact (hreceives.feed_open hend).1

/-- A unit that the last of some lines is the first to close has been found after them, and
nothing is left behind. -/
theorem Receives.run_closed (h : x.Receives line o) (hn : x.lineCount + 1 = n)
    (lines : List String)
    (hopen : ∀ k < lines.length, (o.through (n + 1) (lines.take k)).isClosed = false)
    (hclosed : (o.through (n + 1) lines).isClosed = true) :
    (lines.foldl feed (x.feed line)).Resting ∧
      (lines.foldl feed (x.feed line)).units =
        x.units ++ [(o.through (n + 1) lines).close (n + lines.length)] := by
  obtain ⟨y, last, hrun, hreceives, hunits, hcount⟩ := h.exists_last hn lines hopen
  rw [hrun, ← hunits, ← hcount]
  exact hreceives.feed_closed hclosed

end Extractor

/-- The kind of a unit without its instances, as a header declares it. -/
def UnitKind.declared : UnitKind → UnitKind
  | .entity => .entity
  | .architecture name _ => .architecture name []
  | .package => .package
  | .packageBody => .packageBody

/-- The unit is the one that a header opened on a line. -/
structure DesignUnit.OpenedBy (u : DesignUnit) (h : Header) (line : Nat) : Prop where
  /-- It has the kind of the header. -/
  kind : u.kind.declared = h.kind.declared
  /-- It has the name of the header. -/
  name : u.name = h.name
  /-- It begins on the line. -/
  beginLine : u.beginLine = line

namespace DesignUnit.OpenedBy

variable {h : Header} {line : Nat}

/-- Closing a unit changes neither its kind nor its name or first line. -/
theorem close {o : OpenUnit} (hu : o.unit.OpenedBy h line) (last : Nat) :
    (o.close last).OpenedBy h line where
  kind := by
    rw [← hu.kind]
    simp only [OpenUnit.close]
    cases o.unit.kind <;> rfl
  name := hu.name
  beginLine := hu.beginLine

/-- Nor does the number of the last line read, for a unit that is left open. -/
theorem left_open {u : DesignUnit} (hu : u.OpenedBy h line) (last : Nat) :
    { u with endLine := last }.OpenedBy h line := ⟨hu.kind, hu.name, hu.beginLine⟩

end DesignUnit.OpenedBy

namespace Extractor

variable {x : Extractor} {line : String} {h : Header} {tokens : List Token} {n : Nat}

theorem openedBy_opening (x : Extractor) (line : String) (h : Header) (tokens : List Token) :
    (x.opening line h tokens).unit.OpenedBy h (x.lineCount + 1) where
  kind := by simp only [opening, openUnit, DesignUnit.declare]
  name := by simp only [opening, openUnit, DesignUnit.declare]
  beginLine := beginLine_opening x line h tokens

/-- With the tokens of further lines, the unit that a header opened is closed exactly when
these tokens end in an accepted form. -/
theorem isClosed_opening (hnew : h.instantiates = false) (lines : List String) :
    ((x.opening line h tokens).through n lines).isClosed = true ↔
      h.EndsIn (tokens ++ Lexer.tokenizeFrom n lines) :=
  OpenUnit.isClosed_iff (o := (x.opening line h tokens).through n lines) hnew

/-- If no line closes the unit that a header opened, it is open in the end. -/
theorem Opens.open_of_isClosed (hopens : x.Opens line h tokens) (hn : x.lineCount + 1 = n)
    (lines : List String)
    (hopen : ∀ k ≤ lines.length,
      ((x.opening line h tokens).through (n + 1) (lines.take k)).isClosed = false) :
    ∃ o, (lines.foldl feed (x.feed line)).current = some o ∧ o.unit.OpenedBy h n :=
  ⟨_, (Receives.opened hopens).run_open hn lines hopen, hn ▸ openedBy_opening x line h tokens⟩

/-- If some line is the first to close the unit that a header opened, the unit is found with
its end at that line. -/
theorem Opens.found_of_isClosed (hopens : x.Opens line h tokens) (hn : x.lineCount + 1 = n)
    (lines : List String) {k : Nat} (hk : k ≤ lines.length)
    (hclosed : ((x.opening line h tokens).through (n + 1) (lines.take k)).isClosed = true)
    (hfirst : ∀ j < k,
      ((x.opening line h tokens).through (n + 1) (lines.take j)).isClosed = false) :
    ∃ u ∈ (lines.foldl feed (x.feed line)).units, u.OpenedBy h n ∧ u.endLine = n + k := by
  have hlength : (lines.take k).length = k := List.length_take_of_le hk
  have hopen : ∀ j < (lines.take k).length, ((x.opening line h tokens).through (n + 1)
      ((lines.take k).take j)).isClosed = false := by
    intro j hj
    rw [List.take_take, Nat.min_eq_left (by omega)]
    exact hfirst j (by omega)
  obtain ⟨-, hunits⟩ := (Receives.opened hopens).run_closed hn (lines.take k) hopen hclosed
  have hprefix := units_prefix_foldl_feed ((lines.take k).foldl feed (x.feed line)) (lines.drop k)
  rw [← List.foldl_append, List.take_append_drop, hunits] at hprefix
  have hopened := openedBy_opening x line h tokens
  rw [hn, ← OpenUnit.unit_through _ (n + 1) (lines.take k)] at hopened
  refine ⟨_, hprefix.subset (List.mem_append_right _ (List.mem_singleton_self _)),
    hopened.close _, ?_⟩
  rw [OpenUnit.endLine_close, hlength]

/-- Of the units found, a header opened one only. -/
theorem Spanned.exists_endLine_iff (hx : Spanned x) {u : DesignUnit} (hu : u ∈ x.units)
    (hopened : u.OpenedBy h n) (l : Nat) :
    (∃ v ∈ x.units, v.OpenedBy h n ∧ v.endLine = l) ↔ u.endLine = l := by
  constructor
  · rintro ⟨v, hv, hv', rfl⟩
    rw [hx.eq_of_beginLine hu hv (hopened.beginLine.trans hv'.beginLine.symm)]
  · exact fun hend => ⟨u, hu, hopened, hend⟩

/-- A unit found and the open one were not opened by the same header. -/
theorem Spanned.not_openedBy (hx : Spanned x) {o : OpenUnit} (ho : x.current = some o)
    (hopened : o.unit.OpenedBy h n) : ∀ u ∈ x.units, ¬ u.OpenedBy h n := fun _ hu hu' =>
  hx.beginLine_ne ho hu (hu'.beginLine.trans hopened.beginLine.symm)

/-- The unit left open when the file ends is the open one. -/
theorem exists_unterminated_iff :
    (∃ u, x.finish.unterminated = some u ∧ u.OpenedBy h n) ↔
      ∃ o, x.current = some o ∧ o.unit.OpenedBy h n := by
  constructor
  · rintro ⟨u, hu, hopened⟩
    obtain ⟨o, ho, rfl⟩ := Option.map_eq_some_iff.mp hu
    exact ⟨o, ho, hopened.kind, hopened.name, hopened.beginLine⟩
  · rintro ⟨o, ho, hopened⟩
    exact ⟨_, Option.map_eq_some_iff.mpr ⟨o, ho, rfl⟩, hopened.left_open _⟩

/-- The unit that a header opened is found with its end at the first line that closes it, and
it is the open one if there is no such line. -/
theorem Opens.boundaries (hx : Spanned x) (hopens : x.Opens line h tokens)
    (hn : x.lineCount + 1 = n) (after : List String) {ends : Set Nat}
    (hrange : ∀ l ∈ ends, n ≤ l ∧ l ≤ n + after.length)
    (hclosed : ∀ k ≤ after.length,
      (((x.opening line h tokens).through (n + 1) (after.take k)).isClosed = true ↔
        n + k ∈ ends)) :
    let z := after.foldl feed (x.feed line)
    (∀ l, (∃ u ∈ z.units, u.OpenedBy h n ∧ u.endLine = l) ↔ IsLeast ends l) ∧
      ((∃ o, z.current = some o ∧ o.unit.OpenedBy h n) ↔ ends = ∅) := by
  intro z
  have hspanned : Spanned z := (hx.feed line).foldl_feed after
  have hopen : ∀ k ≤ after.length, n + k ∉ ends →
      ((x.opening line h tokens).through (n + 1) (after.take k)).isClosed = false :=
    fun k hk hnot => Bool.eq_false_iff.mpr fun h => hnot ((hclosed k hk).mp h)
  rcases Set.eq_empty_or_nonempty ends with hempty | hnonempty
  · obtain ⟨o, hcurrent, hopened⟩ := hopens.open_of_isClosed hn after fun k hk =>
      hopen k hk (hempty ▸ Set.notMem_empty _)
    refine ⟨fun l => iff_of_false ?_ ?_, iff_of_true ⟨o, hcurrent, hopened⟩ hempty⟩
    · rintro ⟨u, hu, hu', -⟩
      exact hspanned.not_openedBy hcurrent hopened u hu hu'
    · rw [hempty]
      exact fun hleast => hleast.1
  · have hleast : IsLeast ends (sInf ends) :=
      ⟨Nat.sInf_mem hnonempty, fun _ hl => Nat.sInf_le hl⟩
    obtain ⟨k, hk⟩ := Nat.exists_eq_add_of_le (hrange _ hleast.1).1
    rw [hk] at hleast
    have hle : k ≤ after.length := by
      have := (hrange _ hleast.1).2
      omega
    obtain ⟨u, hu, hopened, hend⟩ := hopens.found_of_isClosed hn after hle
      ((hclosed k hle).mpr hleast.1) fun j hj => hopen j (by omega) fun hmem => by
        have := hleast.2 hmem
        omega
    refine ⟨fun l => ?_, iff_of_false ?_ hnonempty.ne_empty⟩
    · rw [hspanned.exists_endLine_iff hu hopened, hend]
      exact ⟨fun h => h ▸ hleast, fun hl => hleast.unique hl⟩
    · rintro ⟨o, ho, ho'⟩
      exact hspanned.not_openedBy ho ho' u hu hopened

/-- A unit that a header opened ends at the first line, counted from the header on, at which its
tokens satisfy what closes it. It is found with its end there, and if no line is such, it is the
unit left open when the file ends. -/
theorem boundaries_of_closing (file library : String) (before : List String) (line : String)
    (after : List String) {P : List Token → Prop}
    (hopens : (before.foldl feed (start file library)).Opens line h tokens)
    (hclosing : ∀ n lines,
      (((before.foldl feed (start file library)).opening line h tokens).through n
          lines).isClosed = true ↔
        P (tokens ++ Lexer.tokenizeFrom n lines)) :
    let lines := before ++ line :: after
    let first := before.length + 1
    let ends := {l | first ≤ l ∧ l ≤ lines.length ∧
      P (tokens ++ Lexer.tokenizeFrom (first + 1) (after.take (l - first)))}
    (∀ l, (∃ u ∈ (extractLines lines file library).units, u.OpenedBy h first ∧ u.endLine = l) ↔
        IsLeast ends l) ∧
      ((∃ u, (extractLines lines file library).unterminated = some u ∧ u.OpenedBy h first) ↔
        ends = ∅) := by
  intro lines first ends
  have hn : (before.foldl feed (start file library)).lineCount + 1 = first := by
    rw [lineCount_foldl_feed]
    exact congrArg (· + 1) (Nat.zero_add _)
  have hlength : lines.length = first + after.length := by
    simp only [lines, first, List.length_append, List.length_cons]
    omega
  have hextract : extractLines lines file library =
      (after.foldl feed ((before.foldl feed (start file library)).feed line)).finish := by
    rw [extractLines, List.foldl_append, List.foldl_cons]
  have hends : ∀ k ≤ after.length,
      ((((before.foldl feed (start file library)).opening line h tokens).through (first + 1)
          (after.take k)).isClosed = true ↔
        first + k ∈ ends) := by
    intro k hk
    rw [hclosing]
    simp [ends, hlength, hk]
  rw [hextract, exists_unterminated_iff]
  exact hopens.boundaries ((Spanned.start file library).foldl_feed before) hn after
    (fun l hl => ⟨hl.1, hlength ▸ hl.2.1⟩) hends

end Extractor

open Extractor

/-- A unit, other than a package made by instantiation, ends at the first line, counted from
its header on, where its tokens end in an accepted form. It is found with its end there, and
if no line is such, it is the unit left open when the file ends. -/
theorem unit_boundaries (file library : String) (before : List String) (line : String)
    (after : List String) {h : Header} {tokens : List Token}
    (hopens : (before.foldl feed (start file library)).Opens line h tokens)
    (hnew : h.instantiates = false) :
    let lines := before ++ line :: after
    let first := before.length + 1
    let ends := {l | first ≤ l ∧ l ≤ lines.length ∧
      h.EndsIn (tokens ++ Lexer.tokenizeFrom (first + 1) (after.take (l - first)))}
    (∀ l, (∃ u ∈ (extractLines lines file library).units, u.OpenedBy h first ∧ u.endLine = l) ↔
        IsLeast ends l) ∧
      ((∃ u, (extractLines lines file library).unterminated = some u ∧ u.OpenedBy h first) ↔
        ends = ∅) :=
  boundaries_of_closing file library before line after hopens fun _ => isClosed_opening hnew

namespace SpreadEnd

/-- A clause and the header of an architecture on one line. -/
def line : String := "use work.p.all; architecture rtl of top is"

/-- Ends inside the architecture, its own end spread over three lines, one of them blank, and
the next header. -/
def after : List String :=
  ["begin p : process begin", "end process; end;", "end", "", "RTL;", "package p is"]

/-- The header of the architecture. -/
def header : Header := ⟨.architecture "RTL" [], "TOP", false⟩

/-- The tokens of its line from the header on. -/
def tokens : List Token :=
  [⟨.keyword .ARCHITECTURE, "ARCHITECTURE", 2⟩, ⟨.identifier, "rtl", 2⟩, ⟨.keyword .OF, "OF", 2⟩,
    ⟨.identifier, "top", 2⟩, ⟨.keyword .IS, "IS", 2⟩]

theorem opens : (["library ieee;"].foldl feed (start "f" "l")).Opens line header tokens where
  idle := by decide +kernel
  rest_eq := by decide +kernel
  header := by decide +kernel

/-- The architecture ends where its name follows `end` at last. -/
theorem architecture_ends_at_name :
    (["library ieee;"].foldl feed (start "f" "l")).Opens line header tokens ∧
      header.instantiates = false ∧
      IsLeast {l | 2 ≤ l ∧ l ≤ 8 ∧
        header.EndsIn (tokens ++ Lexer.tokenizeFrom 3 (after.take (l - 2)))} 7 := by
  have hfound : ⟨.architecture "RTL" [], "TOP", "L", "f", 2, 7, ["IEEE"],
      { entries := [("L", ["P", "TOP"])] }⟩ ∈
      (extractLines (["library ieee;"] ++ line :: after) "f" "l").units := by decide +kernel
  have hleast := ((unit_boundaries "f" "l" ["library ieee;"] line after opens rfl).1 7).mp
    ⟨_, hfound, ⟨rfl, rfl, rfl⟩, rfl⟩
  exact ⟨opens, rfl, hleast⟩

end SpreadEnd

end CompileOrder
