import CompileOrder.Proofs.DesignUnit.Feeding
import CompileOrder.Proofs.DesignUnit.Renumbering
import CompileOrder.Proofs.Token.Comments

/-!
# Comments and blank lines

An annotated text is a text with idle lines put between its lines and comments put behind
them. Its reading keeps in step with that of the plain text: an idle line is only counted,
since an open unit was not closed before it and no token is added, and a line with a comment
is read as without it, under its new number. So the units found are those of the plain text
with the new numbers of their lines.
-/

namespace CompileOrder

open Lexer

/-- A line of a text with the idle lines put before it and the comment put behind it. -/
structure AnnotatedLine where
  /-- The idle lines before it. -/
  before : List String
  /-- The line itself. -/
  line : String
  /-- The text of the comment behind it. -/
  comment : Option String
  /-- The lines before it are idle. -/
  idle : ∀ l ∈ before, IsIdle l

/-- The lines of a text with idle lines and comments. -/
structure AnnotatedText where
  /-- Its lines, each with what is put before and behind it. -/
  lines : List AnnotatedLine
  /-- The idle lines after the last of them. -/
  after : List String
  /-- The lines after the last are idle. -/
  after_idle : ∀ l ∈ after, IsIdle l

/-- The line with its comment set off by a space. -/
def AnnotatedLine.commented (a : AnnotatedLine) : String :=
  match a.comment with
  | some text => a.line ++ " --" ++ text
  | none => a.line

/-- The idle lines and the line as they stand in the text. -/
def AnnotatedLine.written (a : AnnotatedLine) : List String := a.before ++ [a.commented]

/-- The new number of the `n`-th of some lines, counted from one. -/
def newNumber (as : List AnnotatedLine) (n : Nat) : Nat :=
  ((as.take n).flatMap AnnotatedLine.written).length

namespace AnnotatedText

/-- The text without what was put in. -/
def plain (t : AnnotatedText) : List String := t.lines.map AnnotatedLine.line

/-- The text with what was put in. -/
def written (t : AnnotatedText) : List String :=
  t.lines.flatMap AnnotatedLine.written ++ t.after

end AnnotatedText

/-- A comment behind a line changes none of its tokens. -/
theorem AnnotatedLine.tokenize_commented (a : AnnotatedLine) (n : Nat) :
    tokenize a.commented n = tokenize a.line n := by
  rw [commented]
  split
  · exact tokenize_append_comment a.line _ n
  · rfl

@[simp] theorem newNumber_zero (as : List AnnotatedLine) : newNumber as 0 = 0 := rfl

theorem newNumber_cons_succ (a : AnnotatedLine) (as : List AnnotatedLine) (n : Nat) :
    newNumber (a :: as) (n + 1) = a.before.length + 1 + newNumber as n := by
  simp only [newNumber, List.take_succ_cons, List.flatMap_cons, List.length_append,
    AnnotatedLine.written, List.length_singleton]

/-- A line stands where its new number says. -/
theorem getElem?_newNumber {as : List AnnotatedLine} {n : Nat} {a : AnnotatedLine}
    (ha : as[n]? = some a) (rest : List String) :
    (as.flatMap AnnotatedLine.written ++ rest)[newNumber as (n + 1) - 1]? = some a.commented := by
  induction as generalizing n with
  | nil => cases ha
  | cons b as ih =>
    rw [newNumber_cons_succ, List.flatMap_cons, List.append_assoc]
    have hlength : b.written.length = b.before.length + 1 := by simp [AnnotatedLine.written]
    cases n with
    | zero =>
      obtain rfl : b = a := by simpa using ha
      rw [newNumber_zero, List.getElem?_append_left (by omega)]
      simp [AnnotatedLine.written]
    | succ n =>
      have hpos : 1 ≤ newNumber as (n + 1) := by
        cases as with
        | nil => cases ha
        | cons c as => rw [newNumber_cons_succ]; omega
      have hindex : b.before.length + 1 + newNumber as (n + 1) - 1 =
          b.written.length + (newNumber as (n + 1) - 1) := by omega
      rw [hindex, List.getElem?_append_right (by omega), Nat.add_sub_cancel_left]
      exact ih ha

namespace Extractor

variable {x : Extractor} {f : Nat → Nat}

/-- The open unit, if there is one, has not been closed. -/
def Unclosed (x : Extractor) : Prop := ∀ o, x.current = some o → o.isClosed = false

/-- A unit that a line closes is open no longer. -/
theorem unclosed_feed (x : Extractor) (line : String) : (x.feed line).Unclosed := by
  intro o ho
  rcases feed_cases x line with ⟨received, -, hclosed, hcurrent, -⟩ | ⟨_, -, -, hcurrent, -⟩ |
    ⟨-, hcurrent, -⟩
  · exact Option.some.inj (hcurrent.symm.trans ho) ▸ hclosed
  · exact nomatch hcurrent.symm.trans ho
  · exact nomatch hcurrent.symm.trans ho

/-- Without tokens nothing happens while the open unit has not been closed. -/
theorem take_nil (hx : x.Unclosed) : x.take [] = x := by
  cases hcurrent : x.current with
  | none => simp only [take, hcurrent, Clause.readAll]; rfl
  | some o =>
    have hsame : { x with current := some o } = x := by rw [← hcurrent]
    simp only [take, hcurrent, advance, List.append_nil, hx o hcurrent, Bool.false_eq_true,
      if_false, hsame]

/-- An idle line is only counted. -/
theorem feed_idleLine (hx : x.Unclosed) {line : String} (hidle : IsIdle line) :
    x.feed line = { x with lineCount := x.lineCount + 1 } := by
  have hcounted : ({ x with lineCount := x.lineCount + 1 } : Extractor).Unclosed := hx
  simp only [Extractor.feed, hidle.tokenize, take_nil hcounted]

theorem foldl_feed_idleLines (hx : x.Unclosed) {lines : List String}
    (hidle : ∀ l ∈ lines, IsIdle l) :
    lines.foldl feed x = { x with lineCount := x.lineCount + lines.length } := by
  induction lines generalizing x with
  | nil => rfl
  | cons line lines ih =>
    obtain ⟨hline, hlines⟩ := List.forall_mem_cons.mp hidle
    rw [List.foldl_cons, ih (unclosed_feed x line) hlines, feed_idleLine hx hline, List.length_cons,
      Nat.add_assoc, Nat.add_comm 1]

/-- The state with its lines renumbered when `m` lines have been read. -/
def moved (x : Extractor) (f : Nat → Nat) (m : Nat) : Extractor :=
  { x.after f [] with lineCount := m }

/-- Whether a unit is closed does not depend on the numbers of its lines. -/
theorem Unclosed.moved (hx : x.Unclosed) (m : Nat) : (x.moved f m).Unclosed := by
  intro o ho
  obtain ⟨o', ho', rfl⟩ := Option.map_eq_some_iff.mp ho
  exact (OpenUnit.isClosed_change (Token.faithful_renumber f) o').trans (hx o' ho')

theorem foldl_feed_idleLines_moved (hx : x.Unclosed) {lines : List String}
    (hidle : ∀ l ∈ lines, IsIdle l) (m : Nat) :
    lines.foldl feed (x.moved f m) = x.moved f (m + lines.length) :=
  foldl_feed_idleLines (hx.moved m) hidle

/-- A line with a comment is read as without it, under its new number. -/
theorem feed_commented_moved (a : AnnotatedLine) {m : Nat} (hm : f (x.lineCount + 1) = m + 1) :
    (x.moved f m).feed a.commented = (x.feed a.line).moved f (m + 1) := by
  have hcount : ({ x.moved f m with lineCount := m + 1 } : Extractor) =
      { x with lineCount := x.lineCount + 1 }.change f (Token.renumber f) [] := by
    simp only [moved, after_eq_change, change, hm]
  have hmoved : (x.feed a.line).change f (Token.renumber f) [] =
      (x.feed a.line).moved f (m + 1) := by
    simp only [moved, after_eq_change, change, lineCount_feed, hm]
  calc (x.moved f m).feed a.commented
      = ({ x.moved f m with lineCount := m + 1 } : Extractor).take
          (tokenize a.commented (m + 1)) := rfl
    _ = ({ x with lineCount := x.lineCount + 1 }.change f (Token.renumber f) []).take
          ((tokenize a.line (x.lineCount + 1)).map (Token.renumber f)) := by
        rw [hcount, a.tokenize_commented, ← hm, tokenize_renumber f a.line (x.lineCount + 1)]
    _ = (x.feed a.line).change f (Token.renumber f) [] :=
        take_change (Token.faithful_renumber f) _ [] _
    _ = (x.feed a.line).moved f (m + 1) := hmoved

/-- The reading of annotated lines keeps in step with that of the plain ones. -/
theorem foldl_feed_written (hx : x.Unclosed) (as : List AnnotatedLine) {m : Nat}
    (hf : ∀ k, f (x.lineCount + k) = m + newNumber as k) :
    (as.flatMap AnnotatedLine.written).foldl feed (x.moved f m) =
        ((as.map AnnotatedLine.line).foldl feed x).moved f
          (m + (as.flatMap AnnotatedLine.written).length) ∧
      ((as.map AnnotatedLine.line).foldl feed x).Unclosed := by
  induction as generalizing x m with
  | nil => exact ⟨rfl, hx⟩
  | cons a as ih =>
    have hline : f (x.lineCount + 1) = m + a.before.length + 1 := by
      rw [hf 1, newNumber_cons_succ, newNumber_zero, Nat.add_zero, Nat.add_assoc]
    have hrest : ∀ k, f ((x.feed a.line).lineCount + k) =
        m + a.before.length + 1 + newNumber as k := by
      intro k
      rw [lineCount_feed, Nat.add_assoc, Nat.add_comm 1, hf, newNumber_cons_succ]
      omega
    have hblock : a.written.foldl feed (x.moved f m) =
        (x.feed a.line).moved f (m + a.before.length + 1) := by
      rw [AnnotatedLine.written, List.foldl_append, foldl_feed_idleLines_moved hx a.idle,
        List.foldl_cons, List.foldl_nil, feed_commented_moved a hline]
    have hlength : m + ((a :: as).flatMap AnnotatedLine.written).length =
        m + a.before.length + 1 + (as.flatMap AnnotatedLine.written).length := by
      simp only [List.flatMap_cons, List.length_append, AnnotatedLine.written,
        List.length_singleton]
      omega
    rw [hlength, List.flatMap_cons, List.foldl_append, hblock, List.map_cons, List.foldl_cons]
    exact ih (unclosed_feed x a.line) hrest

/-- What has been found when a file ends after `m` lines. -/
theorem finish_moved (x : Extractor) (m : Nat) :
    (x.moved f m).finish =
      ⟨x.finish.units.map (DesignUnit.renumber f),
        x.finish.unterminated.map fun u =>
          { u with beginLine := f u.beginLine, endLine := m }⟩ := by
  cases x with
  | mk _ _ _ _ _ current _ => cases current <;> rfl

end Extractor

open Extractor

/-- Comments and blank lines are invisible: the units of a text with idle lines and comments
are those of the plain text with the new numbers of their lines, and so is the unit left open,
which ends with the last line that was read; and each line stands where its new number says. -/
theorem extractLines_written (t : AnnotatedText) (file library : String) :
    extractLines t.written file library =
        ⟨(extractLines t.plain file library).units.map
            (DesignUnit.renumber (newNumber t.lines)),
          (extractLines t.plain file library).unterminated.map fun u =>
            { u with beginLine := newNumber t.lines u.beginLine, endLine := t.written.length }⟩ ∧
      ∀ n : Fin t.lines.length,
        t.written[newNumber t.lines (n + 1) - 1]? = some t.lines[n].commented := by
  have hstart : start file library = (start file library).moved (newNumber t.lines) 0 := rfl
  have hunclosed : (start file library).Unclosed := fun _ h => nomatch h
  obtain ⟨hrun, hend⟩ := foldl_feed_written (f := newNumber t.lines) (m := 0) hunclosed t.lines
    fun k => by rw [Nat.zero_add]; exact congrArg _ (Nat.zero_add k)
  refine ⟨?_, fun n => getElem?_newNumber (List.getElem?_eq_getElem n.isLt) t.after⟩
  calc extractLines t.written file library
      = (t.after.foldl feed ((t.lines.flatMap AnnotatedLine.written).foldl feed
          ((start file library).moved (newNumber t.lines) 0))).finish := by
        rw [extractLines, AnnotatedText.written, List.foldl_append, ← hstart]
    _ = (((t.plain.foldl feed (start file library)).moved (newNumber t.lines)
          (t.written.length))).finish := by
        rw [hrun, foldl_feed_idleLines_moved hend t.after_idle, Nat.zero_add, AnnotatedText.plain,
          AnnotatedText.written, List.length_append]
    _ = _ := finish_moved _ _

namespace Annotated

theorem idle : ∀ l ∈ ["", "  -- end e;"], IsIdle l := by
  intro l hl
  simp only [List.mem_cons, List.not_mem_nil, or_false] at hl
  rcases hl with rfl | rfl
  · exact ⟨[], [], rfl, List.forall_mem_nil _, Or.inl rfl⟩
  · exact ⟨[' ', ' '], "-- end e;".toList, by decide, List.all_eq_true.mp (by decide),
      Or.inr ⟨_, rfl⟩⟩

/-- An entity of two lines among comments that look like its end. -/
def text : AnnotatedText where
  lines := [⟨["", "  -- end e;"], "entity e is", some " end e;", idle⟩,
    ⟨["", "  -- end e;"], "end e;", none, idle⟩]
  after := ["", "  -- end e;"]
  after_idle := idle

example : (extractLines text.written "f" "l").units =
    [⟨.entity, "E", "L", "f", 3, 6, [], { entries := [] }⟩] := by decide +kernel

end Annotated

end CompileOrder
