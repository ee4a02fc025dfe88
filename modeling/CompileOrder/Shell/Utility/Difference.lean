import CompileOrder.Shell.Utility.Alignment

/-!
# Differences of lines

The changes that make the lines of one file out of those of another, and the forms in which
they are written: one after the other, in groups with the lines around them, as commands of a
line editor, or side by side.
-/

namespace CompileOrder.Shell.Utility

/-- A change: the number of lines before it in both files, the lines that are removed and
those that are added. -/
structure Change where
  /-- The lines before it in the first file. -/
  first : Nat
  /-- The lines before it in the second file. -/
  second : Nat
  /-- The lines that are removed. -/
  removed : List String := []
  /-- The lines that are added. -/
  added : List String := []
  /-- Whether it does not count. -/
  isIgnored : Bool := false

namespace Change

/-- The number of lines up to the end of the change in the first file. -/
def stop (c : Change) : Nat := c.first + c.removed.length

/-- The number of lines up to the end of the change in the second file. -/
def secondStop (c : Change) : Nat := c.second + c.added.length

/-- The letter of a change: lines are added, deleted or changed. -/
def letter (c : Change) : String :=
  if c.removed.isEmpty then "a" else if c.added.isEmpty then "d" else "c"

end Change

/-- The number of lines that two lists have in common at their start. -/
def commonLines : List String → List String → Nat
  | a :: as, b :: bs => if a == b then commonLines as bs + 1 else 0
  | _, _ => 0

/-- The classes of lines: the first place of a line with the same key, among all lines. -/
def lineClasses (keys : List String) : List Nat := keys.map fun k => keys.idxOf k

/-- The changes between lists of lines of which flags say which change, after `i` and `j` lines
in the two files, in at most `n` steps. -/
def changesFrom : Nat → Nat → Nat → List (String × Bool) → List (String × Bool) → List Change
  | 0, _, _, _, _ => []
  | n + 1, i, j, as, bs =>
    let removed := as.takeWhile fun l => l.2
    let added := bs.takeWhile fun l => l.2
    let i' := i + removed.length
    let j' := j + added.length
    let as := as.drop removed.length
    let bs := bs.drop added.length
    let rest := if as.isEmpty && bs.isEmpty then []
      else changesFrom n (i' + 1) (j' + 1) as.tail bs.tail
    if removed.isEmpty && added.isEmpty then rest
    else ⟨i, j, removed.map Prod.fst, added.map Prod.fst, false⟩ :: rest

/-- The changes between two lists of lines that are compared by keys. Lines that are the same in
both files at their starts and ends are left alone, but for `margin` lines. -/
def changes (key : String → String) (margin : Nat) (as bs : List String) : List Change :=
  let skipped := commonLines as bs - margin
  let as := as.drop skipped
  let bs := bs.drop skipped
  let after := commonLines as.reverse bs.reverse - margin
  let as := as.take (as.length - after)
  let bs := bs.take (bs.length - after)
  let classes := lineClasses ((as ++ bs).map key)
  let found := Alignment.changed
    ⟨(classes.take as.length).toArray, (classes.drop as.length).toArray⟩
  changesFrom (as.length + bs.length + 1) skipped skipped (as.zip found.first.toList)
    (bs.zip found.second.toList)

/-- Changes in groups that are at most some lines apart; closer ones if one does not count. -/
def changeGroups (context : Nat) : List Change → List (List Change)
  | [] => []
  | c :: rest =>
    match changeGroups context rest with
    | (d :: ds) :: groups =>
      let limit := if c.isIgnored || d.isIgnored then context else 2 * context + 1
      if d.first < c.stop + limit then (c :: d :: ds) :: groups
      else [c] :: (d :: ds) :: groups
    | groups => [c] :: groups

/-- A text with blanks in the place of tabs, which go on to the next column of eight. -/
def withoutTabs : Nat → List Char → List Char
  | _, [] => []
  | column, '\t' :: rest =>
    List.replicate (8 - column % 8) ' ' ++ withoutTabs (column + (8 - column % 8)) rest
  | column, c :: rest => c :: withoutTabs (if c == '\n' then 0 else column + 1) rest

/-- How lines are written. -/
structure LineStyle where
  /-- A tab instead of a blank stands after the mark. -/
  hasTab : Bool := false
  /-- Blanks stand in the place of tabs. -/
  expandsTabs : Bool := false

namespace LineStyle

/-- The text of a line, with a note if no line feed ends it. -/
def text (s : LineStyle) (line : String) : String :=
  let shown := if s.expandsTabs then String.ofList (withoutTabs 0 line.toList) else line
  if line.toList.getLast? == some '\n' then shown
  else shown ++ "\n\\ No newline at end of file\n"

/-- A line after a mark and a gap. -/
def marked (s : LineStyle) (mark line : String) : String :=
  mark ++ (if s.hasTab then "\t" else " ") ++ s.text line

/-- A line after a mark without a gap. -/
def tight (s : LineStyle) (mark line : String) : String :=
  if mark == " " then (if s.hasTab then "\t" else " ") ++ s.text line
  else mark ++ (if s.hasTab && line != "\n" then "\t" else "") ++ s.text line

end LineStyle

/-- The numbers of some lines after others. -/
def lineRange (before count : Nat) : String :=
  if count ≤ 1 then toString (before + count)
  else toString (before + 1) ++ "," ++ toString (before + count)

/-- A change in the usual form. -/
def Change.normal (s : LineStyle) (c : Change) : String :=
  lineRange c.first c.removed.length ++ c.letter ++ lineRange c.second c.added.length ++ "\n" ++
    String.join (c.removed.map (s.marked "<")) ++
    (if c.letter == "c" then "---\n" else "") ++
    String.join (c.added.map (s.marked ">"))

/-- A group of changes with the lines around them. -/
structure Hunk where
  /-- The number of lines before it in the first file. -/
  start : Nat
  /-- The number of lines up to its end in the first file. -/
  stop : Nat
  /-- The number of lines before it in the second file. -/
  secondStart : Nat
  /-- The number of lines up to its end in the second file. -/
  secondStop : Nat
  /-- The changes. -/
  group : List Change

/-- A group of changes with at most `context` lines before and after it, in a file of some
lines. -/
def Hunk.of? (context size : Nat) (group : List Change) : Option Hunk :=
  match group.head?, group.getLast? with
  | some c, some z =>
    let lead := min c.first context
    let tail := min (size - z.stop) context
    some ⟨c.first - lead, z.stop + tail, c.second - lead, z.secondStop + tail, group⟩
  | _, _ => none

/-- The range of lines of a hunk in the unified form. -/
def unifiedRange (start count : Nat) : String :=
  if count == 1 then toString (start + 1)
  else toString (if count == 0 then start else start + 1) ++ "," ++ toString count

/-- Some of the lines of a list. -/
def linesBetween (lines : List String) (i j : Nat) : List String := (lines.drop i).take (j - i)

/-- A hunk in the unified form. -/
def Hunk.unified (s : LineStyle) (as : List String) (h : Hunk) : String :=
  let kept (i j : Nat) : String := String.join ((linesBetween as i j).map (s.tight " "))
  let (body, last) := h.group.foldl (fun (text, i) g =>
    (text ++ kept i g.first ++ String.join (g.removed.map (s.tight "-")) ++
      String.join (g.added.map (s.tight "+")), g.stop)) ("", h.start)
  "@@ -" ++ unifiedRange h.start (h.stop - h.start) ++ " +" ++
    unifiedRange h.secondStart (h.secondStop - h.secondStart) ++ " @@\n" ++ body ++
    kept last h.stop

/-- The range of lines of a hunk in the context form. -/
def contextRange (start stop : Nat) : String :=
  if stop ≤ start + 1 then toString stop else toString (start + 1) ++ "," ++ toString stop

/-- A hunk in the context form. -/
def Hunk.context (s : LineStyle) (as bs : List String) (h : Hunk) : String :=
  let side (lines : List String) (start stop : Nat) (mark : String)
      (part : Change → Nat × List String) : String :=
    if h.group.all fun g => (part g).2.isEmpty then ""
    else
      let kept (i j : Nat) : String := String.join ((linesBetween lines i j).map (s.marked " "))
      let (body, last) := h.group.foldl (fun (text, i) g =>
        let (first, changed) := part g
        let shown := if g.letter == "c" then "!" else mark
        (text ++ kept i first ++ String.join (changed.map (s.marked shown)),
          first + changed.length)) ("", start)
      body ++ kept last stop
  "***************\n*** " ++ contextRange h.start h.stop ++ " ****\n" ++
    side as h.start h.stop "-" (fun g => (g.first, g.removed)) ++
    "--- " ++ contextRange h.secondStart h.secondStop ++ " ----\n" ++
    side bs h.secondStart h.secondStop "+" (fun g => (g.second, g.added))

/-- Lines to be added by a line editor, where a line of a single dot ends them. -/
def editedLines : List String → String
  | [] => ".\n"
  | ".\n" :: rest => "..\n.\ns/.//\n" ++ (if rest.isEmpty then "" else "a\n" ++ editedLines rest)
  | line :: rest => line ++ editedLines rest

/-- A change as a command of a line editor. -/
def Change.command (c : Change) : String :=
  lineRange c.first c.removed.length ++ c.letter ++ "\n" ++
    (if c.added.isEmpty then "" else editedLines c.added)

/-- A change as commands that count lines. -/
def Change.counted (c : Change) : String :=
  (if c.removed.isEmpty then ""
    else "d" ++ toString (c.first + 1) ++ " " ++ toString c.removed.length ++ "\n") ++
  (if c.added.isEmpty then ""
    else "a" ++ toString c.stop ++ " " ++ toString c.added.length ++ "\n" ++ String.join c.added)

/-- The columns of the form with both files side by side. -/
structure Columns where
  /-- The width of each half. -/
  half : Nat
  /-- The column where the second half starts. -/
  second : Nat
  /-- Whether blanks stand in the place of tabs. -/
  expandsTabs : Bool
  /-- Whether of lines in common only the left one is shown. -/
  isLeftOnly : Bool
  /-- Whether lines in common are left out. -/
  isSuppressed : Bool

namespace Columns

/-- The columns of a page of some width. -/
def ofWidth (width : Nat) (expandsTabs isLeftOnly isSuppressed : Bool) : Columns :=
  let t := if expandsTabs then 1 else 8
  let unaligned := width / 2 + (t + 3) / 2 + (width % 2) * ((t + 3) % 2)
  let offset := unaligned - unaligned % t
  let half := min (offset - 3) (width - offset)
  ⟨half, if half == 0 then width else offset, expandsTabs, isLeftOnly, isSuppressed⟩

/-- What leads to a column from another. -/
def gap (c : Columns) (start stop : Nat) : String :=
  let tabs := if c.expandsTabs then 0 else stop / 8 - start / 8
  let reached := if tabs == 0 then start else (start / 8 + tabs) * 8
  String.ofList (List.replicate tabs '\t' ++ List.replicate (stop - reached) ' ')

/-- As much of a line as its half holds, after `read` columns of which `shown` are shown, and the
column where it ends. -/
def halfLine (c : Columns) : Nat → Nat → List Char → List Char × Nat
  | _, shown, [] => ([], shown)
  | _, shown, '\n' :: _ => ([], shown)
  | read, shown, '\t' :: rest =>
    let stop := read + (8 - read % 8)
    if read != shown then c.halfLine stop shown rest
    else if c.expandsTabs then
      let reached := min stop c.half
      let (text, last) := c.halfLine stop (max shown reached) rest
      (List.replicate (reached - shown) ' ' ++ text, last)
    else if stop < c.half then
      let (text, last) := c.halfLine stop stop rest
      ('\t' :: text, last)
    else c.halfLine stop shown rest
  | read, shown, char :: rest =>
    if read < c.half then
      let (text, last) := c.halfLine (read + 1) (read + 1) rest
      (char :: text, last)
    else c.halfLine (read + 1) shown rest

/-- A row of the page: lines of both files, and the mark between them. -/
def row (c : Columns) (left : Option String) (mark : Char) (right : Option String) : String :=
  let isWhole (line : Option String) : Bool :=
    (line.map fun l => l.toList.getLast? == some '\n').getD false
  let (text, column) := c.halfLine 0 0 (left.getD "").toList
  let sign := if mark == '|' && isWhole left != isWhole right then
    (if isWhole left then '/' else '\\') else mark
  let middle := (c.half + c.second - 1) / 2
  let (sep, column) := if mark == ' ' then ("", column)
    else (c.gap column middle ++ String.ofList [sign], middle + 1)
  let after := match right with
    | some line =>
      if line.toList.head? == some '\n' then ""
      else c.gap column c.second ++ String.ofList (c.halfLine 0 0 line.toList).1
    | none => ""
  String.ofList text ++ sep ++ after ++ (if isWhole left || isWhole right then "\n" else "")

/-- The rows of lines that are in both files. -/
def same (c : Columns) (as bs : List String) : String :=
  if c.isSuppressed then ""
  else if c.isLeftOnly then String.join (as.map fun a => c.row (some a) '(' none)
  else String.join ((as.zip bs).map fun (a, b) => c.row (some a) ' ' (some b))

/-- The rows of a change. -/
def changed (c : Columns) (g : Change) : String :=
  let both := min g.removed.length g.added.length
  String.join (((g.removed.zip g.added).map fun (a, b) => c.row (some a) '|' (some b)) ++
    ((g.added.drop both).map fun b => c.row none '>' (some b)) ++
    ((g.removed.drop both).map fun a => c.row (some a) '<' none))

/-- Both files side by side, after `i` and `j` lines of them. -/
def page (c : Columns) (as bs : List String) : Nat → Nat → List Change → String
  | i, j, [] => c.same (as.drop i) (bs.drop j)
  | i, j, g :: rest =>
    c.same (linesBetween as i g.first) (linesBetween bs j g.second) ++ c.changed g ++
      c.page as bs g.stop g.secondStop rest

end Columns

/-- A form of writing changes. -/
inductive DiffForm where
  /-- One after the other. -/
  | normal
  /-- In groups, with some lines around them. -/
  | unified (context : Nat)
  /-- In groups that show each file on its own, with some lines around them. -/
  | context (context : Nat)
  /-- As commands of a line editor, the last first. -/
  | script
  /-- As commands that count lines. -/
  | counted
  /-- Side by side. -/
  | columns (c : Columns)

namespace DiffForm

/-- The lines around changes. -/
def margin : DiffForm → Nat
  | .unified n | .context n => n
  | _ => 0

/-- Whether two forms are of one kind. -/
def isLike : DiffForm → DiffForm → Bool
  | .normal, .normal | .unified _, .unified _ | .context _, .context _ | .script, .script
  | .counted, .counted | .columns _, .columns _ => true
  | _, _ => false

/-- Changes in some form. -/
def render (f : DiffForm) (s : LineStyle) (as bs : List String) (found : List Change) : String :=
  let counting := found.filter fun c => !c.isIgnored
  let hunks (n : Nat) : List Hunk :=
    ((changeGroups n found).filter fun g => g.any fun c => !c.isIgnored).filterMap
      (Hunk.of? n as.length)
  match f with
  | .normal => String.join (counting.map (Change.normal s))
  | .unified n => String.join ((hunks n).map (Hunk.unified s as))
  | .context n => String.join ((hunks n).map (Hunk.context s as bs))
  | .script => String.join (counting.reverse.map Change.command)
  | .counted => String.join (counting.map Change.counted)
  | .columns c => c.page as bs 0 0 counting

end DiffForm

end CompileOrder.Shell.Utility
