/-!
# Lines in common

Which lines of two files change and which stay, so that as few as possible change. Lines are
numbered by classes: lines of one class are the same. Lines whose class the other file does
not have are put aside first. Then the files are walked from both ends at once, one more change
at a time, until the two walks meet, and the parts before and after that place are treated in
the same way. Finally runs of changed lines are moved so that they join, or else as far down as
possible, or to a run in the other file.
-/

namespace CompileOrder.Shell.Utility.Alignment

/-- The classes of the lines of two files. -/
structure Sides where
  /-- Those of the first file. -/
  first : Array Nat
  /-- Those of the second file. -/
  second : Array Nat

namespace Sides

/-- Whether two lines are there and are the same. -/
def agree (s : Sides) (x y : Nat) : Bool :=
  match s.first[x]?, s.second[y]? with
  | some a, some b => a == b
  | _, _ => false

/-- The place that lines in common lead to, before two limits; at most `n` lines. -/
def ahead (s : Sides) (xEnd yEnd : Nat) : Nat → Nat → Nat → Nat × Nat
  | 0, x, y => (x, y)
  | n + 1, x, y =>
    if x < xEnd && y < yEnd && s.agree x y then ahead s xEnd yEnd n (x + 1) (y + 1) else (x, y)

/-- The place that lines in common lead back to, after two limits; at most `n` lines. -/
def back (s : Sides) (xStart yStart : Nat) : Nat → Nat → Nat → Nat × Nat
  | 0, x, y => (x, y)
  | n + 1, x, y =>
    if xStart < x && yStart < y && s.agree (x - 1) (y - 1) then
      back s xStart yStart n (x - 1) (y - 1)
    else (x, y)

end Sides

/-- How far a walk has come on each diagonal. A diagonal is the difference of two places. -/
structure Front where
  /-- The places in the first file, from the lowest diagonal on. -/
  places : Array Int
  /-- What is added to a diagonal to number it. -/
  offset : Int
  /-- The lowest diagonal that was reached. -/
  low : Int
  /-- The highest diagonal that was reached. -/
  high : Int

namespace Front

/-- The place on a diagonal. -/
def get (f : Front) (d : Int) : Int := f.places.getD (d + f.offset).toNat 0

/-- The place on a diagonal is set. -/
def set (f : Front) (d place : Int) : Front :=
  { f with places := f.places.setIfInBounds (d + f.offset).toNat place }

/-- A walk that starts at a place. -/
def start (size : Nat) (offset d place : Int) : Front :=
  Front.set ⟨Array.replicate size 0, offset, d, d⟩ d place

/-- The diagonals that one more change leads to, between two limits; places that were not
reached yet are `unset`. -/
def widen (f : Front) (least most unset : Int) : Front :=
  let f := if least < f.low then { f.set (f.low - 2) unset with low := f.low - 1 }
    else { f with low := f.low + 1 }
  if f.high < most then { f.set (f.high + 2) unset with high := f.high + 1 }
  else { f with high := f.high - 1 }

/-- Whether a diagonal is among those that were reached. -/
def covers (f : Front) (d : Int) : Bool := f.low ≤ d && d ≤ f.high

end Front

/-- A part of both files. -/
structure Part where
  /-- Where it starts in the first file. -/
  xStart : Nat
  /-- Where it ends in the first file. -/
  xEnd : Nat
  /-- Where it starts in the second file. -/
  yStart : Nat
  /-- Where it ends in the second file. -/
  yEnd : Nat

namespace Part

/-- The number of lines of a part. -/
def size (p : Part) : Nat := (p.xEnd - p.xStart) + (p.yEnd - p.yStart)

/-- One change more for the walk from the start, on the next `n` diagonals from one on down;
the place where it meets the other walk, if it does. -/
def stepDown (s : Sides) (p : Part) (other : Option Front) :
    Nat → Int → Front → Except (Nat × Nat) Front
  | 0, _, f => .ok f
  | n + 1, d, f =>
    let low := f.get (d - 1)
    let high := f.get (d + 1)
    let x0 := if low < high then high else low + 1
    let (x, y) := s.ahead p.xEnd p.yEnd p.size x0.toNat (x0 - d).toNat
    let f := f.set d x
    match other with
    | some b => if b.covers d && b.get d ≤ x then .error (x, y) else stepDown s p other n (d - 2) f
    | none => stepDown s p other n (d - 2) f

/-- One change more for the walk from the end. -/
def stepUp (s : Sides) (p : Part) (other : Option Front) :
    Nat → Int → Front → Except (Nat × Nat) Front
  | 0, _, f => .ok f
  | n + 1, d, f =>
    let low := f.get (d - 1)
    let high := f.get (d + 1)
    let x0 := if low < high then low else high - 1
    let (x, y) := s.back p.xStart p.yStart p.size x0.toNat (x0 - d).toNat
    let f := f.set d x
    match other with
    | some a => if a.covers d && (x : Int) ≤ a.get d then .error (x, y)
      else stepUp s p other n (d - 2) f
    | none => stepUp s p other n (d - 2) f

/-- The place where the walks from both ends meet, after at most `n` changes. -/
def meet (s : Sides) (p : Part) (isOdd : Bool) : Nat → Front → Front → Nat × Nat
  | 0, _, _ => (p.xEnd, p.yEnd)
  | n + 1, forth, back =>
    let least : Int := (p.xStart : Int) - p.yEnd
    let most : Int := (p.xEnd : Int) - p.yStart
    let count (f : Front) : Nat := ((f.high - f.low) / 2 + 1).toNat
    let forth := forth.widen least most (-1)
    match p.stepDown s (if isOdd then some back else none) (count forth) forth.high forth with
    | .error place => place
    | .ok forth =>
      let back := back.widen least most 1000000000000
      match p.stepUp s (if isOdd then none else some forth) (count back) back.high back with
      | .error place => place
      | .ok back => p.meet s isOdd n forth back

/-- A place in the middle of a part that a shortest list of changes passes through. -/
def middle (s : Sides) (p : Part) : Nat × Nat :=
  let offset : Int := (p.yEnd : Int) - p.xStart + 2
  let size := p.size + 6
  let first : Int := (p.xStart : Int) - p.yStart
  let last : Int := (p.xEnd : Int) - p.yEnd
  p.meet s ((first - last) % 2 != 0) (p.size + 1) (.start size offset first p.xStart)
    (.start size offset last p.xEnd)

end Part

/-- Which lines of both files change. -/
structure Changed where
  /-- Those of the first file. -/
  first : Array Bool
  /-- Those of the second file. -/
  second : Array Bool

/-- Lines from one on change. -/
def markAll (flags : Array Bool) (start stop : Nat) : Array Bool :=
  (List.range (stop - start)).foldl (fun f i => f.setIfInBounds (start + i) true) flags

/-- The lines of a part that change, at most `n` levels down. -/
def markPart (s : Sides) : Nat → Part → Changed → Changed
  | 0, p, c => ⟨markAll c.first p.xStart p.xEnd, markAll c.second p.yStart p.yEnd⟩
  | n + 1, p, c =>
    let (x, y) := s.ahead p.xEnd p.yEnd p.size p.xStart p.yStart
    let p := { p with xStart := x, yStart := y }
    let (x, y) := s.back p.xStart p.yStart p.size p.xEnd p.yEnd
    let p := { p with xEnd := x, yEnd := y }
    if p.xStart == p.xEnd then { c with second := markAll c.second p.yStart p.yEnd }
    else if p.yStart == p.yEnd then { c with first := markAll c.first p.xStart p.xEnd }
    else
      let (x, y) := p.middle s
      let c := markPart s n { p with xEnd := x, yEnd := y } c
      markPart s n { p with xStart := x, yStart := y } c

/-- What is to be done with a line before the files are walked. -/
inductive Prospect where
  /-- It stays. -/
  | kept
  /-- It is put aside: the other file does not have it. -/
  | aside
  /-- It is put aside if it stands among others that are: the other file has it often. -/
  | common
  deriving DecidableEq, Repr

/-- Twice a number for every time that another can be divided by four, at most `n` times. -/
def growBy : Nat → Nat → Nat → Nat
  | 0, _, m => m
  | n + 1, size, m => if size / 4 == 0 then m else growBy n (size / 4) (m * 2)

/-- What is to be done with the lines of a file, by how often the other file has them. -/
def prospects (lines : Array Nat) (other : Array Nat) : Array Prospect :=
  let many := growBy 40 (lines.size / 64) 5
  lines.map fun line =>
    let count := other.foldl (fun n o => if o == line then n + 1 else n) 0
    if count == 0 then .aside else if many < count then .common else .kept

/-- Runs of `least` or more common lines in a row stay. -/
def keepRuns (least : Nat) (run : List Prospect) : List Prospect :=
  (run.splitBy fun a b => (a == .common) == (b == .common)).flatMap fun part =>
    if part.head? == some .common && least ≤ part.length then part.map fun _ => .kept else part

/-- Common lines at the start of a run stay, up to three lines in a row that are put aside or to
such a line that is not among the first eight. -/
def keepStart : Nat → Nat → List Prospect → List Prospect
  | _, _, [] => []
  | place, row, p :: rest =>
    if 8 ≤ place && p == .aside then p :: rest
    else match p with
      | .common => .kept :: keepStart (place + 1) 0 rest
      | .kept => p :: keepStart (place + 1) 0 rest
      | .aside => if row + 1 == 3 then p :: rest else p :: keepStart (place + 1) (row + 1) rest

/-- What is to be done with a run of lines that begins and ends with one that is put aside. -/
def settleRun (run : List Prospect) : List Prospect :=
  let count := (run.filter fun p => p == .common).length
  if run.length < count * 4 then run.map fun p => if p == .common then .kept else p
  else
    let least := growBy 40 (run.length / 4) 1 + 1
    (keepStart 0 0 (keepStart 0 0 (keepRuns least run)).reverse).reverse

/-- Common lines stay unless they stand in a run of lines that are put aside; in at most `n`
steps. -/
def settle : Nat → List Prospect → List Prospect
  | 0, ps => ps
  | _ + 1, [] => []
  | n + 1, .aside :: rest =>
    let run := .aside :: rest.takeWhile fun p => p != .kept
    let after := rest.drop (run.length - 1)
    let tail := (run.reverse.takeWhile fun p => p == .common).map fun _ => Prospect.kept
    settleRun (run.take (run.length - tail.length)) ++ tail ++ settle n after
  | n + 1, _ :: rest => .kept :: settle n rest

/-- The numbers of the lines that are walked. -/
def walked (lines other : Array Nat) : Array Nat :=
  let ps := settle (lines.size + 1) (prospects lines other).toList
  (ps.zipIdx.filterMap fun (p, i) => if p == .aside || p == .common then none else some i).toArray

/-- The lines that change, before runs of them are moved. -/
def marked (s : Sides) : Changed :=
  let xs := walked s.first s.second
  let ys := walked s.second s.first
  let inner : Sides := ⟨xs.map fun i => s.first.getD i 0, ys.map fun i => s.second.getD i 0⟩
  let part : Part := ⟨0, xs.size, 0, ys.size⟩
  let c := markPart inner (part.size + 2) part
    ⟨Array.replicate xs.size false, Array.replicate ys.size false⟩
  let spread (size : Nat) (places : Array Nat) (flags : Array Bool) : Array Bool :=
    (List.range places.size).foldl (fun f i =>
      if flags.getD i false then f else f.setIfInBounds (places.getD i 0) false)
      (Array.replicate size true)
  ⟨spread s.first.size xs c.first, spread s.second.size ys c.second⟩

/-- The first place from one on that does not change, at most `n` places on. -/
def unchangedFrom (flags : Array Bool) : Nat → Nat → Nat
  | 0, i => i
  | n + 1, i => if flags.getD i false then unchangedFrom flags n (i + 1) else i

/-- The last place before one that does not change. -/
def unchangedBefore (flags : Array Bool) : Nat → Nat
  | 0 => 0
  | i + 1 => if flags.getD i false then unchangedBefore flags i else i

/-- The first place of the run of changed lines that ends at a place. -/
def runStart (flags : Array Bool) : Nat → Nat
  | 0 => 0
  | i + 1 => if flags.getD i false then runStart flags i else i + 1

/-- A run of changed lines that is being moved. -/
structure Run where
  /-- The lines that change. -/
  flags : Array Bool
  /-- Where the run starts. -/
  start : Nat
  /-- Where the run ends. -/
  stop : Nat
  /-- The place in the other file after the lines that correspond to the run. -/
  there : Nat
  /-- The end of the run where it last corresponded to a run in the other file. -/
  corresponding : Nat

namespace Run

/-- The run is moved back as long as the line before it is like its last line; at most `n`
times. -/
def moveBack (lines : Array Nat) (other : Array Bool) : Nat → Run → Run
  | 0, r => r
  | n + 1, r =>
    if 0 < r.start && lines.getD (r.start - 1) 0 == lines.getD (r.stop - 1) 0 then
      let flags := (r.flags.setIfInBounds (r.start - 1) true).setIfInBounds (r.stop - 1) false
      moveBack lines other n { r with
        flags := flags, start := runStart flags (r.start - 1), stop := r.stop - 1
        there := unchangedBefore other r.there }
    else r

/-- The run is moved forth as long as the line after it is like its first line; at most `n`
times. -/
def moveForth (lines : Array Nat) (other : Array Bool) : Nat → Run → Run
  | 0, r => r
  | n + 1, r =>
    if r.stop < lines.size && lines.getD r.start 0 == lines.getD r.stop 0 then
      let flags := (r.flags.setIfInBounds r.start false).setIfInBounds r.stop true
      let stop := unchangedFrom flags lines.size (r.stop + 1)
      let there := unchangedFrom other other.size (r.there + 1)
      moveForth lines other n { r with
        flags := flags, start := r.start + 1, stop := stop, there := there
        corresponding := if r.there + 1 < there then stop else r.corresponding }
    else r

/-- The run is moved to and fro until it does not grow any more; at most `n` times. -/
def merge (lines : Array Nat) (other : Array Bool) : Nat → Run → Run
  | 0, r => r
  | n + 1, r =>
    let length := r.stop - r.start
    let r := r.moveBack lines other lines.size
    let r := { r with
      corresponding := if 0 < r.there && other.getD (r.there - 1) false then r.stop
        else lines.size }
    let r := r.moveForth lines other lines.size
    if r.stop - r.start == length then r else merge lines other n r

/-- The run is moved back to where it corresponds to a run in the other file; at most `n`
times. -/
def settle (other : Array Bool) : Nat → Run → Run
  | 0, r => r
  | n + 1, r =>
    if r.corresponding < r.stop then
      let flags := (r.flags.setIfInBounds (r.start - 1) true).setIfInBounds (r.stop - 1) false
      settle other n { r with flags := flags, start := r.start - 1, stop := r.stop - 1
                              there := unchangedBefore other r.there }
    else r

end Run

/-- The runs of changed lines of a file are moved, from a line on that corresponds to a place in
the other file, in at most `n` steps. -/
def moveRuns (lines : Array Nat) (other : Array Bool) :
    Nat → Nat → Nat → Array Bool → Array Bool
  | 0, _, _, flags => flags
  | n + 1, i, there, flags =>
    if lines.size ≤ i then flags
    else if !flags.getD i false then
      moveRuns lines other n (i + 1) (unchangedFrom other other.size there + 1) flags
    else
      let stop := unchangedFrom flags lines.size i
      let there := unchangedFrom other other.size there
      let r : Run := ⟨flags, i, stop, there, lines.size⟩
      let r := (r.merge lines other (lines.size + 1)).settle other lines.size
      moveRuns lines other n r.stop r.there r.flags

/-- The lines of two files that change. -/
def changed (s : Sides) : Changed :=
  let c := marked s
  let first := moveRuns s.first c.second (s.first.size + 1) 0 0 c.first
  let second := moveRuns s.second first (s.second.size + 1) 0 0 c.second
  ⟨first, second⟩

end CompileOrder.Shell.Utility.Alignment
