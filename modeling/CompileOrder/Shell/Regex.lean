import CompileOrder.Shell.Pattern
import Std.Data.HashSet

/-!
# Regular expressions

A regular expression describes stretches of a text. A search finds the first place
where one begins, and the longest one from there; of the ways to divide it among the
parts of the expression, the earlier parts take as much as they can.
-/

namespace CompileOrder.Shell

/-- A regular expression. -/
inductive Regex where
  /-- Nothing. -/
  | empty
  /-- One character with a property. -/
  | one (holds : Char → Bool)
  /-- The start of the text, or of a line. -/
  | lineStart
  /-- The end of the text, or of a line. -/
  | lineEnd
  /-- The start of the text. -/
  | textStart
  /-- The end of the text. -/
  | textEnd
  /-- The start of a word. -/
  | wordStart
  /-- The end of a word. -/
  | wordEnd
  /-- The start or the end of a word. -/
  | wordEdge
  /-- Neither the start nor the end of a word. -/
  | wordInside
  /-- A part with a number. -/
  | group (number : Nat) (r : Regex)
  /-- What the part with a number is. -/
  | back (number : Nat)
  /-- One after the other. -/
  | concat (a b : Regex)
  /-- One of both. -/
  | either (a b : Regex)
  /-- A number of times. -/
  | many (r : Regex) (least : Nat) (most : Option Nat)

namespace Regex

/-- The stretches that numbered parts are: number, start and end. -/
abbrev Captures := List (Nat × Nat × Nat)

/-- The stretch of the part with a number. -/
def Captures.get? (cs : Captures) (n : Nat) : Option (Nat × Nat) :=
  (cs.find? fun c => c.1 == n).map fun c => c.2

/-- The stretch of a part is set. -/
def Captures.set (cs : Captures) (n first last : Nat) : Captures :=
  (n, first, last) :: cs.filter fun c => c.1 != n

/-- A character of a word. -/
def isWordPart (c : Char) : Bool := c.isAlphanum || c == '_'

/-- A text that is searched. -/
structure Subject where
  /-- The characters. -/
  chars : Array Char
  /-- Whether lines count for starts and ends. -/
  isMultiline : Bool := false
  /-- Whether all ways to reach a place count. -/
  keepsAll : Bool := false

namespace Subject

/-- Whether the character at a place has a property. -/
def holdsAt (s : Subject) (i : Nat) (p : Char → Bool) : Bool :=
  match s.chars[i]? with
  | some c => p c
  | none => false

/-- Whether the character before a place belongs to a word. -/
def isWordBefore (s : Subject) (i : Nat) : Bool := i != 0 && s.holdsAt (i - 1) isWordPart

/-- Whether the character at a place belongs to a word. -/
def isWordAfter (s : Subject) (i : Nat) : Bool := s.holdsAt i isWordPart

/-- The number of characters from a place on that have a property, at most `n`. -/
def run (s : Subject) (p : Char → Bool) : Nat → Nat → Nat
  | 0, _ => 0
  | n + 1, i => if s.holdsAt i p then s.run p n (i + 1) + 1 else 0

/-- Whether the stretches of a length at two places are the same. -/
def isSame (s : Subject) (i j : Nat) : Nat → Bool
  | 0 => true
  | n + 1 => j < s.chars.size && s.chars[i]? == s.chars[j]? && s.isSame (i + 1) (j + 1) n

end Subject

/-- A place that was reached, and the parts on the way there. -/
abbrev Reach := Nat × Captures

/-- What tells two ways apart. -/
def keyOf (s : Subject) (r : Reach) : Reach := if s.keepsAll then r else (r.1, [])

/-- The ways without those that come later and lead to the same place. -/
def distinct (s : Subject) (rs : List Reach) : List Reach :=
  match rs with
  | [] | [_] => rs
  | rs =>
    (rs.foldl (fun (seen, kept) r =>
      let key := keyOf s r
      if seen.contains key then (seen, kept) else (seen.insert key, r :: kept))
      ((∅ : Std.HashSet Reach), ([] : List Reach))).2.reverse

/-- The state of a repetition. -/
structure Repetition where
  /-- The numbers of times and the places that were reached. -/
  seen : Std.HashSet (Nat × Reach) := ∅
  /-- The places where it can end, the last one first. -/
  found : List Reach := []

/-- The places that repetitions of a step lead to, where at most `n` steps are taken. -/
def repetitions (s : Subject) (step : Nat → Captures → List Reach) (least : Nat)
    (most : Option Nat) :
    Nat → Nat → Reach → Repetition → Repetition
  | 0, _, _, state => state
  | n + 1, count, (i, captures), state =>
    let key := (if most.isSome then count else min count least, keyOf s (i, captures))
    if state.seen.contains key then state
    else
      let state := { state with seen := state.seen.insert key }
      let isFull := most.any fun m => m ≤ count
      let state := if isFull then state
        else (step i captures).foldl (fun state (r : Reach) =>
          if r.1 == i && least ≤ count then state
          else repetitions s step least most n (count + 1) r state) state
      if least ≤ count then { state with found := (i, captures) :: state.found } else state

/-- The places that a stretch from a place on can end at, the best ones first. -/
def reaches (s : Subject) : Regex → Nat → Captures → List Reach
  | .empty, i, captures => [(i, captures)]
  | .one p, i, captures => if s.holdsAt i p then [(i + 1, captures)] else []
  | .lineStart, i, captures =>
    if i == 0 || (s.isMultiline && s.holdsAt (i - 1) (· == '\n')) then [(i, captures)] else []
  | .lineEnd, i, captures =>
    if i == s.chars.size || (s.isMultiline && s.holdsAt i (· == '\n')) then [(i, captures)] else []
  | .textStart, i, captures => if i == 0 then [(i, captures)] else []
  | .textEnd, i, captures => if i == s.chars.size then [(i, captures)] else []
  | .wordStart, i, captures => if !s.isWordBefore i && s.isWordAfter i then [(i, captures)] else []
  | .wordEnd, i, captures => if s.isWordBefore i && !s.isWordAfter i then [(i, captures)] else []
  | .wordEdge, i, captures => if s.isWordBefore i != s.isWordAfter i then [(i, captures)] else []
  | .wordInside, i, captures => if s.isWordBefore i == s.isWordAfter i then [(i, captures)] else []
  | .group n r, i, captures => (reaches s r i captures).map fun (j, cs) => (j, cs.set n i j)
  | .back n, i, captures =>
    match captures.get? n with
    | some (a, b) => if s.isSame a i (b - a) then [(i + (b - a), captures)] else []
    | none => []
  | .concat a b, i, captures =>
    distinct s ((reaches s a i captures).flatMap fun (j, cs) => reaches s b j cs)
  | .either a b, i, captures => distinct s (reaches s a i captures ++ reaches s b i captures)
  | .many (.one p) least most, i, captures =>
    let room := s.chars.size - i
    let count := s.run p (match most with
      | some m => min m room
      | none => room) i
    if count < least then []
    else (List.range (count - least + 1)).map fun k => (i + (count - k), captures)
  | .many r least most, i, captures =>
    let state := repetitions s (fun j cs => reaches s r j cs) least most
      (s.chars.size - i + least + 2) 0 (i, captures) {}
    distinct s state.found.reverse

/-- The longest of some stretches. -/
def longest (rs : List Reach) : Option Reach :=
  rs.foldl (fun best r => match best with
    | some b => if b.1 < r.1 then some r else best
    | none => some r) none

/-- A stretch that was found. -/
structure Match where
  /-- Its start. -/
  first : Nat
  /-- Its end. -/
  last : Nat
  /-- The parts of it. -/
  captures : Captures

/-- The first stretch from a place on that can be accepted, looked for at `n` places. -/
def searchFrom (s : Subject) (accept : Nat → Nat → Bool) (r : Regex) : Nat → Nat → Option Match
  | 0, _ => none
  | n + 1, i =>
    match longest ((reaches s r i []).filter fun e => accept i e.1) with
    | some (j, captures) => some ⟨i, j, captures⟩
    | none => searchFrom s accept r n (i + 1)

/-- Whether the expression refers back to a part. -/
def refersBack : Regex → Bool
  | .back _ => true
  | .group _ r | .many r _ _ => r.refersBack
  | .concat a b | .either a b => a.refersBack || b.refersBack
  | _ => false

/-- Whether every stretch begins at the start of the text. -/
def isAnchored : Regex → Bool
  | .lineStart | .textStart => true
  | .group _ r => r.isAnchored
  | .concat a b => a.isAnchored || (match a with
    | .empty => b.isAnchored
    | _ => false)
  | .either a b => a.isAnchored && b.isAnchored
  | _ => false

/-- The first stretch of a text from a place on. -/
def search (r : Regex) (chars : Array Char) (start : Nat) (isMultiline : Bool := false)
    (accept : Nat → Nat → Bool := fun _ _ => true) : Option Match :=
  let s : Subject := { chars := chars, isMultiline := isMultiline, keepsAll := r.refersBack }
  let places := if r.isAnchored && !isMultiline then (if start == 0 then 1 else 0)
    else chars.size + 1 - start
  searchFrom s accept r places start

/-- Whether some stretch of a text is described. -/
def isIn (r : Regex) (text : String) : Bool := (r.search text.toList.toArray 0).isSome

/-- The text of a stretch. -/
def stretch (chars : Array Char) (first last : Nat) : String :=
  String.ofList (chars.toList.drop first |>.take (last - first))

end Regex

end CompileOrder.Shell
