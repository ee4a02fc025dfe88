import CompileOrder.Shell.Utility.Reading

/-!
# Ranking

Items are put in an order in which the first of each pair comes before the second. Items
that nothing has to come before are shown first, in the order of their names; an item that
waits for the last of those shown follows them. Where pairs run in a circle, one of them is
given up.
-/

namespace CompileOrder.Shell.Utility

open Tool

/-- An item of a ranking. -/
structure Ranked where
  /-- Its name. -/
  name : String
  /-- How many pairs it is the second of. -/
  count : Nat := 0
  /-- The second items of its pairs, the last one first. -/
  later : List String := []
  /-- Whether it has been shown. -/
  isShown : Bool := false
  deriving DecidableEq, Repr

/-- The items of a ranking, in the order of their names. -/
abbrev Ranking := List Ranked

namespace Ranking

/-- The item with a name is changed. -/
def change (r : Ranking) (name : String) (f : Ranked → Ranked) : Ranking :=
  r.map fun i => if i.name == name then f i else i

/-- The item with a name. -/
def item (r : Ranking) (name : String) : Ranked :=
  (r.find? fun i => i.name == name).getD { name := name }

/-- An item is added unless it is there. -/
def insert (name : String) : Ranking → Ranking
  | [] => [{ name := name }]
  | i :: is =>
    if i.name == name then i :: is
    else if name < i.name then { name := name } :: i :: is
    else i :: insert name is

/-- A pair is added; the pair of an item with itself adds only the item. -/
def add (r : Ranking) (first second : String) : Ranking :=
  let r := insert second (insert first r)
  if first == second then r
  else (r.change second fun i => { i with count := i.count + 1 }).change first fun i =>
    { i with later := second :: i.later }

/-- The ranking of the pairs that words make; none if a word is left over. -/
def ofWords? : List String → Ranking → Option Ranking
  | [], r => some r
  | [_], _ => none
  | a :: b :: rest, r => ofWords? rest (r.add a b)

/-- The pairs of an item that is shown are dropped; the items that wait for nothing any
more. -/
def release (r : Ranking) : List String → Ranking × List String
  | [] => (r, [])
  | name :: rest =>
    let count := (r.item name).count - 1
    let (r, freed) := release (r.change name fun i => { i with count := count }) rest
    (r, if count == 0 then name :: freed else freed)

/-- The items of a queue are shown, in at most `n` steps, with those that follow. -/
def unroll (r : Ranking) : Nat → List String → Ranking × List String
  | 0, _ => (r, [])
  | _ + 1, [] => (r, [])
  | n + 1, name :: queue =>
    let later := (r.item name).later
    let (r, freed) := (r.change name fun i => { i with isShown := true }).release later
    let (r, shown) := unroll r n (queue ++ freed)
    (r, name :: shown)

/-- A walk along pairs against their direction, the last item first. It ends at an item that it
has been at, apart from the item that it started from, which it passes once more. -/
structure Walk where
  /-- The items of the walk. -/
  path : List String := []
  /-- The items of the circle that was found, and the ranking without one of its pairs. -/
  found : Option (List String × Ranking) := none

/-- An item is taken up into the walk if it comes before its last item. -/
def Walk.visit (r : Ranking) (w : Walk) (name : String) : Walk :=
  let i := r.item name
  if w.found.isSome || i.count == 0 || i.isShown then w
  else match w.path with
    | [] => { w with path := [name] }
    | last :: _ =>
      if !i.later.contains last then w
      else if w.path.dropLast.contains name then
        let circle := w.path.takeWhile (fun n => n != name) ++ [name]
        let r := (r.change last fun k => { k with count := k.count - 1 }).change name fun k =>
          { k with later := k.later.erase last }
        { w with found := some (circle, r) }
      else { w with path := name :: w.path }

/-- A circle, looked for in at most `n` rounds over all items, and the ranking without one of
its pairs. -/
def circle (r : Ranking) : Nat → Walk → Option (List String × Ranking)
  | 0, _ => none
  | n + 1, w =>
    let w := (r.map fun i => i.name).foldl (Walk.visit r) w
    match w.found with
    | some found => some found
    | none => circle r n w

end Ranking

/-- The items of a ranking are shown, in at most `n` rounds; a circle is reported. -/
def showRanking (label : String) : Nat → Ranking → Nat → Tool Nat
  | 0, _, code => return code
  | n + 1, r, code => do
    let free := (r.filter fun i => i.count == 0 && !i.isShown).map fun i => i.name
    let (r, shown) := r.unroll (r.length + 1) free
    outLines shown
    if r.all fun i => i.isShown then return code
    complain (Quote.ifNeeded label ++ ": input contains a loop:")
    match r.circle (r.length + 2) {} with
    | some (circle, r) =>
      circle.forM complain
      showRanking label n r 1
    | none => return 1

/-- Shows words in an order that pairs of them give. -/
def tsort : Tool Nat :=
  withOptions [{ letter := 'w' }] 1 fun p => do
    match p.operands with
    | _ :: extra :: _ => misuse 1 ("extra operand " ++ Quote.inWords extra)
    | operands =>
      let path := operands.headD "-"
      match ← contents path with
      | .error .isDirectory => fail 1 (Quote.ifNeeded path ++ ": read error: " ++
          FileFault.isDirectory.words)
      | .error fault => unreadable path fault
      | .ok text =>
        let words := (text.toList.splitBy fun a b =>
          !(a == ' ' || a == '\t' || a == '\n') && !(b == ' ' || b == '\t' || b == '\n'))
        let words := (words.map String.ofList).filter fun w => w != " " && w != "\t" && w != "\n"
        match Ranking.ofWords? words [] with
        | none => fail 1 (Quote.ifNeeded path ++ ": input contains an odd number of tokens")
        | some r => showRanking path (words.length + 2) r 0

end CompileOrder.Shell.Utility
