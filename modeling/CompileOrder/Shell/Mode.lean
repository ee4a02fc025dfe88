import CompileOrder.Shell.Escape

/-!
# Notation of permission bits

Permission bits are written as an octal number, as nine letters, or as changes such as
`u+x,g=u`. A change names whose bits it is about, what is done with them, and the bits,
which may be those that others have now. If nobody is named, everybody is meant except
for the bits that new files do not get.
-/

namespace CompileOrder.Shell.Mode

/-- All permission bits. -/
def all : Nat := 0o7777

/-- The bits of the first number that the second one does not have. -/
def without (bits others : Nat) : Nat := bits - (bits &&& others)

/-- What the bits of a change are. -/
inductive Source where
  /-- Those that are given. -/
  | given
  /-- Those that are given, and the one to run files if a file can be run or is a
  directory. -/
  | withRun
  /-- Those that the owner, the group or the others have now. -/
  | copied
  deriving DecidableEq, Repr

/-- One change of permission bits. -/
structure Change where
  /-- Whether bits are added, taken away or set. -/
  operator : Char
  /-- The bits it is about, none if nobody is named. -/
  affected : Nat
  /-- The bits. -/
  value : Nat
  /-- What the bits are. -/
  source : Source
  /-- The bits that a directory does not keep. -/
  mentioned : Nat
  deriving DecidableEq, Repr

/-- The bits of those whom a letter names. -/
def affectedBy? : Char → Option Nat
  | 'u' => some 0o4700
  | 'g' => some 0o2070
  | 'o' => some 0o1007
  | 'a' => some all
  | _ => none

/-- The bits that a letter stands for. -/
def bitsOf? : Char → Option Nat
  | 'r' => some 0o444
  | 'w' => some 0o222
  | 'x' => some 0o111
  | 'X' => some 0
  | 's' => some 0o6000
  | 't' => some 0o1000
  | _ => none

/-- Whether a letter stands between people and bits. -/
def isOperator (c : Char) : Bool := c == '+' || c == '-' || c == '='

/-- The number that octal digits spell. -/
def octalOf (ds : List Char) : Nat := ds.foldl (fun n c => n * 8 + (c.toNat - 48)) 0

/-- The number that a text of octal digits spells. -/
def octal? (text : String) : Option Nat :=
  if !text.isEmpty && text.toList.all Escape.isOctal then some (octalOf text.toList) else none

/-- One change after an operator for those who are named, and the characters after it. -/
def readChange? (operator : Char) (affected : Nat) (cs : List Char) :
    Option (Change × List Char) :=
  let copy (bits : Nat) (rest : List Char) : Option (Change × List Char) :=
    some (⟨operator, affected, bits, .copied,
      if affected == 0 then bits else affected &&& bits⟩, rest)
  match cs with
  | 'u' :: rest => copy 0o700 rest
  | 'g' :: rest => copy 0o070 rest
  | 'o' :: rest => copy 0o007 rest
  | cs =>
    let ds := cs.takeWhile Escape.isOctal
    if !ds.isEmpty then
      let rest := cs.drop ds.length
      let value := octalOf ds
      if all < value || affected != 0 || !(rest.isEmpty || rest.head? == some ',') then none
      else some (⟨operator, all, value, .given, all⟩, rest)
    else
      let letters := cs.takeWhile fun c => (bitsOf? c).isSome
      let value := letters.foldl (fun n c => n ||| (bitsOf? c).getD 0) 0
      let source := if letters.contains 'X' then Source.withRun else .given
      some (⟨operator, affected, value, source,
        if affected == 0 then value else affected &&& value⟩, cs.drop letters.length)

/-- Changes for those who are named, in at most `n` steps, and the characters after
them. -/
def readChanges? (affected : Nat) : Nat → List Char → Option (List Change × List Char)
  | n + 1, c :: cs =>
    if isOperator c then do
      let (change, rest) ← readChange? c affected cs
      let (changes, rest) ← readChanges? affected n rest
      return (change :: changes, rest)
    else some ([], c :: cs)
  | _, cs => some ([], cs)

/-- The changes of a clause without commas. -/
def readClause? (cs : List Char) : Option (List Change) := do
  let who := cs.takeWhile fun c => (affectedBy? c).isSome
  let affected := who.foldl (fun n c => n ||| (affectedBy? c).getD 0) 0
  let rest := cs.drop who.length
  match ← readChanges? affected rest.length rest with
  | ([], _) | (_, _ :: _) => none
  | (changes, []) => return changes

/-- The changes that a text describes. An octal number sets all bits; on a directory it
keeps those that fewer than five digits cannot name. -/
def read? (text : String) : Option (List Change) :=
  match octal? text with
  | some n =>
    if all < n then none
    else
      let mentioned := if text.length < 5 then (n &&& 0o7000) ||| 0o777 else all
      some [⟨'=', all, n, .given, mentioned⟩]
  | none => ((text.splitOn ",").mapM fun clause => readClause? clause.toList).map List.flatten

/-- The bits after one change. `isDirectory` tells what they belong to, and `mask` are the
bits that new files do not get. -/
def Change.apply (isDirectory : Bool) (mask mode : Nat) (c : Change) : Nat :=
  let kept := if isDirectory then without 0o6000 c.mentioned else 0
  let spread (bits : Nat) : Nat :=
    (if bits &&& 0o444 != 0 then 0o444 else 0) ||| (if bits &&& 0o222 != 0 then 0o222 else 0) |||
      (if bits &&& 0o111 != 0 then 0o111 else 0)
  let value := match c.source with
    | .given => c.value
    | .copied => spread (c.value &&& mode)
    | .withRun => if isDirectory || mode &&& 0o111 != 0 then c.value ||| 0o111 else c.value
  let reach := if c.affected == 0 then without all mask else c.affected
  let value := without (value &&& reach) kept
  match c.operator with
  | '+' => mode ||| value
  | '-' => without mode value
  | _ =>
    let preserved := (if c.affected == 0 then 0 else without all c.affected) ||| kept
    (mode &&& preserved) ||| value

/-- The bits after some changes. -/
def apply (isDirectory : Bool) (mask : Nat) (changes : List Change) (mode : Nat) : Nat :=
  changes.foldl (Change.apply isDirectory mask) mode

/-- Permission bits as octal digits, at least `width` of them. -/
def octalText (width mode : Nat) : String :=
  let ds := Nat.toDigits 8 mode
  String.ofList (List.replicate (width - ds.length) '0' ++ ds)

/-- Permission bits as nine letters. -/
def letters (mode : Nat) : String :=
  let bit (n : Nat) (c : String) : String := if mode &&& n != 0 then c else "-"
  let last (run special : Nat) (c : Char) : String :=
    if mode &&& special != 0 then
      String.singleton (if mode &&& run != 0 then c else c.toUpper)
    else bit run "x"
  bit 0o400 "r" ++ bit 0o200 "w" ++ last 0o100 0o4000 's' ++
    bit 0o040 "r" ++ bit 0o020 "w" ++ last 0o010 0o2000 's' ++
    bit 0o004 "r" ++ bit 0o002 "w" ++ last 0o001 0o1000 't'

end CompileOrder.Shell.Mode
