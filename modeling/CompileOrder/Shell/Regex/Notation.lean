import CompileOrder.Shell.Regex

/-!
# Notations of regular expressions

In the basic notation the operators apart from the asterisk are written with a
backslash; in the extended notation a backslash takes their meaning away. Both have
sets of characters in brackets, anchors, parts that can be referred to, and letters
with a backslash for classes of characters.
-/

namespace CompileOrder.Shell.Regex

/-- Why a text is not a regular expression. -/
inductive Fault where
  | unmatchedParenthesis | unmatchedClosing | unmatchedBracket | unmatchedBrace
  | badRange | badClass
  | badRepetition | badInterval | badReference | trailingBackslash | classOutside | tooBig | invalid
  deriving DecidableEq, Repr

/-- The reason in words. -/
def Fault.words : Fault → String
  | .unmatchedParenthesis => "Unmatched ( or \\("
  | .unmatchedClosing => "Unmatched ) or \\)"
  | .unmatchedBracket => "Unmatched [, [^, [:, [., or [="
  | .unmatchedBrace => "Unmatched \\\x7b"
  | .badRange => "Invalid range end"
  | .badClass => "Invalid character class name"
  | .badRepetition => "Invalid preceding regular expression"
  | .badInterval => "Invalid content of \\\x7b\\\x7d"
  | .badReference => "Invalid back reference"
  | .trailingBackslash => "Trailing backslash"
  | .classOutside => "character class syntax is [[:space:]], not [:space:]"
  | .tooBig => "Regular expression too big"
  | .invalid => "Invalid regular expression"

/-- How expressions are written. -/
structure Dialect where
  /-- The extended notation. -/
  isExtended : Bool
  /-- Upper and lower case are the same. -/
  isFolded : Bool := false
  /-- A backslash has a meaning in brackets. -/
  escapesInSets : Bool := false
  /-- Braces stand for a number of times. -/
  hasIntervals : Bool := true
  deriving DecidableEq, Repr

/-- The state of reading an expression. -/
structure Reader where
  /-- The characters that are left. -/
  rest : List Char
  /-- The number of parts that were begun. -/
  groups : Nat := 0
  /-- The numbers of the parts that were ended. -/
  closed : List Nat := []
  /-- The operators that stood at the start of an expression, the last one first. -/
  strays : List String := []

/-- A step of reading an expression. -/
abbrev Read := StateT Reader (Except Fault)

/-- The characters that are left. -/
def rest : Read (List Char) := do return (← get).rest

/-- The characters that are left are replaced. -/
def setRest (cs : List Char) : Read Unit := modify fun s => { s with rest := cs }

/-- The characters for one with a property, perhaps in both cases. -/
def Dialect.char (d : Dialect) (p : Char → Bool) : Regex :=
  if d.isFolded then .one fun c => p c || p c.toUpper || p c.toLower else .one p

/-- One character. -/
def Dialect.literal (d : Dialect) (c : Char) : Regex := d.char fun x => x == c

/-- One end of a range in brackets, and the rest. -/
def setEnd (d : Dialect) : List Char → Except Fault (Char × List Char)
  | '[' :: '.' :: c :: '.' :: ']' :: cs => .ok (c, cs)
  | '\\' :: c :: cs =>
    if d.escapesInSets then
      match c with
      | 'n' => .ok ('\n', cs)
      | 't' => .ok ('\t', cs)
      | 'r' => .ok ('\r', cs)
      | 'f' => .ok ('\x0c', cs)
      | 'v' => .ok ('\x0b', cs)
      | 'a' => .ok ('\x07', cs)
      | 'b' => .ok ('\x08', cs)
      | c => .ok (c, cs)
    else .ok ('\\', c :: cs)
  | c :: cs => .ok (c, cs)
  | [] => .error .unmatchedBracket

/-- The members of a set up to its closing bracket, and the rest; `isFirst` tells whether
a closing bracket stands for itself. -/
def setMembers (d : Dialect) : Nat → Bool → List Char →
    Except Fault (List (Char → Bool) × List Char)
  | 0, _, _ => .error .unmatchedBracket
  | _ + 1, _, [] => .error .unmatchedBracket
  | n + 1, isFirst, c :: cs => do
    if c == ']' && !isFirst then return ([], cs)
    let continued (p : Char → Bool) (cs : List Char) :
        Except Fault (List (Char → Bool) × List Char) := do
      let (ps, cs) ← setMembers d n false cs
      return (p :: ps, cs)
    match c, cs with
    | '[', ':' :: after =>
      let name := after.takeWhile fun x => x != ':'
      match after.drop name.length with
      | ':' :: ']' :: after =>
        match Pattern.classes.find? fun k => k.1 == String.ofList name with
        | some (_, p) => continued p after
        | none => throw .badClass
      | _ => throw .unmatchedBracket
    | '[', '=' :: x :: '=' :: ']' :: after => continued (fun y => x == y) after
    | _, _ =>
      let (low, after) ← setEnd d (c :: cs)
      match after with
      | '-' :: ']' :: _ => continued (fun x => x == low) after
      | '-' :: more@(_ :: _) =>
        let (high, after) ← setEnd d more
        if high < low then throw .badRange
        continued (fun x => low ≤ x && x ≤ high) after
      | after => continued (fun x => x == low) after

/-- A set after its opening bracket. -/
def readSet (d : Dialect) : Read Regex := do
  let cs ← rest
  let (isInverted, inner) := match cs with
    | '^' :: inner => (true, inner)
    | inner => (false, inner)
  if inner.isEmpty then throw .invalid
  match cs with
  | ':' :: _ =>
    let inside := cs.takeWhile fun c => c != ']'
    if 1 < inside.length && inside.getLast? == some ':' &&
      (cs.drop inside.length).head? == some ']' then
      throw .classOutside
  | _ => pure ()
  let (members, after) ← setMembers d (inner.length + 1) true inner
  setRest after
  let holds (c : Char) : Bool := members.any fun p => p c
  let folded (c : Char) : Bool :=
    if d.isFolded then holds c || holds c.toUpper || holds c.toLower else holds c
  return .one fun c => folded c != isInverted

/-- The class of characters that a letter with a backslash stands for. -/
def classLetter? : Char → Option (Char → Bool)
  | 'w' => some isWordPart
  | 'W' => some fun c => !isWordPart c
  | 's' => some Octets.isSpace
  | 'S' => some fun c => !Octets.isSpace c
  | _ => none

/-- The place that a letter with a backslash stands for. -/
def placeLetter? : Char → Option Regex
  | 'b' => some .wordEdge
  | 'B' => some .wordInside
  | '<' => some .wordStart
  | '>' => some .wordEnd
  | '\x60' => some .textStart
  | '\'' => some .textEnd
  | _ => none

/-- What a backslash and a character stand for. -/
def readEscape (d : Dialect) (c : Char) : Read Regex := do
  match classLetter? c, placeLetter? c with
  | some p, _ => return .one p
  | none, some r => return r
  | none, none =>
    if c.isDigit && c != '0' then
      let n := c.toNat - 48
      if !((← get).closed.contains n) then throw .badReference
      return .back n
    else return d.literal c

/-- The greatest number of times. -/
def maxTimes : Nat := 32767

/-- An interval after its opening brace: the numbers of times and the rest. -/
def interval? (cs : List Char) (close : List Char) : Option (Nat × Option Nat × List Char) :=
  let low := cs.takeWhile Char.isDigit
  let cs := cs.drop low.length
  let finish (least : Nat) (most : Option Nat) (cs : List Char) :
      Option (Nat × Option Nat × List Char) :=
    if close.isPrefixOf cs then some (least, most, cs.drop close.length) else none
  match cs with
  | ',' :: cs =>
    let high := cs.takeWhile Char.isDigit
    finish (Octets.number low) (if high.isEmpty then none else some (Octets.number high))
      (cs.drop high.length)
  | cs => if low.isEmpty then none else finish (Octets.number low) (some (Octets.number low)) cs

/-- An operator that says how often something is repeated. -/
inductive Times where
  | none
  | interval (least : Nat) (most : Option Nat)

/-- The operator that follows, if one does. -/
def readTimes (d : Dialect) : Read Times := do
  let braces (inner : List Char) (close : List Char) : Read Times := do
    match interval? inner close with
    | some (least, most, after) =>
      if most.any fun m => m < least then throw .badInterval
      if maxTimes < least || most.any fun m => maxTimes < m then throw .tooBig
      setRest after
      return .interval least most
    | none => return .none
  match d.isExtended, ← rest with
  | _, '*' :: cs =>
    setRest cs
    return .interval 0 none
  | true, '+' :: cs | false, '\\' :: '+' :: cs =>
    setRest cs
    return .interval 1 none
  | true, '?' :: cs | false, '\\' :: '?' :: cs =>
    setRest cs
    return .interval 0 (some 1)
  | true, '\x7b' :: cs => if d.hasIntervals then braces cs ['\x7d'] else return .none
  | false, '\\' :: '\x7b' :: cs =>
    match ← braces cs ['\\', '\x7d'] with
    | .none =>
      if (cs.zip (cs.drop 1)).any fun p => p == ('\\', '\x7d') then throw .badInterval
      throw .unmatchedBrace
    | times => return times
  | _, _ => return .none

/-- The rules of one level of parentheses. -/
structure Rules where
  /-- Expressions of which one is enough. -/
  alternation : Read Regex

section

variable (d : Dialect) (rules : Rules)

/-- Whether the branch is over: nothing is left, or an operator ends it. -/
def isBranchEnd (depth : Nat) : List Char → Bool
  | [] => true
  | '|' :: _ => d.isExtended
  | ')' :: _ => d.isExtended && depth != 0
  | '\\' :: '|' :: _ => !d.isExtended
  | '\\' :: ')' :: _ => !d.isExtended && depth != 0
  | _ => false

/-- A part in parentheses, after the opening one. -/
def readGroup (close : List Char) : Read Regex := do
  let n := (← get).groups + 1
  modify fun s => { s with groups := n }
  let r ← rules.alternation
  let cs ← rest
  if close.isPrefixOf cs then
    modify fun s => { s with rest := cs.drop close.length, closed := n :: s.closed }
    return .group n r
  else throw .unmatchedParenthesis

/-- One item without an operator after it; `isStart` tells whether it is the first one. -/
def readItem (depth : Nat) (isStart : Bool) : Read Regex := do
  match ← rest with
  | [] => return .empty
  | c :: cs =>
    setRest cs
    match d.isExtended, c with
    | _, '[' => readSet d
    | _, '.' => return .one fun _ => true
    | true, '(' => readGroup rules [')']
    | true, ')' => if depth == 0 then return d.literal ')' else return .empty
    | true, '^' => return .lineStart
    | true, '$' => return .lineEnd
    | false, '^' => if isStart then return .lineStart else return d.literal '^'
    | false, '$' => if isBranchEnd d depth cs then return .lineEnd else return d.literal '$'
    | true, '*' | true, '+' | true, '?' =>
      if isStart then stray (String.singleton c)
      else return d.literal c
    | true, '\x7b' =>
      match if isStart && d.hasIntervals then interval? cs ['\x7d'] else none with
      | some (_, _, after) =>
        setRest after
        stray "\x7b...\x7d"
      | none => return d.literal c
    | _, '\\' =>
      match cs with
      | [] => throw .trailingBackslash
      | x :: cs =>
        setRest cs
        if !d.isExtended && x == '(' then readGroup rules ['\\', ')']
        else if !d.isExtended && x == ')' then throw .unmatchedClosing
        else readEscape d x
    | _, c => return d.literal c
where
  /-- An operator that has nothing to work on. -/
  stray (operator : String) : Read Regex := do
    modify fun s => { s with strays := operator :: s.strays }
    return .empty

/-- An item with the operators after it, of which there are at most `n`. -/
def readOperators (r : Regex) : Nat → Read Regex
  | 0 => return r
  | n + 1 => do
    match ← readTimes d with
    | .none => return r
    | .interval least most => readOperators (.many r least most) n

/-- A branch: at most `n` items one after the other. -/
def readBranch (depth : Nat) (isStart : Bool) : Nat → Read Regex
  | 0 => return .empty
  | n + 1 => do
    let cs ← rest
    if isBranchEnd d depth cs then return .empty
    let item ← readItem d rules depth isStart
    let isAnchor := match item with
      | .lineStart => true
      | _ => false
    let r ← if isAnchor then pure item else readOperators d item (cs.length + 1)
    let more ← readBranch depth (isStart && isAnchor) n
    return match r, more with
      | r, .empty => r
      | .empty, more => more
      | r, more => .concat r more

/-- Branches of which one is enough, at most `n`. -/
def readBranches (depth : Nat) : Nat → Read Regex
  | 0 => return .empty
  | n + 1 => do
    let cs ← rest
    let first ← readBranch d rules depth true (cs.length + 1)
    match d.isExtended, ← rest with
    | true, '|' :: cs | false, '\\' :: '|' :: cs =>
      setRest cs
      return .either first (← readBranches depth n)
    | _, _ => return first

end

/-- The rules with a number of levels of parentheses, at a depth. -/
def rulesAt (d : Dialect) : Nat → Nat → Rules
  | 0, _ => ⟨throw .tooBig⟩
  | n + 1, depth => ⟨do
    let cs ← rest
    readBranches d (rulesAt d n (depth + 1)) depth (cs.length + 1)⟩

/-- An expression that was read. -/
structure Parsed where
  /-- The expression. -/
  regex : Regex
  /-- The number of its parts. -/
  groups : Nat
  /-- The operators that had nothing to work on. -/
  strays : List String

/-- The expression that a text is. Its parts are numbered from after `groups` on. -/
def parse (d : Dialect) (text : String) (groups : Nat := 0) : Except Fault Parsed := do
  let (r, s) ← (rulesAt d (text.length + 1) 0).alternation.run
    { rest := text.toList, groups := groups }
  return ⟨r, s.groups, s.strays.reverse⟩

/-- The expression that stands for a text itself. -/
def ofText (d : Dialect) (text : String) : Regex :=
  text.toList.foldr (fun c r => match r with
    | .empty => d.literal c
    | r => .concat (d.literal c) r) .empty

end CompileOrder.Shell.Regex
