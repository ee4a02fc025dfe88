import CompileOrder.Shell.Regex.Notation
import CompileOrder.Shell.Utility.Reading

/-!
# Files in sections

A file is cut into sections at lines with given numbers or at lines that agree with
expressions; each section becomes a file of its own. If a line cannot be found, the rest is
still counted, but the files that were made are removed again.
-/

namespace CompileOrder.Shell.Utility

open Tool

/-- Where a section ends. -/
inductive SectionEnd where
  /-- Before a line with a number. -/
  | line (number : Nat)
  /-- Some lines from a line that agrees with an expression; the section may be dropped. -/
  | agreeing (regex : Regex) (offset : Int) (isDropped : Bool)

/-- Where sections end, perhaps several times. -/
structure SectionRule where
  /-- Where a section ends. -/
  stop : SectionEnd
  /-- The argument that says so. -/
  text : String
  /-- How often more; none if that is until the end. -/
  more : Option Nat := some 0

/-- The parts of a text around its last occurrence of a character. -/
def aroundLast (c : Char) (cs : List Char) : Option (List Char × List Char) :=
  let after := cs.reverse.takeWhile fun d => d != c
  if after.length == cs.length then none
  else some (cs.take (cs.length - after.length - 1), after.reverse)

/-- The rule that an argument gives, or why it gives none. -/
def sectionRule (text : String) : Except String SectionRule := do
  let quoted := Quote.inWords text
  match text.toList with
  | c :: cs =>
    if c == '/' || c == '%' then
      match aroundLast c cs with
      | none => throw (text ++ ": closing delimiter '" ++ String.singleton c ++ "' missing")
      | some (body, after) =>
        let regex ← match Regex.parse { isExtended := false } (String.ofList body) with
          | .ok parsed => pure parsed.regex
          | .error _ => throw (quoted ++ ": invalid regular expression: Invalid regular expression")
        let (sign, digits) : Int × List Char := match after with
          | '-' :: ds => (-1, ds)
          | '+' :: ds => (1, ds)
          | ds => (1, ds)
        let offset : Int ← match after, Octets.number? (String.ofList digits) with
          | [], _ => pure 0
          | _, some n => pure (sign * (n : Int))
          | _, none => throw (quoted ++ ": integer expected after delimiter")
        return ⟨.agreeing regex offset (c == '%'), text, some 0⟩
    else match Octets.number? text with
      | some 0 => throw (text ++ ": line number must be greater than zero")
      | some n => return ⟨.line n, text, some 0⟩
      | none => throw (quoted ++ ": invalid pattern")
  | [] => throw (quoted ++ ": invalid pattern")

/-- Arguments with the repeat counts that follow them. -/
def withCounts : List String → List (String × Option String)
  | word :: next :: rest =>
    if next.toList.head? == some '\x7b' then (word, some next) :: withCounts rest
    else (word, none) :: withCounts (next :: rest)
  | [word] => [(word, none)]
  | [] => []

/-- How often more a repeat count says; none if that is until the end. -/
def sectionCount (text : String) : Except String (Option Nat) :=
  let inner := Octets.dropFirst 1 text
  if inner.toList.getLast? != some '\x7d' then
    .error (Quote.inWords text ++ ": '\x7d' is required in repeat count")
  else match String.ofList inner.toList.dropLast with
    | "*" => .ok none
    | digits => match Octets.number? digits with
      | some n => .ok (some n)
      | none =>
        .error (Quote.inWords (String.ofList text.toList.dropLast) ++
          "\x7d: integer required between '\x7b' and '\x7d'")

/-- The rules that arguments give after a line with a number, with the warnings that they
call for. -/
def sectionRules :
    Nat → List (String × Option String) → Except String (List SectionRule × List String)
  | _, [] => .ok ([], [])
  | last, (word, count) :: rest => do
    let rule ← sectionRule word
    let (last, warnings) ← match rule.stop with
      | .line n =>
        if n < last then throw ("line number " ++ Quote.inWords word ++
            " is smaller than preceding line number, " ++ toString last)
        else pure (n, if n == last then ["warning: line number " ++ Quote.inWords word ++
            " is the same as preceding line number"] else [])
      | _ => pure (last, [])
    let more ← match count with
      | some text => sectionCount text
      | none => pure (some 0)
    let (rules, others) ← sectionRules last rest
    return ({ rule with more := more } :: rules, warnings ++ others)

/-- How the names of sections end: texts around a number. -/
structure SectionName where
  /-- What stands before the number. -/
  before : String
  /-- The base of the number. -/
  base : Nat := 10
  /-- Whether the digits above nine are large. -/
  isLarge : Bool := false
  /-- The marks before the width. -/
  flags : List Char := []
  /-- The width. -/
  width : Nat := 0
  /-- The least number of digits, if it is given. -/
  digits : Option Nat := none
  /-- What stands after the number. -/
  after : String := ""

namespace SectionName

/-- A number of a section as it stands in its name. -/
def text (s : SectionName) (n : Nat) : String :=
  let ds := Nat.toDigits s.base n
  let ds := if s.isLarge then ds.map Char.toUpper else ds
  let ds := List.replicate (s.digits.getD 1 - ds.length) '0' ++ ds
  let mark := if s.flags.contains '#' && n != 0 then
      match s.base with
      | 8 => ['0']
      | 16 => ['0', if s.isLarge then 'X' else 'x']
      | _ => []
    else []
  let fill := s.width - mark.length - ds.length
  let number := if s.flags.contains '-' then mark ++ ds ++ List.replicate fill ' '
    else if s.flags.contains '0' && s.digits.isNone then mark ++ List.replicate fill '0' ++ ds
    else List.replicate fill ' ' ++ mark ++ ds
  s.before ++ String.ofList number ++ s.after

/-- Text up to a directive, with doubled signs made single, and what follows its sign. -/
def upToDirective : Nat → List Char → List Char → List Char × Option (List Char)
  | 0, _, seen => (seen.reverse, none)
  | _ + 1, [], seen => (seen.reverse, none)
  | n + 1, '%' :: '%' :: cs, seen => upToDirective n cs ('%' :: seen)
  | _ + 1, '%' :: cs, seen => (seen.reverse, some cs)
  | n + 1, c :: cs, seen => upToDirective n cs (c :: seen)

/-- The ending that a format describes. -/
def ofFormat (format : String) : Except String SectionName := do
  let size := format.length + 1
  match upToDirective size format.toList [] with
  | (_, none) => throw "missing % conversion specification in suffix"
  | (before, some cs) =>
    let flags := cs.takeWhile fun c => "-0#'".toList.contains c
    let cs := cs.drop flags.length
    let width := cs.takeWhile Char.isDigit
    let cs := cs.drop width.length
    let (digits, cs) := match cs with
      | '.' :: cs =>
        let ds := cs.takeWhile Char.isDigit
        (some (Octets.number ds), cs.drop ds.length)
      | cs => (none, cs)
    let (base, isLarge) ← match cs.head? with
      | some 'd' | some 'i' | some 'u' => pure (10, false)
      | some 'o' => pure (8, false)
      | some 'x' => pure (16, false)
      | some 'X' => pure (16, true)
      | some c => throw ("invalid conversion specifier in suffix: " ++ String.singleton c)
      | none => throw "missing conversion specifier in suffix"
    match upToDirective size cs.tail [] with
    | (_, some _) => throw "too many % conversion specifications in suffix"
    | (after, none) =>
      return ⟨String.ofList before, base, isLarge, flags, Octets.number width, digits,
        String.ofList after⟩

end SectionName

/-- How sections are written. -/
structure SectionRules where
  /-- What names begin with. -/
  start : String := "xx"
  /-- How names end. -/
  ending : SectionName
  /-- Whether the files stay if a line cannot be found. -/
  keeps : Bool := false
  /-- Whether sizes are not told. -/
  isQuiet : Bool := false
  /-- Whether empty sections are left out. -/
  skipsEmpty : Bool := false
  /-- Whether the lines at which sections end are left out. -/
  dropsEnds : Bool := false

/-- What is left of the file, and what was made of it. -/
structure Sectioning where
  /-- The lines that are left. -/
  rest : List String
  /-- The number of the first line that is left. -/
  first : Nat := 1
  /-- The number of the line that was looked at last. -/
  current : Nat := 0
  /-- The lines of the section, the last one first, if there is one. -/
  part : Option (List String) := none
  /-- The files that were made, the last one first. -/
  made : List String := []

/-- An action that cuts a file into sections; it may end with a code. -/
abbrev Sectioner := ExceptT Nat (StateT Sectioning Tool)

namespace Sectioner

/-- Something else is done. -/
def lift {α : Type} (action : Tool α) : Sectioner α := ExceptT.lift (StateT.lift action)

/-- A section begins. -/
def openPart : Sectioner Unit := modify fun s => { s with part := some [] }

/-- A section ends and is written. -/
def closePart (r : SectionRules) : Sectioner Unit := do
  let s ← get
  match s.part with
  | none => return
  | some lines =>
    set { s with part := none }
    let text := String.join lines.reverse
    if text.isEmpty && r.skipsEmpty then return
    let path := r.start ++ r.ending.text s.made.length
    match (← lift get).writeFile path (Octets.toBytes text) with
    | .ok m =>
      lift (set m)
      modify fun s => { s with made := path :: s.made }
      if !r.isQuiet then lift (outLines [toString text.length])
    | .error fault =>
      lift (complain (Quote.ifNeeded path ++ ": " ++ fault.words))
      throw 1

/-- A line is taken; it goes into the section if there is one. -/
def takeLine : Sectioner Bool := do
  let s ← get
  match s.rest with
  | [] => return false
  | line :: rest =>
    set { s with rest := rest, first := s.first + 1, current := max s.current s.first
                 part := s.part.map fun p => line :: p }
    return true

/-- Lines are taken, at most some; how many there were. -/
def takeLines : Nat → Sectioner Nat
  | 0 => return 0
  | n + 1 => do
    if ← takeLine then return (← takeLines n) + 1 else return 0

/-- All lines are taken. -/
def takeAll : Sectioner Unit := do
  let _ ← takeLines (← get).rest.length

/-- The work ends because a line cannot be found. -/
def giveUp (r : SectionRules) : Sectioner Unit := do
  closePart r
  if !r.keeps then
    for path in (← get).made do
      match (← lift get).locate path with
      | .ok place => lift (modify fun m => m.removeAt place)
      | .error _ => pure ()
  throw 1

/-- A message about a line that cannot be found, at a repetition. -/
def notFound (what words : String) (repetition : Nat) : Sectioner Unit :=
  lift (complain (Quote.inWords what ++ ": " ++ words ++
    (if repetition == 0 then "" else " on repetition " ++ toString repetition)))

/-- A line is left out if ends of sections are. -/
def dropEnd (r : SectionRules) : Sectioner Unit := do
  if r.dropsEnds then
    let part := (← get).part
    modify fun s => { s with part := none }
    let _ ← takeLine
    modify fun s => { s with part := part }

/-- The words for a line that is not there. -/
def outOfRange : String := "line number out of range"

/-- A section up to a line with a number. -/
def upToLine (r : SectionRules) (number repetition : Nat) : Sectioner Unit := do
  let last := number * (repetition + 1)
  let fault : Sectioner Unit := do
    notFound (toString number) outOfRange repetition
    giveUp r
  let isPastEnd : Sectioner Bool := do
    let s ← get
    return s.first + s.rest.length ≤ s.current + 1
  openPart
  if r.dropsEnds && (← isPastEnd) then fault
  let s ← get
  if s.first == 1 && s.rest.isEmpty then
    lift (complain "input disappeared")
    closePart { r with isQuiet := true }
    throw 1
  let wanted := last - (← get).first
  if (← takeLines wanted) < wanted then fault
  closePart r
  dropEnd r
  if !r.dropsEnds && (← isPastEnd) then fault

/-- A section up to a line that agrees with an expression. -/
def upToAgreeing (r : SectionRules) (rule : SectionRule) (regex : Regex) (offset : Int)
    (isDropped : Bool) (repetition : Nat) : Sectioner Unit := do
  if !isDropped then openPart
  let s ← get
  let start := s.current + 1
  let isAgreeing (line : String) : Bool :=
    let cs := line.toList
    regex.isIn (String.ofList (if cs.getLast? == some '\n' then cs.dropLast else cs))
  match (s.rest.drop (start - s.first)).findIdx? isAgreeing with
  | none =>
    if rule.more.isSome then notFound rule.text "match not found" repetition
    if !isDropped then
      takeAll
      closePart r
    if rule.more.isNone then throw 0
    giveUp r
  | some i =>
    let found := start + i
    modify fun s => { s with current := found }
    let stop : Int := (found : Int) + offset
    let wanted := stop - s.first
    if wanted < 0 then
      notFound rule.text outOfRange 0
      giveUp r
    if (← takeLines wanted.toNat) < wanted.toNat then
      notFound rule.text outOfRange 0
      giveUp r
    closePart r
    if 0 < offset then modify fun s => { s with current := stop.toNat }
    dropEnd r

/-- A rule is followed `n` times from a repetition on. -/
def follow (r : SectionRules) (rule : SectionRule) : Nat → Nat → Sectioner Unit
  | 0, _ => return
  | n + 1, repetition => do
    match rule.stop with
    | .line number => upToLine r number repetition
    | .agreeing regex offset isDropped => upToAgreeing r rule regex offset isDropped repetition
    follow r rule n (repetition + 1)

/-- All rules are followed, and the rest is the last section. -/
def all (r : SectionRules) (rules : List SectionRule) : Sectioner Unit := do
  for rule in rules do
    let lines := (← get).rest.length
    follow r rule (match rule.more with
      | some n => n + 1
      | none => lines + 2) 0
  openPart
  takeAll
  closePart r

end Sectioner

/-- Cuts a file into sections. -/
def csplit : Tool Nat :=
  withOptions [{ letter := 'b', word := "suffix-format", takes := .required },
      { letter := 'f', word := "prefix", takes := .required },
      { letter := 'k', word := "keep-files" },
      { letter := 'n', word := "digits", takes := .required },
      { letter := 's', word := "quiet" }, { letter := 's', word := "silent" }, { letter := 'q' },
      { letter := 'z', word := "elide-empty-files" },
      { letter := '\x01', word := "suppress-matched" }] 1 fun p => do
    let digits? := (p.get? 'n').map fun n => (n, Octets.number? n)
    match digits?, p.operands with
    | some (n, none), _ => fail 1 ("invalid number: " ++ Quote.inWords n)
    | _, [] => misuse 1 "missing operand"
    | _, [path] => misuse 1 ("missing operand after " ++ Quote.inWords path)
    | _, path :: words =>
      let digits := (digits?.bind fun d => d.2).getD 2
      let ending := match p.get? 'b' with
        | some format => SectionName.ofFormat format
        | none => .ok { before := "", flags := ['0'], width := digits }
      match ending, ← contents path with
      | .error message, _ => fail 1 message
      | _, .error .isDirectory => fail 1 ("read error: " ++ FileFault.isDirectory.words)
      | _, .error fault =>
        fail 1 ("cannot open " ++ Quote.always path ++ " for reading: " ++ fault.words)
      | .ok ending, .ok text =>
        match sectionRules 0 (withCounts words) with
        | .error message => fail 1 message
        | .ok (rules, warnings) =>
          warnings.forM complain
          let r : SectionRules :=
            { start := (p.get? 'f').getD "xx", ending := ending, keeps := p.has 'k'
              isQuiet := p.has 's' || p.has 'q', skipsEmpty := p.has 'z'
              dropsEnds := p.has '\x01' }
          let (result, _) ← ((Sectioner.all r rules).run).run { rest := pieces text }
          match result with
          | .ok () => return 0
          | .error code => return code

end CompileOrder.Shell.Utility
