import CompileOrder.Shell.Regex.Notation
import CompileOrder.Shell.Utility.Values

/-!
# Scripts of a stream editor

A script is a list of commands, each for the lines that addresses choose. Commands
change the line at hand, show it, or go on elsewhere in the script.
-/

namespace CompileOrder.Shell.Sed

/-- An expression as it is used in a script. -/
structure Expression where
  /-- The expression; none stands for the one used last. -/
  regex : Option Regex
  /-- The number of its parts. -/
  groups : Nat := 0
  /-- Whether starts and ends of lines count. -/
  isMultiline : Bool := false

/-- A line to begin with. -/
inductive Address where
  /-- The line with a number. -/
  | line (n : Nat)
  /-- Every line in steps from the first one. -/
  | step (first step : Nat)
  /-- The last line. -/
  | last
  /-- Lines that an expression describes. -/
  | regex (e : Expression)

/-- A line to end with. -/
inductive Stop where
  /-- A line like one to begin with. -/
  | address (a : Address)
  /-- A number of lines later. -/
  | later (n : Nat)
  /-- The next line with a number that can be divided. -/
  | multiple (n : Nat)

/-- The lines that a command is for. -/
structure Lines where
  /-- The first one. -/
  first : Address
  /-- The last one. -/
  last : Option Stop := none
  /-- Whether the first line can be the last one. -/
  isFromStart : Bool := false

/-- How letters are written. -/
inductive LetterCase where
  | upper | lower | upperNext | lowerNext | end
  deriving DecidableEq, Repr

/-- A part of a replacement. -/
inductive ReplacementPart where
  /-- A text. -/
  | text (s : String)
  /-- What a part of the expression described; nought is all of it. -/
  | group (n : Nat)
  /-- A change of case. -/
  | letters (c : LetterCase)
  deriving DecidableEq, Repr

/-- A substitution. -/
structure Substitution where
  /-- What is replaced. -/
  target : Expression
  /-- What it is replaced by. -/
  parts : List ReplacementPart
  /-- Whether all are replaced. -/
  isGlobal : Bool := false
  /-- The first one to be replaced. -/
  number : Nat := 1
  /-- Whether the line is shown. -/
  prints : Bool := false
  /-- The file that the line is written to. -/
  file : Option String := none

/-- A command. -/
inductive Action where
  | blockStart | blockEnd | nothing
  | append (text : String) | insert (text : String) | change (text : String)
  | label (name : String) | branch (name : String) | branchIf (name : String)
  | branchUnless (name : String)
  | delete | deleteFirst | print | printFirst | number | list
  | next | nextAppend | hold | holdAppend | fetch | fetchAppend | exchange
  | quit (code : Nat) | quitSilently (code : Nat)
  | readFile (path : String) | readLine (path : String) | writeFile (path : String)
  | writeFirst (path : String)
  | substitute (s : Substitution) | transliterate (table : List (Char × Char)) | zap | fileName

/-- A command with the lines it is for. -/
structure Instruction where
  /-- The lines; none stands for all. -/
  lines : Option Lines := none
  /-- Whether it is for the other lines. -/
  isInverted : Bool := false
  /-- What it does. -/
  action : Action

/-- The state of reading a script. -/
structure Reader where
  /-- The characters that are left. -/
  rest : List Char
  /-- The number of characters that were read. -/
  used : Nat := 0
  /-- Whether expressions are in the extended notation. -/
  isExtended : Bool
  /-- The number of blocks that are open. -/
  depth : Nat := 0

/-- A fault of a script: the number of characters read before it, and what it is. -/
abbrev Fault := Nat × String

/-- A step of reading a script. -/
abbrev Read := StateT Reader (Except Fault)

/-- The script has a fault. -/
def wrong {α : Type} (message : String) : Read α := do
  throw ((← get).used, message)

/-- The next character, which is not taken. -/
def peek : Read (Option Char) := do return (← get).rest.head?

/-- The next character. -/
def take : Read (Option Char) := do
  match (← get).rest with
  | [] => return none
  | c :: cs =>
    modify fun s => { s with rest := cs, used := s.used + 1 }
    return some c

/-- The next characters that have a property. -/
def takeWhile (p : Char → Bool) : Read (List Char) := do
  let cs := (← get).rest.takeWhile p
  modify fun s => { s with rest := s.rest.drop cs.length, used := s.used + cs.length }
  return cs

/-- Blanks are passed over. -/
def skipBlanks : Read Unit := do
  let _ ← takeWhile fun c => c != '\n' && Octets.isSpace c

/-- The number of characters of a set in brackets, with both of them; nought if it is not
closed. -/
def setLength (cs : List Char) : Nat :=
  let start := match cs with
    | '^' :: ']' :: _ => 2
    | '^' :: _ => 1
    | ']' :: _ => 1
    | _ => 0
  let rec inner : Nat → Nat → List Char → Nat
    | 0, _, _ => 0
    | _ + 1, _, [] => 0
    | _ + 1, n, ']' :: _ => n + 1
    | fuel + 1, n, '[' :: k :: cs =>
      if k == ':' || k == '.' || k == '=' then
        let name := cs.takeWhile fun c => c != k
        match cs.drop name.length with
        | _ :: ']' :: after => inner fuel (n + name.length + 4) after
        | _ => inner fuel (n + 1) (k :: cs)
      else inner fuel (n + 1) (k :: cs)
    | fuel + 1, n, _ :: cs => inner fuel (n + 1) cs
  let count := inner (cs.length + 1) 0 (cs.drop start)
  if count == 0 then 0 else count + start

/-- The text up to a delimiter, the last character first; none if there is no delimiter. -/
def delimitedFrom (delimiter : Char) (isRegex : Bool) : Nat → List Char → Read (Option (List Char))
  | 0, _ => return none
  | n + 1, done => do
    match ← take with
    | none => return none
    | some c =>
      if c == delimiter then return some done
      else if c == '\\' then
        match ← take with
        | none => return none
        | some x =>
          if x == delimiter && !(x == '&' && !isRegex) then
            delimitedFrom delimiter isRegex n (x :: done)
          else if x == 'n' && isRegex then delimitedFrom delimiter isRegex n ('\n' :: done)
          else delimitedFrom delimiter isRegex n (x :: '\\' :: done)
      else if c == '[' && isRegex then
        let cs := (← get).rest
        let length := if setLength cs == 0 then cs.length else setLength cs
        modify fun s => { s with rest := s.rest.drop length, used := s.used + length }
        delimitedFrom delimiter isRegex n ((setText (cs.take length)).reverse ++ '[' :: done)
      else if c == '\n' && !isRegex then delimitedFrom delimiter isRegex n (c :: done)
      else delimitedFrom delimiter isRegex n (c :: done)
where
  /-- A set in which escapes of line feeds are resolved. -/
  setText : List Char → List Char
    | '\\' :: 'n' :: cs => '\n' :: setText cs
    | '\\' :: ']' :: cs => '\\' :: ']' :: setText cs
    | c :: cs => c :: setText cs
    | [] => []

/-- The text up to a delimiter. -/
def delimited (delimiter : Char) (isRegex : Bool) : Read (Option String) := do
  let found ← delimitedFrom delimiter isRegex ((← get).rest.length + 1) []
  return found.map fun cs => String.ofList cs.reverse

/-- The octet that digits of a base after a letter spell, and the rest. -/
def numbered? (base count : Nat) (cs : List Char) : Option (Char × List Char) :=
  let digit? (c : Char) : Option Nat := (Utility.hexDigit? c).filter fun d => d < base
  let ds := ((cs.take count).takeWhile fun c => (digit? c).isSome).filterMap digit?
  if ds.isEmpty then none
  else some (Char.ofNat (ds.foldl (fun n d => n * base + d) 0 % 256), cs.drop ds.length)

/-- The character that a backslash and characters stand for, apart from those with a
meaning in expressions and replacements. -/
def escape? (cs : List Char) : Option (Char × List Char) :=
  match cs with
  | 'a' :: cs => some ('\x07', cs)
  | 'f' :: cs => some ('\x0c', cs)
  | 'r' :: cs => some ('\r', cs)
  | 't' :: cs => some ('\t', cs)
  | 'v' :: cs => some ('\x0b', cs)
  | 'd' :: cs => numbered? 10 3 cs
  | 'o' :: cs => numbered? 8 3 cs
  | 'x' :: cs => numbered? 16 2 cs
  | 'c' :: c :: cs => some (Char.ofNat ((c.toUpper.toNat + 64) % 128), cs)
  | _ => none

/-- An expression in which escapes of characters are resolved. -/
def plainRegex : Nat → List Char → List Char
  | 0, _ => []
  | _ + 1, [] => []
  | n + 1, '\\' :: cs =>
    match escape? cs with
    | some (c, rest) =>
      let special := "*.[]^$\\/+?()\x7b\x7d|".toList.contains c
      (if special then ['\\', c] else [c]) ++ plainRegex n rest
    | none =>
      match cs with
      | c :: rest => '\\' :: c :: plainRegex n rest
      | [] => ['\\']
  | n + 1, c :: cs => c :: plainRegex n cs

/-- The expression that a text is. -/
def expression (text : String) (isFolded isMultiline : Bool) : Read Expression := do
  if text.isEmpty then return { regex := none }
  let s ← get
  let d : Regex.Dialect := { isExtended := s.isExtended, isFolded := isFolded }
  match Regex.parse d (String.ofList (plainRegex (text.length + 1) text.toList)) with
  | .ok parsed =>
    return { regex := some parsed.regex, groups := parsed.groups, isMultiline := isMultiline }
  | .error fault => wrong fault.words

/-- A number. -/
def readNumber : Read Nat := do return Octets.number (← takeWhile Char.isDigit)

/-- An address, if there is one. -/
def readAddress : Read (Option Address) := do
  match ← peek with
  | none => return none
  | some c =>
    if c.isDigit then
      let n ← readNumber
      skipBlanks
      if (← peek) == some '~' then
        let _ ← take
        let m ← readNumber
        return some (if m == 0 then .line n else .step n m)
      return some (.line n)
    else if c == '$' then
      let _ ← take
      return some .last
    else if c == '/' || c == '\\' then
      let _ ← take
      let delimiter ← if c == '/' then pure (some '/') else take
      match delimiter with
      | none => wrong "unexpected \x60,'"
      | some delimiter =>
        match ← delimited delimiter true with
        | none => wrong "unterminated address regex"
        | some text =>
          let flags ← takeWhile fun c => c == 'I' || c == 'M'
          return some (.regex (← expression text (flags.contains 'I') (flags.contains 'M')))
    else return none

/-- The line to end with, after a comma. -/
def readStop : Read Stop := do
  skipBlanks
  match ← peek with
  | some '+' =>
    let _ ← take
    return .later (← readNumber)
  | some '~' =>
    let _ ← take
    return .multiple (← readNumber)
  | _ =>
    match ← readAddress with
    | some a => return .address a
    | none => wrong "unexpected \x60,'"

/-- The lines that a command is for, if it names any. -/
def readLines : Read (Option Lines) := do
  match ← readAddress with
  | none => return none
  | some first =>
    skipBlanks
    if (← peek) == some ',' then
      let _ ← take
      let last ← readStop
      let isFromStart := match first, last with
        | .line 0, .address (.regex _) => true
        | _, _ => false
      return some { first := first, last := some last, isFromStart := isFromStart }
    else return some { first := first }

/-- Whether the lines begin before the first one without reason. -/
def Lines.isMisused (l : Lines) : Bool :=
  match l.first with
  | .line 0 => !l.isFromStart
  | _ => false

/-- The command is over: nothing but a separator may follow. -/
def endCommand : Read Unit := do
  skipBlanks
  match ← peek with
  | none | some '\x7d' | some '#' => return
  | some c =>
    let _ ← take
    if c != ';' && c != '\n' then wrong "extra characters after command"

/-- The rest of the line. -/
def restOfLine : Read String := do
  let cs ← takeWhile fun c => c != '\n'
  let _ ← take
  return String.ofList cs

/-- The text of a command up to a line feed without a backslash, the last character
first. -/
def textFrom : Nat → List Char → Read (List Char)
  | 0, done => return done
  | n + 1, done => do
    match ← take with
    | none => return done
    | some '\n' => return '\n' :: done
    | some '\\' =>
      match ← take with
      | none => return done
      | some c =>
        match escape? (c :: (← get).rest) with
        | some (x, rest) =>
          modify fun s => { s with rest := rest, used := s.used + (s.rest.length - rest.length) }
          textFrom n (x :: done)
        | none => textFrom n ((if c == 'n' then '\n' else c) :: done)
    | some c => textFrom n (c :: done)

/-- The text of a command that adds or changes lines. -/
def readText : Read String := do
  skipBlanks
  match ← peek with
  | none => wrong "expected \\ after \x60a', \x60c' or \x60i'"
  | some '\\' =>
    let _ ← take
    let blanks ← takeWhile fun c => c == ' ' || c == '\t'
    if (← peek) == some '\n' then
      let _ ← take
    else modify fun s => { s with rest := blanks ++ s.rest, used := s.used - blanks.length }
  | some _ => pure ()
  let s ← get
  let cs ← textFrom (s.rest.length + 1) []
  let cs := if cs.isEmpty || cs.head? == some '\n' then cs else '\n' :: cs
  return String.ofList cs.reverse

/-- A label. -/
def readLabel : Read String := do
  skipBlanks
  let cs ← takeWhile fun c => c != ';' && c != '\n' && c != '\x7d' && !Octets.isSpace c
  endCommand
  return String.ofList cs

/-- The name of a file. -/
def readPath : Read String := do
  skipBlanks
  let path ← restOfLine
  if path.isEmpty then wrong "missing filename in r/R/w/W commands"
  return path

/-- The parts of a replacement, read in at most `n` steps. -/
def replacementParts (groups : Nat) : Nat → List Char → List Char →
    Except String (List ReplacementPart)
  | 0, _, _ => .ok []
  | _ + 1, text, [] => .ok (flush text [])
  | n + 1, text, '&' :: cs => do
    return flush text (.group 0 :: (← replacementParts groups n [] cs))
  | n + 1, text, '\\' :: cs =>
    match cs with
    | [] => .ok (flush ('\\' :: text) [])
    | c :: rest =>
      let letters : Option LetterCase := match c with
        | 'U' => some .upper
        | 'L' => some .lower
        | 'u' => some .upperNext
        | 'l' => some .lowerNext
        | 'E' => some .end
        | _ => none
      match letters with
      | some l => do return flush text (.letters l :: (← replacementParts groups n [] rest))
      | none =>
        if c.isDigit then do
          let k := c.toNat - 48
          if groups < k then
            throw ("invalid reference \\" ++ toString k ++ " on \x60s' command's RHS")
          return flush text (.group k :: (← replacementParts groups n [] rest))
        else match escape? cs with
          | some (x, rest) => replacementParts groups n (x :: text) rest
          | none => replacementParts groups n ((if c == 'n' then '\n' else c) :: text) rest
  | n + 1, text, c :: cs => replacementParts groups n (c :: text) cs
where
  /-- The text so far is put before other parts. -/
  flush (text : List Char) (parts : List ReplacementPart) : List ReplacementPart :=
    if text.isEmpty then parts else .text (String.ofList text.reverse) :: parts

/-- The options of a substitution. -/
structure Options where
  /-- All are replaced. -/
  isGlobal : Bool := false
  /-- The line is shown. -/
  prints : Bool := false
  /-- Upper and lower case are the same. -/
  isFolded : Bool := false
  /-- Starts and ends of lines count. -/
  isMultiline : Bool := false
  /-- The first one to be replaced. -/
  number : Option Nat := none
  /-- The file that the line is written to. -/
  file : Option String := none

/-- The options of a substitution, of which there are at most `n`. -/
def readOptions : Nat → Options → Read Options
  | 0, o => return o
  | n + 1, o => do
    match ← peek with
    | none => return o
    | some c =>
      if c == '\x7d' || c == '#' then return o
      else if c.isDigit then
        if o.number.isSome then
          let _ ← take
          wrong "multiple number options to \x60s' command"
        let k ← readNumber
        if k == 0 then wrong "number option to \x60s' command may not be zero"
        readOptions n { o with number := some k }
      else
        let _ ← take
        match c with
        | 'g' =>
          if o.isGlobal then wrong "multiple \x60g' options to \x60s' command"
          readOptions n { o with isGlobal := true }
        | 'p' =>
          if o.prints then wrong "multiple \x60p' options to \x60s' command"
          readOptions n { o with prints := true }
        | 'i' | 'I' => readOptions n { o with isFolded := true }
        | 'm' | 'M' => readOptions n { o with isMultiline := true }
        | 'e' => readOptions n o
        | 'w' => return { o with file := some (← readPath) }
        | ';' | '\n' => return o
        | ' ' | '\t' | '\r' => readOptions n o
        | _ => wrong "unknown option to \x60s'"

/-- A substitution, after its letter. -/
def readSubstitution : Read Action := do
  let unterminated : Read Action := wrong "unterminated \x60s' command"
  match ← take with
  | none => unterminated
  | some delimiter =>
    if delimiter == '\n' || delimiter == '\\' then unterminated
    else match ← delimited delimiter true with
      | none => unterminated
      | some pattern =>
        match ← delimited delimiter false with
        | none => unterminated
        | some replacement =>
          let o ← readOptions ((← get).rest.length + 1) {}
          let target ← expression pattern o.isFolded o.isMultiline
          let groups := if target.regex.isNone then 9 else target.groups
          match replacementParts groups (replacement.length + 1) [] replacement.toList with
          | .error message => wrong message
          | .ok parts =>
            return .substitute {
              target := target, parts := parts, isGlobal := o.isGlobal, number := o.number.getD 1
              prints := o.prints, file := o.file }

/-- Characters for a transliteration, where escapes are resolved. -/
def plainChars : List Char → List Char
  | '\\' :: '\\' :: cs => '\\' :: plainChars cs
  | '\\' :: 'n' :: cs => '\n' :: plainChars cs
  | '\\' :: 't' :: cs => '\t' :: plainChars cs
  | c :: cs => c :: plainChars cs
  | [] => []

/-- A transliteration, after its letter. -/
def readTransliteration : Read Action := do
  let unterminated : Read Action := wrong "unterminated \x60y' command"
  match ← take with
  | none => unterminated
  | some delimiter =>
    match ← delimited delimiter false with
    | none => unterminated
    | some first =>
      match ← delimited delimiter false with
      | none => unterminated
      | some second =>
        let a := plainChars first.toList
        let b := plainChars second.toList
        if a.length != b.length then wrong "strings for \x60y' command are different lengths"
        endCommand
        return .transliterate (a.zip b)

/-- The code after a command that ends the script. -/
def readCode : Read Nat := do
  skipBlanks
  let n ← readNumber
  endCommand
  return n

/-- What a command does, after its lines. -/
def readAction (lines : Option Lines) (c : Char) : Read Action := do
  let simple (a : Action) : Read Action := do
    endCommand
    return a
  let oneLine (a : Action) : Read Action := do
    if lines.any fun l => l.last.isSome then wrong "command only uses one address"
    return a
  match c with
  | '\x7b' =>
    modify fun s => { s with depth := s.depth + 1 }
    return .blockStart
  | '\x7d' =>
    if lines.isSome then wrong "\x7d doesn't want any addresses"
    if (← get).depth == 0 then wrong "unexpected \x60\x7d'"
    modify fun s => { s with depth := s.depth - 1 }
    simple .blockEnd
  | '#' =>
    if lines.isSome then wrong "comments don't accept any addresses"
    let _ ← restOfLine
    return .nothing
  | ':' =>
    if lines.isSome then wrong ": doesn't want any addresses"
    skipBlanks
    let cs ← takeWhile fun c => c != ';' && c != '\n' && !Octets.isSpace c
    if cs.isEmpty then wrong "\":\" lacks a label"
    skipBlanks
    if (← peek).any fun c => c == ';' || c == '\n' then
      let _ ← take
    return .label (String.ofList cs)
  | 'a' => return .append (← readText)
  | 'i' => return .insert (← readText)
  | 'c' => return .change (← readText)
  | 'b' => return .branch (← readLabel)
  | 't' => return .branchIf (← readLabel)
  | 'T' => return .branchUnless (← readLabel)
  | 'd' => simple .delete
  | 'D' => simple .deleteFirst
  | 'p' => simple .print
  | 'P' => simple .printFirst
  | '=' => simple .number
  | 'l' =>
    let _ ← readCode
    return .list
  | 'n' => simple .next
  | 'N' => simple .nextAppend
  | 'h' => simple .hold
  | 'H' => simple .holdAppend
  | 'g' => simple .fetch
  | 'G' => simple .fetchAppend
  | 'x' => simple .exchange
  | 'z' => simple .zap
  | 'F' => simple .fileName
  | 'q' => do
    let code ← readCode
    oneLine (.quit code)
  | 'Q' => do
    let code ← readCode
    oneLine (.quitSilently code)
  | 'r' => return .readFile (← readPath)
  | 'R' => return .readLine (← readPath)
  | 'w' => return .writeFile (← readPath)
  | 'W' => return .writeFirst (← readPath)
  | 's' => readSubstitution
  | 'y' => readTransliteration
  | 'v' =>
    let _ ← readLabel
    return .nothing
  | c => wrong ("unknown command: \x60" ++ String.singleton c ++ "'")

/-- The commands of a script, at most `n`. -/
def readInstructions : Nat → Read (List Instruction)
  | 0 => return []
  | n + 1 => do
    let _ ← takeWhile fun c => c == ';' || Octets.isSpace c
    if (← peek).isNone then
      if (← get).depth != 0 then throw (0, "unmatched \x60\x7b'")
      return []
    let lines ← readLines
    skipBlanks
    let isInverted ← do
      if (← peek) == some '!' then
        let _ ← take
        skipBlanks
        if (← peek) == some '!' then
          let _ ← take
          wrong "multiple \x60!'s"
        pure true
      else pure false
    match ← take with
    | none => wrong "missing command"
    | some c =>
      if lines.any Lines.isMisused then wrong "invalid usage of line address 0"
      let action ← readAction lines c
      return ⟨lines, isInverted, action⟩ :: (← readInstructions n)

/-- The commands that a text is. -/
def parse (isExtended : Bool) (text : String) : Except Fault (List Instruction) := do
  let (all, _) ← (readInstructions (text.length + 1)).run
    { rest := text.toList, isExtended := isExtended }
  return all

end CompileOrder.Shell.Sed
