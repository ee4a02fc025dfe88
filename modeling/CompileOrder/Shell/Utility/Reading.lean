import CompileOrder.Shell.Regex.Notation
import CompileOrder.Shell.Utility.Options
import CompileOrder.Shell.Utility.Quote

/-!
# Utilities that pass texts on

Whole texts, their first or last lines, their lines the other way round or with
numbers, and counts of what is in them.
-/

namespace CompileOrder.Shell.Utility

open Tool

/-- The files to read: the input if none are named. -/
def orInput (operands : List String) : List String := if operands.isEmpty then ["-"] else operands

/-- Lines of a text, each with the line feed that ends it. -/
def pieces (text : String) : List String :=
  let stretches := text.splitOn "\n"
  (stretches.dropLast.map fun s => s ++ "\n") ++
    (match stretches.getLast? with
      | some "" | none => []
      | some s => [s])

/-- What is said of a file that cannot be read. -/
def unreadable (path : String) (fault : FileFault) : Tool Nat :=
  fail 1 (Quote.ifNeeded path ++ ": " ++ fault.words)

/-- The octets as letters for a reader. -/
def visible (showsTabs : Bool) (c : Char) : String :=
  let n := c.toNat
  if c == '\t' then if showsTabs then "^I" else "\t"
  else if c == '\n' then "\n"
  else
    let lead := if 128 ≤ n then "M-" else ""
    let n := n % 128
    if n < 32 then lead ++ "^" ++ String.singleton (Char.ofNat (n + 64))
    else if n == 127 then lead ++ "^?"
    else lead ++ String.singleton (Char.ofNat n)

/-- How lines are shown. -/
structure Showing where
  /-- Lines are numbered. -/
  numbers : Bool
  /-- Empty lines are not. -/
  skipsEmpty : Bool
  /-- Only one of several empty lines is kept. -/
  squeezes : Bool
  /-- The ends of lines are marked. -/
  marksEnds : Bool
  /-- Tabulators are shown. -/
  showsTabs : Bool
  /-- Other octets are shown, too. -/
  showsOthers : Bool

/-- The state of showing lines. -/
structure Shown where
  /-- The number of the last line. -/
  number : Nat := 0
  /-- Whether the line is a new one. -/
  isFresh : Bool := true
  /-- Whether the last line was empty. -/
  afterEmpty : Bool := false
  /-- What is shown, the last part first. -/
  parts : List String := []

/-- One line is shown. -/
def showLine (how : Showing) (s : Shown) (line : String) : Shown :=
  let isEmpty := line == "\n"
  if how.squeezes && isEmpty && s.afterEmpty && s.isFresh then s
  else
    let isNumbered := how.numbers && s.isFresh && !(how.skipsEmpty && isEmpty)
    let number := if isNumbered then s.number + 1 else s.number
    let lead := if isNumbered then Octets.padLeft 6 (toString number) ++ "\t" else ""
    let cs := line.toList
    let hasEnd := cs.getLast? == some '\n'
    let body := if hasEnd then cs.dropLast else cs
    let text := if how.showsOthers then String.join (body.map (visible how.showsTabs))
      else if how.showsTabs then "^I".intercalate ((String.ofList body).splitOn "\t")
      else String.ofList body
    let ending := if hasEnd then (if how.marksEnds then "$\n" else "\n") else ""
    { number := number, isFresh := hasEnd, afterEmpty := isEmpty && s.isFresh
      parts := (lead ++ text ++ ending) :: s.parts }

/-- Whether a file is the one that the output goes to. -/
def isOwnOutput (path : String) : Tool Bool := do
  let m ← get
  match (← channel? 1).map m.channel, m.locate path with
  | some (.file place _ _), .ok source => return place == source
  | _, _ => return false

/-- Passes files on. -/
def cat : Tool Nat :=
  withOptions [{ letter := 'A', word := "show-all" }, { letter := 'b', word := "number-nonblank" },
      { letter := 'e' }, { letter := 'E', word := "show-ends" },
      { letter := 'n', word := "number" },
      { letter := 's', word := "squeeze-blank" }, { letter := 't' },
      { letter := 'T', word := "show-tabs" }, { letter := 'u' },
      { letter := 'v', word := "show-nonprinting" }] 1 fun p => do
    let how : Showing := {
      numbers := p.has 'n' || p.has 'b'
      skipsEmpty := p.has 'b'
      squeezes := p.has 's'
      marksEnds := p.has 'E' || p.has 'e' || p.has 'A'
      showsTabs := p.has 'T' || p.has 't' || p.has 'A'
      showsOthers := p.has 'v' || p.has 'e' || p.has 't' || p.has 'A' }
    let isPlain := p.options.all fun o => o.1 == 'u'
    let mut state : Shown := {}
    let mut code := 0
    for path in orInput p.operands do
      let isOwn ← isOwnOutput path
      match ← contents path with
      | .ok text =>
        if isOwn && !text.isEmpty then
          code := ← fail 1 (Quote.ifNeeded path ++ ": input file is output file")
        else if isPlain then out text
        else
          state := (pieces text).foldl (showLine how) { state with parts := [] }
          out (String.join state.parts.reverse)
      | .error fault =>
        code := ← unreadable path fault
        if fault == .notOpen then complain ("closing standard input: " ++ fault.words)
    return code

/-- A count with a unit after it. -/
def count? (text : String) : Option Nat :=
  let cs := text.toList
  let ds := cs.takeWhile Char.isDigit
  let unit := match String.ofList (cs.drop ds.length) with
    | "" => some 1
    | "b" => some 512
    | "kB" => some 1000
    | "k" | "K" | "KiB" => some 1024
    | "MB" => some 1000000
    | "M" | "MiB" => some 1048576
    | _ => none
  if ds.isEmpty then none else unit.map fun u => Octets.number ds * u

/-- A part of a text. -/
inductive Part where
  /-- The first lines. -/
  | firstLines (n : Nat)
  /-- All but the last lines. -/
  | butLastLines (n : Nat)
  /-- The first octets. -/
  | firstOctets (n : Nat)
  /-- All but the last octets. -/
  | butLastOctets (n : Nat)
  /-- The last lines. -/
  | lastLines (n : Nat)
  /-- The lines from one on. -/
  | linesFrom (n : Nat)
  /-- The last octets. -/
  | lastOctets (n : Nat)
  /-- The octets from one on. -/
  | octetsFrom (n : Nat)
  deriving DecidableEq, Repr

/-- The part of a text. -/
def Part.of (text : String) : Part → String
  | .firstLines n => String.join ((pieces text).take n)
  | .butLastLines n =>
    let ps := pieces text
    String.join (ps.take (ps.length - n))
  | .firstOctets n => Octets.takeFirst n text
  | .butLastOctets n => Octets.takeFirst (text.length - n) text
  | .lastLines n =>
    let ps := pieces text
    String.join (ps.drop (ps.length - n))
  | .linesFrom n => String.join ((pieces text).drop (n - 1))
  | .lastOctets n => Octets.dropFirst (text.length - n) text
  | .octetsFrom n => Octets.dropFirst (n - 1) text

/-- Arguments in which a count after a hyphen is spelled out as an option. -/
def spellCounts (words : List String) : List String :=
  match words with
  | word :: rest =>
    match word.toList with
    | '-' :: c :: cs =>
      if c.isDigit then
        let ds := (c :: cs).takeWhile Char.isDigit
        let others := (c :: cs).drop ds.length
        let letter := if others.contains 'c' then "-c" else "-n"
        letter :: String.ofList ds :: (others.filter fun o => o == 'q' || o == 'v' || o == 'f').map
          (fun o => String.ofList ['-', o]) ++ rest
      else words
    | _ => words
  | [] => []

/-- Parts of files, each under its name if there are several. -/
def showParts (part : Part) (p : Parsed) (isFirst : Bool) : Tool Nat := do
  let files := orInput p.operands
  let hasNames := !p.has 'q' && (p.has 'v' || 1 < files.length)
  let mut code := 0
  let mut isLater := false
  for path in files do
    let label := if path == "-" then "standard input" else path
    match ← contents path with
    | .ok text =>
      if hasNames then out ((if isLater then "\n" else "") ++ "==> " ++ label ++ " <==\n")
      isLater := true
      let shown := part.of text
      out shown
      if isFirst && path == "-" then
        match ← channel? 0 with
        | some i =>
          match (← get).channel i with
          | .file place offset access =>
            modify fun m => m.setChannel i
              (.file place (offset - (text.length - shown.length)) access)
          | _ => pure ()
        | none => pure ()
    | .error fault =>
      if fault == .isDirectory then
        if hasNames then out ((if isLater then "\n" else "") ++ "==> " ++ label ++ " <==\n")
        isLater := true
        complain ("error reading " ++ Quote.always label ++ ": " ++ fault.words)
      else complain ("cannot open " ++ Quote.always label ++ " for reading: " ++ fault.words)
      code := 1
  return code

/-- The options of both ends of texts. -/
def partFlags : List Flag :=
  [{ letter := 'c', word := "bytes", takes := .required },
    { letter := 'n', word := "lines", takes := .required }, { letter := 'q', word := "quiet" },
    { letter := 'q', word := "silent" }, { letter := 'v', word := "verbose" },
    { letter := 'f', word := "follow" }, { letter := 'z', word := "zero-terminated" }]

/-- Shows the first part of files. -/
def head : Tool Nat := do
  match Flag.parse partFlags (spellCounts (← args)) with
  | .error message => misuse 1 message
  | .ok p =>
    let isOctets := p.last? "cn" == some 'c'
    let value := ((p.last? "cn").bind p.get?).getD "10"
    let digits := if value.toList.head? == some '-' then Octets.dropFirst 1 value else value
    match count? digits with
    | none =>
      fail 1 ("invalid number of " ++ (if isOctets then "bytes" else "lines") ++ ": " ++
        Quote.inWords digits)
    | some n =>
      let isButLast := value.toList.head? == some '-'
      showParts (match isOctets, isButLast with
        | true, true => .butLastOctets n
        | true, false => .firstOctets n
        | false, true => .butLastLines n
        | false, false => .firstLines n) p true

/-- Arguments in which a count after a plus sign is spelled out as an option. -/
def spellStart (words : List String) : List String :=
  match words with
  | word :: rest =>
    match word.toList with
    | '+' :: c :: cs =>
      if c.isDigit && rest.length ≤ 1 then
        let ds := (c :: cs).takeWhile Char.isDigit
        "-n" :: String.ofList ('+' :: ds) :: rest
      else words
    | _ => spellCounts words
  | [] => []

/-- Shows the last part of files. -/
def tail : Tool Nat := do
  match Flag.parse partFlags (spellStart (← args)) with
  | .error message => misuse 1 message
  | .ok p =>
    let isOctets := p.last? "cn" == some 'c'
    let value := ((p.last? "cn").bind p.get?).getD "10"
    let isFrom := value.toList.head? == some '+'
    let digits :=
      if isFrom || value.toList.head? == some '-' then Octets.dropFirst 1 value
      else value
    match count? digits with
    | none =>
      fail 1 ("invalid number of " ++ (if isOctets then "bytes" else "lines") ++ ": " ++
        Quote.inWords value)
    | some n =>
      showParts (match isOctets, isFrom with
        | true, true => .octetsFrom n
        | true, false => .lastOctets n
        | false, true => .linesFrom n
        | false, false => .lastLines n) p false

/-- Something is done with the text of each file, or it is said that there is none. -/
def forTexts (operands : List String) (action : String → Tool Unit) : Tool Nat :=
  each (orInput operands) fun path => do
    match ← contents path with
    | .ok text =>
      action text
      return 0
    | .error fault => unreadable path fault

/-- An expression in which a plus sign and a question mark count without a backslash, as one
in which they count with it. -/
def withOperators : Bool → List Char → List Char
  | _, [] => []
  | inSet, '\\' :: c :: cs =>
    if inSet then '\\' :: withOperators inSet (c :: cs) else '\\' :: c :: withOperators inSet cs
  | true, ']' :: cs => ']' :: withOperators false cs
  | false, '[' :: ']' :: cs => '[' :: ']' :: withOperators true cs
  | false, '[' :: '^' :: ']' :: cs => '[' :: '^' :: ']' :: withOperators true cs
  | inSet, c :: cs =>
    if !inSet && (c == '+' || c == '?') then '\\' :: c :: withOperators inSet cs
    else c :: withOperators (inSet || c == '[') cs

/-- The separators in a text from its end on, with their starts and ends: each one starts as
late as it can before the one after it. -/
def separatorsFrom (ends : Nat → Nat → Option Nat) : Nat → Nat → List (Nat × Nat) → List (Nat × Nat)
  | 0, _, found => found
  | start + 1, limit, found =>
    match ends start limit with
    | some stop => separatorsFrom ends start start ((start, stop) :: found)
    | none => separatorsFrom ends start limit found

/-- The stretches of a text that separators end, or begin. -/
def stretchesAt (isBefore : Bool) (chars : Array Char) (separators : List (Nat × Nat)) :
    List String :=
  let cuts := separators.map fun s => if isBefore then s.1 else s.2
  let bounds := 0 :: cuts ++ [chars.size]
  ((bounds.zip bounds.tail).filter fun b => b.1 < b.2).map fun b => Regex.stretch chars b.1 b.2

/-- Shows lines, or what separators make, the other way round. -/
def tac : Tool Nat :=
  withOptions [{ letter := 'b', word := "before" }, { letter := 'r', word := "regex" },
      { letter := 's', word := "separator", takes := .required }] 1 fun p => do
    let separator := match p.get? 's' with
      | some "" => "\x00"
      | some s => s
      | none => "\n"
    let regex := if p.has 'r' then
        String.ofList (withOperators false separator.toList)
      else separator
    let parsed := if p.has 'r' then
        (Regex.parse { isExtended := false } regex).map fun r => r.regex
      else .ok (Regex.ofText { isExtended := false } separator)
    match parsed with
    | .error fault => fail 1 fault.words
    | .ok regex =>
      each (orInput p.operands) fun path => do
        match ← contents path with
        | .ok text =>
          let parts := if separator == "\n" && !p.has 'b' then pieces text
            else
              let chars := text.toList.toArray
              let s : Regex.Subject := { chars := chars }
              let ends (start limit : Nat) : Option Nat :=
                ((regex.reaches s start []).filterMap fun r =>
                  if start < r.1 && r.1 ≤ limit then some r.1 else none).max?
              stretchesAt (p.has 'b') chars (separatorsFrom ends chars.size chars.size [])
          out (String.join parts.reverse)
          return 0
        | .error fault =>
          if fault == .isDirectory then fail 1 (Quote.ifNeeded path ++ ": read error: " ++
            fault.words)
          else
            fail 1 ("failed to open " ++ Quote.always path ++ " for reading: " ++ fault.words)

/-- Shows the characters of each line the other way round. -/
def rev : Tool Nat :=
  withOptions [] 1 fun p =>
    each (orInput p.operands) fun path => do
      match ← contents path with
      | .ok text =>
        out (String.join ((pieces text).map fun line =>
          let cs := Characters.ofOctets line
          if cs.getLast? == some '\n' then Characters.toOctets (cs.dropLast.reverse ++ ['\n'])
          else Characters.toOctets cs.reverse))
        return 0
      | .error fault => fail 1 ("cannot open " ++ path ++ ": " ++ fault.words)

/-- Passes its input on to its output and to files. -/
def tee : Tool Nat :=
  withOptions [{ letter := 'a', word := "append" }, { letter := 'i', word := "ignore-interrupts" },
      { letter := 'p' }] 1 fun p => do
    match ← input with
    | .error fault => fail 1 ("read error: " ++ fault.words)
    | .ok text =>
      out text
      each p.operands fun path => do
        let m ← get
        let old := if p.has 'a' then (m.read path).toOption.getD "" else ""
        match path with
        | "/dev/stdout" =>
          out text
          return 0
        | "/dev/stderr" =>
          err text
          return 0
        | path =>
          match m.writeFile path (Octets.toBytes (old ++ text)) with
          | .ok m =>
            set m
            return 0
          | .error fault => fail 1 (Quote.ifNeeded path ++ ": " ++ fault.words)

/-- Whether a character stands between words. -/
def isBetweenWords (c : Char) : Bool :=
  Octets.isSpace c || (0x80 ≤ c.toNat && (Text.isBlank c || c.toNat == 0x2060))

/-- The number of words of some characters; those that do not show make no word. -/
def wordCount (cs : List Char) : Nat :=
  (cs.foldl (fun (n, inside) c =>
    if isBetweenWords c then (n, false)
    else if inside || !Characters.isPrint c then (n, inside)
    else (n + 1, true)) ((0 : Nat), false)).1

/-- The length of the longest line, with tabulators counted as far as they reach. -/
def longestLine (cs : List Char) : Nat :=
  (cs.foldl (fun (longest, here) c =>
    if c == '\n' || c == '\r' || c == '\x0c' then (max longest here, 0)
    else if c == '\t' then
      let here := here + 8 - here % 8
      (max longest here, here)
    else
      let here := here + Characters.width c
      (max longest here, here)) ((0 : Nat), (0 : Nat))).1

/-- Counts of a text. -/
structure Counts where
  /-- Line feeds. -/
  lines : Nat := 0
  /-- Words. -/
  words : Nat := 0
  /-- Characters. -/
  characters : Nat := 0
  /-- Octets. -/
  octets : Nat := 0
  /-- The longest line. -/
  longest : Nat := 0

/-- The counts of a text. -/
def countsOf (text : String) : Counts :=
  let cs := Characters.ofOctets text
  { lines := (cs.filter fun c => c == '\n').length
    words := wordCount cs
    characters := (cs.filter fun c => !Characters.isStray c).length
    octets := text.length
    longest := longestLine cs }

/-- The sum of two counts. -/
def Counts.add (c d : Counts) : Counts :=
  { lines := c.lines + d.lines, words := c.words + d.words
    characters := c.characters + d.characters, octets := c.octets + d.octets
    longest := max c.longest d.longest }

/-- When the sum of all counts is shown. -/
inductive TotalRule where
  | auto | always | only | never
  deriving DecidableEq, Repr

/-- The rules by their names. -/
def TotalRule.named : List (String × TotalRule) :=
  [("auto", .auto), ("always", .always), ("only", .only), ("never", .never)]

/-- The width of the columns of counts of some files, by the numbers of their octets as far as
they can be told beforehand; `input` is that of the input. -/
def countWidth (m : Machine) (input : Option Nat) (paths : List String) : Nat :=
  let sizes := paths.map fun path =>
    if path == "-" then input
    else match m.find path with
      | .ok (.file bytes _) => some bytes.length
      | .ok _ => none
      | .error _ => some 0
  let digits := (toString (sizes.foldl (fun n s => n + s.getD 0) 0)).length
  if sizes.any Option.isNone then max 7 digits else digits

/-- Counts lines, words and octets of files. -/
def countFiles (p : Parsed) (rule : TotalRule) (paths : List String) (width : Option Nat) :
    Tool Nat := do
  let isDefault := !(p.options.any fun o => "clmwL".toList.contains o.1)
  let columns (c : Counts) : List Nat :=
    (if p.has 'l' || isDefault then [c.lines] else []) ++
      (if p.has 'w' || isDefault then [c.words] else []) ++
      (if p.has 'm' then [c.characters] else []) ++
      (if p.has 'c' || isDefault then [c.octets] else []) ++
      (if p.has 'L' then [c.longest] else [])
  let m ← get
  let inputSize := match (← channel? 0).map m.channel with
    | some (.file path _ _) => match m.tree.root.get? path with
      | some (.file bytes _) => some bytes.length
      | _ => none
    | _ => none
  let mut code := 0
  let mut rows : List (Counts × String) := []
  let mut total : Counts := {}
  let usual := countWidth m inputSize (orInput paths)
  for path in orInput paths do
    match ← contents path with
    | .ok text =>
      let c := countsOf text
      total := total.add c
      rows := rows ++ [(c, if path == "-" && paths.isEmpty then "" else path)]
    | .error fault =>
      complain (Quote.ifNeeded path ++ ": " ++ fault.words)
      code := 1
      if fault == .isDirectory then rows := rows ++ [(({} : Counts), path)]
  let isSimple := (columns ({} : Counts)).length == 1 && paths.length ≤ 1
  let width := if rule == .only || isSimple then 1 else width.getD usual
  let line (c : Counts) (name : String) : String :=
    " ".intercalate ((columns c).map fun n => Octets.padLeft width (toString n)) ++
      (if name.isEmpty then "" else " " ++ name) ++ "\n"
  if rule != .only then
    for (c, name) in rows do out (line c name)
  match rule with
  | .only => out (line total "")
  | .always => out (line total "total")
  | .auto => if 1 < paths.length then out (line total "total")
  | .never => pure ()
  return code

/-- The names in a list that noughts end; the places of those that are empty. -/
def namesIn (text : String) : List String × List Nat :=
  let parts := text.splitOn "\x00"
  let parts := if parts.getLast? == some "" then parts.dropLast else parts
  (parts.filter fun n => !n.isEmpty,
    (parts.zipIdx 1).filterMap fun (n, i) => if n.isEmpty then some i else none)

/-- Counts lines, words and octets. -/
def wc : Tool Nat :=
  withOptions [{ letter := 'c', word := "bytes" }, { letter := 'm', word := "chars" },
      { letter := 'l', word := "lines" }, { letter := 'w', word := "words" },
      { letter := 'L', word := "max-line-length" },
      { letter := '\x01', word := "files0-from", takes := .required },
      { letter := '\x02', word := "total", takes := .required },
      { letter := '\x03', word := "debug" }] 1 fun p => do
    match Quote.choice "--total" TotalRule.named ((p.get? '\x02').getD "auto"),
        p.get? '\x01', p.operands with
    | .error message, _, _ => misuse 1 message
    | .ok rule, none, paths => countFiles p rule paths none
    | .ok _, some _, extra :: _ =>
      complain ("extra operand " ++ Quote.always extra)
      err "file operands cannot be combined with --files0-from\n"
      err ("Try '" ++ (← name) ++ " --help' for more information.\n")
      return 1
    | .ok rule, some list, [] =>
      match ← contents list with
      | .error fault =>
        fail 1 ("cannot open " ++ Quote.always list ++ " for reading: " ++ fault.words)
      | .ok text =>
        let (paths, empty) := namesIn text
        let m ← get
        let isKnown := match m.find list with
          | .ok (.file _ _) => list != "-"
          | _ => false
        empty.forM fun i =>
          complain (Quote.ifNeeded list ++ ":" ++ toString i ++ ": invalid zero-length file name")
        if paths.isEmpty then return if empty.isEmpty then 0 else 1
        let code ← countFiles p rule paths (if isKnown then none else some 1)
        return if empty.isEmpty then code else 1

end CompileOrder.Shell.Utility
