import CompileOrder.Shell.Regex.Notation
import CompileOrder.Shell.Utility.Find
import CompileOrder.Shell.Utility.Reading

/-!
# Search for lines

Lines of files that some pattern describes are shown, counted or only looked for.
-/

namespace CompileOrder.Shell.Utility

open Tool

/-- How the patterns are written. -/
inductive PatternKind where
  | basic | extended | fixed
  deriving DecidableEq, Repr

/-- What is shown of lines that were found. -/
structure GrepRule where
  /-- The expression. -/
  regex : Regex
  /-- Lines that are not described. -/
  isInverted : Bool
  /-- Only whole words. -/
  isWord : Bool
  /-- Only whole lines. -/
  isLine : Bool
  /-- The number of lines. -/
  counts : Bool
  /-- The names of files with such lines. -/
  listsFiles : Bool
  /-- The names of files without such lines. -/
  listsOthers : Bool
  /-- The numbers of lines. -/
  hasNumbers : Bool
  /-- The number of octets before. -/
  hasOffsets : Bool
  /-- Only what is described. -/
  onlyMatching : Bool
  /-- Nothing. -/
  isQuiet : Bool
  /-- The number of lines to be found. -/
  most : Option Nat
  /-- The number of lines before. -/
  before : Nat
  /-- The number of lines after. -/
  after : Nat
  /-- Whether files that are not text are shown like text. -/
  isText : Bool

/-- The first acceptable stretch of a line from a place on. -/
def GrepRule.find (g : GrepRule) (chars : Array Char) (start : Nat) : Option Regex.Match :=
  let s : Regex.Subject := { chars := chars }
  let accept (i j : Nat) : Bool :=
    (!g.isLine || (i == 0 && j == chars.size)) &&
      (!g.isWord || (!s.isWordBefore i && !s.isWordAfter j))
  g.regex.search chars start false accept

/-- Whether a line is one that is looked for. -/
def GrepRule.selects (g : GrepRule) (line : String) : Bool :=
  (g.find line.toList.toArray 0).isSome != g.isInverted

/-- The stretches of a line that are described and not empty, at most `n`. -/
def GrepRule.stretches (g : GrepRule) (chars : Array Char) : Nat → Nat → List (Nat × String)
  | 0, _ => []
  | n + 1, start =>
    match g.find chars start with
    | none => []
    | some found =>
      if found.first == found.last then
        if chars.size ≤ found.first then [] else g.stretches chars n (found.first + 1)
      else (found.first, Regex.stretch chars found.first found.last) ::
        g.stretches chars n found.last

/-- A line with its number and the octets before it. -/
structure NumberedLine where
  /-- The number, from one on. -/
  number : Nat
  /-- The octets before. -/
  offset : Nat
  /-- The line. -/
  text : String

/-- The lines of a text with their numbers. -/
def numberedLines (text : String) : List NumberedLine :=
  ((Octets.lines text).foldl (fun (state : List NumberedLine × Nat × Nat) line =>
    let (done, n, offset) := state
    (⟨n, offset, line⟩ :: done, n + 1, offset + line.length + 1)) ([], 1, 0)).1.reverse

/-- What stands before a line. -/
def GrepRule.lead (g : GrepRule) (label : Option String) (mark : String) (l : NumberedLine) :
    String :=
  (label.map fun n => n ++ mark).getD "" ++
    (if g.hasNumbers then toString l.number ++ mark else "") ++
    (if g.hasOffsets then toString l.offset ++ mark else "")

/-- The lines to be shown with those around them: whether each was found. -/
def GrepRule.withContext (g : GrepRule) (lines : List NumberedLine) (found : List Nat) :
    List (NumberedLine × Bool) :=
  lines.filterMap fun l =>
    if found.contains l.number then some (l, true)
    else if found.any fun n => n ≤ l.number + g.before && l.number ≤ n + g.after then
      some (l, false)
    else none

/-- The lines as they are shown, with a mark between groups. -/
def GrepRule.render (g : GrepRule) (label : Option String) :
    Option Nat → List (NumberedLine × Bool) → List String
  | _, [] => []
  | last, (l, isFound) :: rest =>
    let gap := match last with
      | some n => if n + 1 < l.number && (0 < g.before || 0 < g.after) then ["--"] else []
      | none => []
    let shown :=
      if g.onlyMatching then
        if !isFound || g.isInverted then []
        else (g.stretches l.text.toList.toArray (l.text.length + 1) 0).map fun (i, s) =>
          g.lead label ":" { l with offset := l.offset + i } ++ s
      else [g.lead label (if isFound then ":" else "-") l ++ l.text]
    gap ++ shown ++ g.render label (some l.number) rest

/-- One file is searched; whether a line was found. -/
def GrepRule.searchText (g : GrepRule) (path : String) (hasName : Bool) (isLater : Bool)
    (text : String) :
    Tool Bool := do
  let shownName := if path == "-" then "(standard input)" else path
  let label := if hasName then some shownName else none
  let lines := numberedLines text
  let found := lines.filter fun l => g.selects l.text
  let found := match g.most with
    | some n => found.take n
    | none => found
  let isFound := !found.isEmpty
  if g.isQuiet then pure ()
  else if g.listsFiles then if isFound then outLines [shownName]
  else if g.listsOthers then if !isFound then outLines [shownName]
  else if g.counts then outLines [(label.map fun n => n ++ ":").getD "" ++ toString found.length]
  else if !g.isText && text.toList.contains '\x00' then
    if isFound then complain (shownName ++ ": binary file matches")
  else
    let numbers := found.map fun l => l.number
    let lines := match g.most, numbers.getLast? with
      | some _, some last => lines.filter fun l => l.number ≤ last + g.after
      | _, _ => lines
    let shown := if g.before == 0 && g.after == 0 then found.map fun l => (l, true)
      else g.withContext lines numbers
    if isLater && !shown.isEmpty && (0 < g.before || 0 < g.after) then outLines ["--"]
    outLines (g.render label none shown)
  return isFound

/-- A use of options that is not possible. -/
def grepMisuse (message : String) : Tool Nat := do
  if !message.isEmpty then complain message
  err ("Usage: " ++ (← name) ++ " [OPTION]... PATTERNS [FILE]...\n")
  err ("Try '" ++ (← name) ++ " --help' for more information.\n")
  return 2

/-- The options of a search for lines. -/
def grepFlags : List Flag :=
  [{ letter := 'A', word := "after-context", takes := .required },
    { letter := 'B', word := "before-context", takes := .required },
    { letter := 'C', word := "context", takes := .required },
    { letter := 'E', word := "extended-regexp" },
    { letter := 'F', word := "fixed-strings" }, { letter := 'G', word := "basic-regexp" },
    { letter := 'H', word := "with-filename" }, { letter := 'I' },
    { letter := 'L', word := "files-without-match" },
    { letter := 'P', word := "perl-regexp" }, { letter := 'R', word := "dereference-recursive" },
    { letter := 'T', word := "initial-tab" }, { letter := 'U', word := "binary" },
    { letter := 'Z', word := "null" }, { letter := 'a', word := "text" },
    { letter := 'b', word := "byte-offset" }, { letter := 'c', word := "count" },
    { letter := 'd', word := "directories", takes := .required },
    { letter := 'e', word := "regexp", takes := .required },
    { letter := 'f', word := "file", takes := .required },
    { letter := 'h', word := "no-filename" }, { letter := 'i', word := "ignore-case" },
    { letter := 'l', word := "files-with-matches" },
    { letter := 'm', word := "max-count", takes := .required },
    { letter := 'n', word := "line-number" }, { letter := 'o', word := "only-matching" },
    { letter := 'q', word := "quiet" }, { letter := 'q', word := "silent" },
    { letter := 'r', word := "recursive" }, { letter := 's', word := "no-messages" },
    { letter := 'v', word := "invert-match" }, { letter := 'w', word := "word-regexp" },
    { letter := 'x', word := "line-regexp" }, { letter := 'y' },
    { letter := 'z', word := "null-data" },
    { letter := '\x01', word := "color", takes := .optional },
    { letter := '\x01', word := "colour", takes := .optional },
    { letter := '\x02', word := "include", takes := .required },
    { letter := '\x03', word := "exclude", takes := .required },
    { letter := '\x04', word := "exclude-dir", takes := .required },
    { letter := '\x05', word := "no-ignore-case" }, { letter := '\x06', word := "line-buffered" },
    { letter := '\x07', word := "binary-files", takes := .required },
    { letter := '\x08', word := "label", takes := .required }]

/-- The words in which a number after a hyphen stands for lines around. -/
def spellContext (words : List String) : List String :=
  words.map fun w => match w.toList with
    | '-' :: c :: cs => if (c :: cs).all Char.isDigit then "-C" ++ String.ofList (c :: cs) else w
    | _ => w

/-- The files at or below a path, in order, at most `depth` levels down. Links below it are
left out unless they are to be followed. -/
def filesBelow (keeps keepsDirectory : String → Bool) (followsAll : Bool) (m : Machine) :
    Nat → Bool → String → List String
  | 0, _, _ => []
  | depth + 1, isNamed, path =>
    match if isNamed || followsAll then m.find path else m.findSelf path with
    | .ok (.directory es _) =>
      (es.map fun e => Octets.ofText e.1).flatMap fun name =>
        let inner := if path == "" then name else entryPath path name
        if m.isDirectory inner && !keepsDirectory name then []
        else filesBelow keeps keepsDirectory followsAll m depth false inner
    | .ok (.file _ _) => if keeps (lastName path) then [path] else []
    | .ok _ => if isNamed then [path] else []
    | .error _ => [path]

/-- The expression for some patterns. -/
def grepRegex (kind : PatternKind) (isFolded : Bool) (patterns : List String) :
    Except Regex.Fault (Regex × List String) := do
  let d : Regex.Dialect := { isExtended := kind == .extended, isFolded := isFolded }
  let (parts, _, strays) ← patterns.foldlM (fun (done, groups, strays) pattern => do
    if kind == .fixed then return (done ++ [Regex.ofText d pattern], groups, strays)
    let parsed ← Regex.parse d pattern groups
    return (done ++ [parsed.regex], parsed.groups, strays ++ parsed.strays))
    (([] : List Regex), 0, ([] : List String))
  match parts.reverse with
  | [] => return (.one fun _ => false, strays)
  | last :: others => return (others.foldl (fun r x => .either x r) last, strays)

/-- Searches files for lines. -/
def grepWith (default : PatternKind) : Tool Nat := do
  match Flag.parse grepFlags (spellContext (← args)) with
  | .error message => grepMisuse message
  | .ok p =>
    let given := p.options.filterMap fun o => if o.1 == 'e' then some o.2 else none
    let lists := p.options.filterMap fun o => if o.1 == 'f' then some o.2 else none
    let mut listed : List String := []
    for path in lists do
      match ← contents path with
      | .ok text => listed := listed ++ Octets.lines text
      | .error fault => return ← fail 2 (path ++ ": " ++ fault.words)
    let hasOptions := !given.isEmpty || !lists.isEmpty
    match hasOptions, p.operands with
    | false, [] => grepMisuse ""
    | _, operands =>
      let texts := if hasOptions then given else operands.take 1
      let files := if hasOptions then operands else operands.drop 1
      let patterns := texts.flatMap (fun t => t.splitOn "\n") ++ listed
      let kind := match p.last? "EFGP" with
        | some 'E' | some 'P' => PatternKind.extended
        | some 'F' => .fixed
        | some _ => .basic
        | none => default
      let number (c : Char) : Except String (Option Nat) := match p.get? c with
        | none => .ok none
        | some text => match Octets.number? text with
          | some n => .ok (some n)
          | none => .error text
      match number 'A', number 'B', number 'C', number 'm' with
      | .error text, _, _, _ | _, .error text, _, _ | _, _, .error text, _ =>
        fail 2 (text ++ ": invalid context length argument")
      | _, _, _, .error _ => fail 2 "invalid max count"
      | .ok after, .ok before, .ok context, .ok most =>
        match grepRegex kind ((p.has 'i' || p.has 'y') && !p.has '\x05') patterns with
        | .error fault => fail 2 fault.words
        | .ok (regex, strays) =>
          for operator in strays do complain ("warning: " ++ operator ++ " at start of expression")
          let isRecursive := p.has 'r' || p.has 'R'
          let g : GrepRule := {
            regex := regex
            isInverted := p.has 'v'
            isWord := p.has 'w'
            isLine := p.has 'x'
            counts := p.has 'c'
            listsFiles := p.has 'l'
            listsOthers := p.has 'L'
            hasNumbers := p.has 'n'
            hasOffsets := p.has 'b'
            onlyMatching := p.has 'o'
            isQuiet := p.has 'q'
            most := most
            before := (before.orElse fun _ => context).getD 0
            after := (after.orElse fun _ => context).getD 0
            isText := p.has 'a' }
          let all (c : Char) : List String :=
            p.options.filterMap fun o => if o.1 == c then some o.2 else none
          let keeps (name : String) : Bool :=
            ((all '\x02').isEmpty || (all '\x02').any fun pattern =>
              matchesName pattern name false) &&
              !((all '\x03').any fun pattern => matchesName pattern name false)
          let keepsDirectory (name : String) : Bool :=
            !((all '\x04').any fun pattern => matchesName pattern name false)
          let m ← get
          let targets := if isRecursive then
              (if files.isEmpty then [""] else files).flatMap fun path =>
                if path == "-" then [path]
                else if path == "" then
                  match m.entries "." with
                  | .ok names => names.flatMap fun name =>
                    if m.isDirectory name && !keepsDirectory name then []
                    else filesBelow keeps keepsDirectory (p.has 'R') m FileTree.maxPath false name
                  | .error _ => []
                else filesBelow keeps keepsDirectory (p.has 'R') m FileTree.maxPath true path
            else orInput files
          let hasName := !p.has 'h' && (p.has 'H' || 1 < files.length ||
            (isRecursive && (files.isEmpty || files.any fun f => m.isDirectory f)))
          let hasName := match p.last? "hH" with
            | some 'h' => false
            | some _ => true
            | none => hasName
          let mut isFound := false
          let mut isFaulty := false
          for path in targets do
            if !(g.isQuiet && isFound) then
              let isOwn ← isOwnOutput path
              match ← contents path with
              | .ok text =>
                if isOwn && !(g.isQuiet || g.listsFiles || g.listsOthers) then
                  isFaulty := true
                  if !p.has 's' then complain (path ++ ": input file is also the output")
                  continue
                let here ← g.searchText path hasName isFound text
                isFound := isFound || (here != g.listsOthers)
              | .error fault =>
                isFaulty := true
                if !p.has 's' then complain (path ++ ": " ++ fault.words)
          return if isFound && (g.isQuiet || !isFaulty) then 0 else if isFaulty then 2
            else if isFound then 0 else 1

/-- Searches files for lines, with patterns in the basic notation. -/
def grep : Tool Nat := grepWith .basic

/-- Searches files for lines, with patterns in the extended notation. -/
def egrep : Tool Nat := grepWith .extended

/-- Searches files for lines, with texts. -/
def fgrep : Tool Nat := grepWith .fixed

end CompileOrder.Shell.Utility
