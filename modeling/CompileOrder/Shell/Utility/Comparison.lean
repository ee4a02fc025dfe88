import CompileOrder.Shell.Real
import CompileOrder.Shell.Regex.Notation
import CompileOrder.Shell.Utility.Details
import CompileOrder.Shell.Utility.Difference
import CompileOrder.Shell.Utility.Entry
import CompileOrder.Shell.Utility.Find.Condition
import CompileOrder.Shell.Utility.Reading

/-!
# Comparison of files

Where two files begin to differ, and which lines make one file out of the other, for files and
for directories of them.
-/

namespace CompileOrder.Shell.Utility

open Tool

/-- A message and a hint about wrong arguments, both after the name of the utility. -/
def misuseAgain (message : String) : Tool Nat := do
  complain message
  fail 2 ("Try '" ++ (← name) ++ " --help' for more information.")

/-- The number of octets that two texts have in common at their start. -/
def commonLength : List Char → List Char → Nat
  | a :: as, b :: bs => if a == b then commonLength as bs + 1 else 0
  | _, _ => 0

/-- A number in octal digits, flush right. -/
def octalColumn (c : Char) : String := Octets.padLeft 3 (String.ofList (Nat.toDigits 8 c.toNat))

/-- An octet as letters, a line feed and a tab too. -/
def shownOctet (c : Char) : String := if c == '\n' then "^J" else visible true c

/-- A number of octets, in any base. -/
def octetCount? (text : String) : Option Nat :=
  match text.toList with
  | '0' :: x :: ds =>
    if x == 'x' || x == 'X' then
      if ds.isEmpty || ds.any fun d => (Real.hexDigit? d).isNone then none
      else some (Real.hexNumber ds)
    else if (x :: ds).all fun d => '0' ≤ d && d ≤ '7' then
      some ((x :: ds).foldl (fun n d => n * 8 + (d.toNat - 48)) 0)
    else count? text
  | _ => count? text

/-- The octets to be left out at the start of both files. -/
def skips? (text : String) : Option (Nat × Nat) :=
  match text.splitOn ":" with
  | [n] => (octetCount? n).map fun k => (k, k)
  | [n, k] => match octetCount? n, octetCount? k with
    | some i, some j => some (i, j)
    | _, _ => none
  | _ => none

/-- How octets are compared. -/
structure OctetRule where
  /-- All differences are shown. -/
  isVerbose : Bool
  /-- Nothing is shown. -/
  isSilent : Bool
  /-- Octets are shown as letters too. -/
  hasLetters : Bool
  /-- The octets to be left out in the first file. -/
  skip : Nat
  /-- The octets to be left out in the second file. -/
  secondSkip : Nat
  /-- The octets to be compared. -/
  most : Option Nat

/-- A row for two octets that differ, with the place flush right. -/
def OctetRule.row (r : OctetRule) (width place : Nat) (x y : Char) : String :=
  Octets.padLeft width (toString place) ++ " " ++ octalColumn x ++ " " ++
    (if r.hasLetters then Octets.padRight 4 (shownOctet x) ++ " " else "") ++ octalColumn y ++
    (if r.hasLetters then " " ++ shownOctet y else "") ++ "\n"

/-- Two texts are compared octet by octet. -/
def OctetRule.compareTexts (r : OctetRule) (a b s t : String) : Tool Nat := do
  let cut (cs : List Char) : List Char := match r.most with
    | some n => cs.take n
    | none => cs
  let xs := cut (s.toList.drop r.skip)
  let ys := cut (t.toList.drop r.secondSkip)
  if xs == ys then return 0
  if r.isSilent then return 1
  let common := commonLength xs ys
  let lines := ((xs.take common).filter fun c => c == '\n').length
  let (shorter, length) := if xs.length < ys.length then (a, xs.length) else (b, ys.length)
  let ending := "EOF on " ++ shorter ++
    (if length == 0 then " which is empty" else " after byte " ++ toString length)
  if r.isVerbose then
    let width := (toString length).length
    for ((x, y), i) in (xs.zip ys).zipIdx do
      if x != y then out (r.row width (i + 1) x y)
    if xs.length != ys.length then complain ending
    return 1
  match xs[common]?, ys[common]? with
  | some x, some y =>
    out (a ++ " " ++ b ++ " differ: byte " ++ toString (common + 1) ++ ", line " ++
      toString (lines + 1) ++
      (if r.hasLetters then " is " ++ octalColumn x ++ " " ++ shownOctet x ++ " " ++
        octalColumn y ++ " " ++ shownOctet y else "") ++ "\n")
    return 1
  | _, _ =>
    if length == 0 then fail 1 ending
    else
      let isWhole := (xs.take common).getLast? == some '\n'
      fail 1 (ending ++ ", " ++
        (if isWhole then "line " ++ toString lines else "in line " ++ toString (lines + 1)))

/-- Compares two files octet by octet. -/
def cmp : Tool Nat := do
  match Flag.parse [{ letter := 'b', word := "print-bytes" }, { letter := 'l', word := "verbose" },
      { letter := 's', word := "silent" }, { letter := 's', word := "quiet" },
      { letter := 'n', word := "bytes", takes := .required },
      { letter := 'i', word := "ignore-initial", takes := .required }] (← args) with
  | .error message => misuseAgain message
  | .ok p =>
    let wrongSkip (text : String) : Tool Nat :=
      misuseAgain ("invalid --ignore-initial value '" ++ text ++ "'")
    let some (skip, secondSkip) := skips? ((p.get? 'i').getD "0")
      | return ← wrongSkip ((p.get? 'i').getD "")
    let most := (p.get? 'n').map octetCount?
    if most == some none then
      return ← misuseAgain ("invalid --bytes value '" ++ (p.get? 'n').getD "" ++ "'")
    if p.has 'l' && p.has 's' then return ← misuseAgain "options -l and -s are incompatible"
    match p.operands with
    | [] => misuseAgain ("missing operand after '" ++ (← args).getLastD (← name) ++ "'")
    | a :: rest =>
      let b := rest.headD "-"
      let given := (rest.drop 1).take 2
      match given.find? fun text => (octetCount? text).isNone with
      | some text => return ← wrongSkip text
      | none => pure ()
      match rest.drop 3 with
      | extra :: _ => return ← misuseAgain ("extra operand '" ++ extra ++ "'")
      | [] => pure ()
      let counts := given.filterMap octetCount?
      let r : OctetRule := {
        isVerbose := p.has 'l'
        isSilent := p.has 's'
        hasLetters := p.has 'b'
        skip := max skip (counts.headD 0)
        secondSkip := max secondSkip ((counts[1]?).getD 0)
        most := most.join }
      if a == b then return 0
      let stop (path : String) (fault : FileFault) : Tool Nat :=
        if r.isSilent then return 2 else fail 2 (path ++ ": " ++ fault.words)
      match ← contents a with
      | .error fault => stop a fault
      | .ok s =>
        match ← contents b with
        | .error fault => stop b fault
        | .ok t => r.compareTexts a b s t

/-- How files are compared. -/
structure DiffRule where
  /-- Only whether they differ. -/
  isBrief : Bool
  /-- Also if they do not. -/
  isVerbose : Bool
  /-- Files that are not text are compared like text. -/
  isText : Bool
  /-- The form of the changes. -/
  form : DiffForm
  /-- How lines are written. -/
  style : LineStyle
  /-- The names to be shown. -/
  labels : List String
  /-- Also in directories below. -/
  isRecursive : Bool
  /-- Files that are not there count as empty. -/
  hasMissing : Bool
  /-- The patterns of names that are left out. -/
  excluded : List String
  /-- What lines are compared by. -/
  key : String → String
  /-- The lines that do not count. -/
  isTrivial : String → Bool
  /-- The options as they were given. -/
  words : List String

/-- A name between quotes, if blanks or the like stand in it. -/
def quotedPath (path : String) : String :=
  let escape (c : Char) : String :=
    if c == '"' || c == '\\' then "\\" ++ String.singleton c
    else if c == '\n' then "\\n"
    else if c == '\t' then "\\t"
    else String.singleton c
  if path.toList.any fun c => c == ' ' || c == '"' || c == '\\' || c == '\n' || c == '\t' then
    "\"" ++ String.join (path.toList.map escape) ++ "\""
  else path

namespace DiffRule

/-- The name of one of the files, as it is shown. -/
def shownName (r : DiffRule) (side : Nat) (path : String) : String :=
  quotedPath (r.labels[side]?.getD path)

/-- The name of one of the files with its time. -/
def heading (r : DiffRule) (side : Nat) (path : String) : Tool String := do
  match r.labels[side]? with
  | some label => return label ++ "\n"
  | none =>
    let m ← get
    let time := if path == "-" then m.time
      else ((m.find path).toOption.map fun node => node.about.modified).getD 0
    return quotedPath path ++ "\t" ++ fullTime time ++ "\n"

/-- Two texts are compared. -/
def compareTexts (r : DiffRule) (a b s t : String) : Tool Nat := do
  let completed (text : String) : String :=
    if text.isEmpty || text.toList.getLast? == some '\n' then text else text ++ "\n"
  let isScript := match r.form with
    | .script => true
    | _ => false
  let isBinary := !r.isText && (s.toList.contains '\x00' || t.toList.contains '\x00')
  let as := pieces (if isScript then completed s else s)
  let bs := pieces (if isScript then completed t else t)
  let found := (changes r.key r.form.margin as bs).map fun c =>
    { c with isIgnored := (c.removed ++ c.added).all r.isTrivial }
  let isSame := if isBinary then s == t else found.all fun c => c.isIgnored
  let mut code := if isSame then 0 else 1
  if isSame then
    match r.form with
    | .columns _ => if !r.isBrief then out (r.form.render r.style as bs found)
    | _ => pure ()
  else if r.isBrief || isBinary then
    out ((if isBinary && !r.isBrief then "Binary files " else "Files ") ++
      r.labels[0]?.getD a ++ " and " ++ r.labels[1]?.getD b ++ " differ\n")
    return if isBinary && !r.isBrief then 2 else 1
  else
    match r.form with
    | .unified _ => out ("--- " ++ (← r.heading 0 a) ++ "+++ " ++ (← r.heading 1 b))
    | .context _ => out ("*** " ++ (← r.heading 0 a) ++ "--- " ++ (← r.heading 1 b))
    | _ => pure ()
    out (r.form.render r.style as bs found)
  if isScript then
    for (path, text) in [(r.labels[0]?.getD a, s), (r.labels[1]?.getD b, t)] do
      if completed text != text then
        complain (path ++ ": No newline at end of file\n")
        code := 2
  if code == 0 && r.isVerbose then
    out ("Files " ++ r.labels[0]?.getD a ++ " and " ++ r.labels[1]?.getD b ++ " are identical\n")
  return code

/-- The entries of a directory that are not left out. -/
def namesIn (r : DiffRule) (m : Machine) (path : String) : List String :=
  ((m.entries path).toOption.getD []).filter fun n =>
    !r.excluded.any fun pattern => matchesName pattern n false

/-- Two files or directories are compared, at most `depth` levels down. -/
def comparePaths (r : DiffRule) : Nat → Bool → String → String → Tool Nat
  | 0, _, _, _ => return 0
  | depth + 1, isInner, a, b => do
    let m ← get
    let node (path : String) : Option Node := if path == "-" then none else (m.find path).toOption
    let isMissing (path : String) : Bool := path != "-" && (node path).isNone
    let isDirectory (path : String) : Bool := ((node path).map Node.isDirectory).getD false
    if (isMissing a || isMissing b) && (!r.hasMissing || (isMissing a && isMissing b)) then
      for path in [a, b] do
        match if path == "-" then Except.ok () else (m.find path).map fun _ => () with
        | .error fault => complain (path ++ ": " ++ fault.words)
        | .ok _ => pure ()
      return 2
    if !isInner && (a == "-" && isDirectory b || b == "-" && isDirectory a) then
      return ← fail 2 "cannot compare '-' to a directory"
    let isBelow := isDirectory a != isDirectory b && !isMissing a && !isMissing b && !isInner
    let (a, b) := if !isBelow then (a, b)
      else if isDirectory a then (entryPath a (lastName b), b)
      else (a, entryPath b (lastName a))
    if isBelow && (isMissing a || isMissing b) && !r.hasMissing then
      return ← fail 2 ((if isMissing a then a else b) ++ ": " ++ FileFault.notFound.words)
    if isDirectory a && isDirectory b || (isDirectory a && isMissing b) ||
        (isMissing a && isDirectory b) then
      if isInner && !r.isRecursive then
        out ("Common subdirectories: " ++ a ++ " and " ++ b ++ "\n")
        return 0
      let as := r.namesIn m a
      let bs := r.namesIn m b
      let all := (as ++ bs.filter fun n => !as.contains n).mergeSort fun x y => decide (x ≤ y)
      return ← each all fun name => do
        if (as.contains name && bs.contains name) || r.hasMissing then
          r.comparePaths depth true (entryPath a name) (entryPath b name)
        else
          out ("Only in " ++ (if as.contains name then a else b) ++ ": " ++ name ++ "\n")
          return 1
    let isSpecial (path : String) : Bool :=
      ((node path).map fun n => n.isDirectory || (isInner && !n.isFile)).getD false
    match node a, node b with
    | some x, some y =>
      if isSpecial a || isSpecial b then
        out ("File " ++ a ++ " is a " ++ kindText x ++ " while file " ++ b ++ " is a " ++
          kindText y ++ "\n")
        return 1
    | _, _ => pure ()
    let read (path : String) : Tool (Except FileFault String) :=
      if isMissing path then return .ok "" else contents path
    match ← read a, ← read b with
    | .error fault, .error other =>
      complain (a ++ ": " ++ fault.words)
      fail 2 (b ++ ": " ++ other.words)
    | .error fault, _ => fail 2 (a ++ ": " ++ fault.words)
    | _, .error fault => fail 2 (b ++ ": " ++ fault.words)
    | .ok s, .ok t =>
      let header := " ".intercalate ("diff" :: r.words ++ [r.shownName 0 a, r.shownName 1 b])
      if isInner && s != t && !r.isBrief then out (header ++ "\n")
      r.compareTexts a b s t

end DiffRule

/-- The flags of a comparison of lines. -/
def diffFlags : List Flag :=
  [{ letter := 'q', word := "brief" }, { letter := 's', word := "report-identical-files" },
    { letter := 'u' }, { letter := 'U', takes := .required },
    { letter := '\x04', word := "unified", takes := .optional },
    { letter := 'c' }, { letter := 'C', takes := .required },
    { letter := '\x05', word := "context", takes := .optional },
    { letter := 'e', word := "ed" }, { letter := 'n', word := "rcs" },
    { letter := 'y', word := "side-by-side" },
    { letter := 'W', word := "width", takes := .required },
    { letter := '\x06', word := "left-column" },
    { letter := '\x07', word := "suppress-common-lines" },
    { letter := 'r', word := "recursive" }, { letter := 'N', word := "new-file" },
    { letter := 'x', word := "exclude", takes := .required },
    { letter := 'i', word := "ignore-case" }, { letter := 'w', word := "ignore-all-space" },
    { letter := 'b', word := "ignore-space-change" },
    { letter := 'Z', word := "ignore-trailing-space" },
    { letter := 'E', word := "ignore-tab-expansion" },
    { letter := 'B', word := "ignore-blank-lines" },
    { letter := 'I', word := "ignore-matching-lines", takes := .required },
    { letter := 'a', word := "text" }, { letter := 'd', word := "minimal" },
    { letter := 't', word := "expand-tabs" }, { letter := 'T', word := "initial-tab" },
    { letter := 'L', word := "label", takes := .required },
    { letter := '\x01', word := "strip-trailing-cr" },
    { letter := '\x02', word := "color", takes := .optional },
    { letter := '\x03', word := "normal" }, { letter := 'H', word := "speed-large-files" }]

/-- The lines as they are compared. -/
def diffKey (p : Parsed) (line : String) : String :=
  let blank (c : Char) : Bool := Octets.isSpace c
  let trimmed (cs : List Char) : List Char := (cs.reverse.dropWhile blank).reverse
  let cs := line.toList
  let cs := if p.has '\x01' && cs.reverse.take 2 == ['\n', '\r'] then
    cs.take (cs.length - 2) ++ ['\n'] else cs
  let cs := if p.has 'i' then cs.map Char.toLower else cs
  let cs := if p.has 'E' then withoutTabs 0 cs else cs
  let cs := if p.has 'w' then cs.filter fun c => !blank c
    else if p.has 'b' then
      (((trimmed cs).splitBy fun x y => blank x == blank y).map fun run =>
        if run.any blank then [' '] else run).flatten
    else if p.has 'Z' then trimmed cs
    else cs
  String.ofList cs

/-- The lines that do not count. -/
def isTrivialLine (p : Parsed) (patterns : List Regex) (line : String) : Bool :=
  let text := String.ofList (line.toList.filter fun c => c != '\n')
  let isEmpty := if p.has 'b' || p.has 'w' || p.has 'Z' then text.toList.all Octets.isSpace
    else text.isEmpty
  (p.has 'B' && isEmpty) || patterns.any fun r => r.isIn text

/-- The form that an option asks for. -/
def formOf (p : Parsed) (option : Char × String) : Except String (Option DiffForm) :=
  let lines (text : String) : Except String Nat :=
    match Octets.number? text with
    | some n => .ok n
    | none => .error ("invalid context length '" ++ text ++ "'")
  match option with
  | ('u', _) => .ok (some (.unified 3))
  | ('c', _) => .ok (some (.context 3))
  | ('U', text) => (lines text).map fun n => some (.unified n)
  | ('C', text) => (lines text).map fun n => some (.context n)
  | ('\x04', text) => if text.isEmpty then .ok (some (.unified 3))
    else (lines text).map fun n => some (.unified n)
  | ('\x05', text) => if text.isEmpty then .ok (some (.context 3))
    else (lines text).map fun n => some (.context n)
  | ('e', _) => .ok (some .script)
  | ('n', _) => .ok (some .counted)
  | ('\x03', _) => .ok (some .normal)
  | ('y', _) =>
    let width := (p.get? 'W').getD "130"
    match Octets.number? width with
    | some n => if n == 0 then .error ("invalid width '" ++ width ++ "'")
      else .ok (some (.columns (.ofWidth n (p.has 't') (p.has '\x06') (p.has '\x07'))))
    | none => .error ("invalid width '" ++ width ++ "'")
  | _ => .ok none

/-- The form that options ask for. Of two that are of one kind the one with more lines around
changes counts. -/
def chosenForm (p : Parsed) : Except String DiffForm := do
  let forms ← p.options.mapM (formOf p)
  match forms.filterMap id with
  | [] => return .normal
  | f :: fs =>
    if fs.all fun g => f.isLike g then
      return fs.foldl (fun best g => if best.margin < g.margin then g else best) f
    else throw "conflicting output style options"

/-- Compares files line by line. -/
def diff : Tool Nat := do
  let words ← args
  match Flag.parse diffFlags words with
  | .error message => misuseAgain message
  | .ok p =>
    match chosenForm p with
    | .error message => misuseAgain message
    | .ok form =>
      let mut patterns : List Regex := []
      for (letter, text) in p.options do
        if letter == 'I' then
          match Regex.parse { isExtended := false } text with
          | .ok parsed => patterns := patterns ++ [parsed.regex]
          | .error _ => return ← fail 2 (text ++ ": Invalid regular expression")
      let given := (p.operands.reverse.foldl (fun ws o => ws.erase o) words.reverse).reverse
      let r : DiffRule := {
        isBrief := p.has 'q'
        isVerbose := p.has 's'
        isText := p.has 'a'
        form := form
        style := { hasTab := p.has 'T', expandsTabs := p.has 't' }
        labels := p.options.filterMap fun o => if o.1 == 'L' then some o.2 else none
        isRecursive := p.has 'r'
        hasMissing := p.has 'N'
        excluded := p.options.filterMap fun o => if o.1 == 'x' then some o.2 else none
        key := diffKey p
        isTrivial := isTrivialLine p patterns
        words := given.map Quote.forShell }
      match p.operands with
      | [a, b] => r.comparePaths 100 false a b
      | _ :: _ :: extra :: _ => misuseAgain ("extra operand '" ++ extra ++ "'")
      | _ => misuseAgain ("missing operand after '" ++ words.getLastD (← name) ++ "'")

end CompileOrder.Shell.Utility
