import CompileOrder.Shell.Pattern
import CompileOrder.Shell.Utility.Values
import CompileOrder.Shell.Utility.Sorting

/-!
# Utilities for parts of lines

Fields and characters of lines, lines side by side, numbers before lines, lines of a
width, and characters put in the place of others.
-/

namespace CompileOrder.Shell.Utility

open Tool

/-- A range of positions, from one on; the last one may be open. -/
abbrev Span := Nat × Option Nat

/-- Why a list of positions is none. -/
inductive SpanFault where
  | zero | decreasing | invalid
  deriving DecidableEq, Repr

/-- The range that a text names. -/
def span (text : String) : Except SpanFault Span :=
  match text.splitOn "-" with
  | [one] =>
    match Octets.number? one with
    | some 0 => .error .zero
    | some n => .ok (n, some n)
    | none => .error .invalid
  | [a, b] =>
    match a.isEmpty, b.isEmpty, Octets.number? a, Octets.number? b with
    | true, true, _, _ => .error .invalid
    | _, _, some 0, _ | true, _, _, some 0 => .error .zero
    | false, true, some n, _ => .ok (n, none)
    | true, false, _, some m => .ok (1, some m)
    | false, false, some n, some m => if m < n then .error .decreasing else .ok (n, some m)
    | _, _, _, _ => .error .invalid
  | _ => .error .invalid

/-- The ranges that a list names. -/
def spans (text : String) : Except SpanFault (List Span) :=
  ((text.splitOn ",").flatMap fun s => s.splitOn " ").mapM span

/-- Whether a position is in one of the ranges. -/
def inSpans (ss : List Span) (n : Nat) : Bool :=
  ss.any fun (a, b) => a ≤ n && (match b with
    | some m => n ≤ m
    | none => true)

/-- The items at the positions that are asked for. -/
def chosen {α : Type} (isInverted : Bool) (ss : List Span) (items : List α) : List α :=
  (items.zipIdx.filter fun (_, i) => inSpans ss (i + 1) != isInverted).map fun (a, _) => a

/-- Shows parts of lines. -/
def cut : Tool Nat :=
  withOptions [{ letter := 'b', word := "bytes", takes := .required },
      { letter := 'c', word := "characters", takes := .required },
      { letter := 'd', word := "delimiter", takes := .required },
      { letter := 'f', word := "fields", takes := .required }, { letter := 'n' },
      { letter := 's', word := "only-delimited" }, { letter := 'z' },
      { letter := '\x01', word := "complement" },
      { letter := '\x02', word := "output-delimiter", takes := .required }] 1 fun p => do
    let lists := p.options.filter fun o => o.1 == 'b' || o.1 == 'c' || o.1 == 'f'
    match lists with
    | [] => misuse 1 "you must specify a list of bytes, characters, or fields"
    | _ :: _ :: _ => misuse 1 "only one list may be specified"
    | [(kind, list)] =>
      let isFields := kind == 'f'
      if !isFields && p.has 'd' then
        misuse 1 "an input delimiter may be specified only when operating on fields"
      else if !isFields && p.has 's' then
        misuse 1 "suppressing non-delimited lines makes sense\n\tonly when operating on fields"
      else match spans list with
        | .error .zero =>
          misuse 1 (if isFields then "fields are numbered from 1"
            else "byte/character positions are numbered from 1")
        | .error .decreasing => misuse 1 "invalid decreasing range"
        | .error .invalid =>
          if list == "-" then misuse 1 "invalid range with no endpoint: -"
          else
            misuse 1
              ((if isFields then "invalid field value " else "invalid byte/character position ") ++
            Quote.inWords list)
        | .ok ss =>
          let delimiter := (p.get? 'd').getD "\t"
          if 1 < delimiter.length then misuse 1 "the delimiter must be a single character"
          else
            let delimiter := if delimiter.isEmpty then "\x00" else delimiter
            let isInverted := p.has '\x01'
            forTexts p.operands fun text =>
              let lines := Octets.lines text
              if isFields then
                let between := (p.get? '\x02').getD delimiter
                outLines (lines.filterMap fun line =>
                  let fields := line.splitOn delimiter
                  if fields.length == 1 then if p.has 's' then none else some line
                  else some (between.intercalate (chosen isInverted ss fields)))
              else outLines (lines.map fun line => String.ofList (chosen isInverted ss line.toList))

/-- The characters that stand between columns, where escapes are resolved. -/
def pasteDelimiters : List Char → List (Option Char)
  | [] => []
  | '\\' :: '0' :: cs => none :: pasteDelimiters cs
  | '\\' :: 'n' :: cs => some '\n' :: pasteDelimiters cs
  | '\\' :: 't' :: cs => some '\t' :: pasteDelimiters cs
  | '\\' :: '\\' :: cs => some '\\' :: pasteDelimiters cs
  | '\\' :: c :: cs => some c :: pasteDelimiters cs
  | c :: cs => some c :: pasteDelimiters cs

/-- Items with delimiters between them, which are used in turn. -/
def delimited (delimiters : List (Option Char)) (items : List String) : String :=
  String.join (items.zipIdx.map fun (item, i) =>
    if i == 0 then item
    else match delimiters.getD ((i - 1) % max delimiters.length 1) none with
      | some c => String.singleton c ++ item
      | none => item)

/-- The lines of files that are read in turns from the same input, `n` of them. -/
def dealt (count index : Nat) (lines : List String) : List String :=
  (lines.zipIdx.filter fun (_, i) => i % max count 1 == index).map fun (l, _) => l

/-- Shows the lines of files side by side. -/
def paste : Tool Nat :=
  withOptions [{ letter := 'd', word := "delimiters", takes := .required },
    { letter := 's', word := "serial" },
      { letter := 'z' }] 1 fun p => do
    let delimiters := match p.get? 'd' with
      | some d => if d.isEmpty then [none] else pasteDelimiters d.toList
      | none => [some '\t']
    let files := orInput p.operands
    let shared := match ← (if files.contains "-" then input else return .ok "") with
      | .ok text => Octets.lines text
      | .error _ => []
    let count := (files.filter fun f => f == "-").length
    let mut columns : List (List String) := []
    let mut seen := 0
    for path in files do
      if path == "-" then
        columns := columns ++ [if p.has 's' then (if seen == 0 then shared else [])
          else dealt count seen shared]
        seen := seen + 1
      else match (← get).read path with
        | .ok text => columns := columns ++ [Octets.lines text]
        | .error fault => return ← fail 1 (Quote.ifNeeded path ++ ": " ++ fault.words)
    if p.has 's' then outLines (columns.map (delimited delimiters))
    else
      let height := (columns.map List.length).foldl max 0
      outLines ((List.range height).map fun i =>
        delimited delimiters (columns.map fun c => c.getD i ""))
    return 0

/-- Which lines get a number. -/
def isNumbered (style : String) (line : String) : Bool :=
  match style.toList with
  | ['a'] => true
  | ['n'] => false
  | _ => !line.isEmpty

/-- Shows lines with numbers. -/
def nl : Tool Nat :=
  withOptions (Flag.ofLetters "b:d:f:h:i:l:n:ps:v:w:") 1 fun p => do
    let number (c : Char) (default : Nat) : Nat := ((p.get? c).bind Octets.number?).getD default
    let width := number 'w' 6
    let separator := (p.get? 's').getD "\t"
    let style := (p.get? 'b').getD "t"
    let show_ (n : Nat) : String := match p.get? 'n' with
      | some "ln" => Octets.padRight width (toString n)
      | some "rz" => zeroPad width (toString n)
      | _ => Octets.padLeft width (toString n)
    let mut n := number 'v' 1
    let mut code := 0
    for path in orInput p.operands do
      match ← contents path with
      | .error fault => code := ← fail 1 (Quote.ifNeeded path ++ ": " ++ fault.words)
      | .ok text =>
        for line in Octets.lines text do
          if isNumbered style line then
            out (show_ n ++ separator ++ line ++ "\n")
            n := n + number 'i' 1
          else out (Octets.padRight (width + separator.length) "" ++ line ++ "\n")
    return code

/-- The column after a character. -/
def columnAfter (isOctets : Bool) (column : Nat) (c : Char) : Nat :=
  if isOctets then column + 1
  else if c == '\t' then column + 8 - column % 8
  else if c == '\x08' then column - 1
  else if c == '\r' then 0
  else column + 1

/-- The width of some characters. -/
def widthOf (isOctets : Bool) (cs : List Char) : Nat := cs.foldl (columnAfter isOctets) 0

/-- A line in pieces of a width; `piece` is the piece so far, the last character first. -/
def folded (isOctets atBlanks : Bool) (width : Nat) : Nat → List Char → List Char → List (List Char)
  | 0, piece, _ => [piece.reverse]
  | _ + 1, piece, [] => if piece.isEmpty then [] else [piece.reverse]
  | n + 1, piece, c :: cs =>
    if widthOf isOctets (piece.reverse ++ [c]) ≤ width || piece.isEmpty then
      folded isOctets atBlanks width n (c :: piece) cs
    else if atBlanks && piece.any (fun c => c == ' ' || c == '\t') then
      let tail := piece.takeWhile fun c => !(c == ' ' || c == '\t')
      (piece.drop tail.length).reverse :: folded isOctets atBlanks width n tail (c :: cs)
    else piece.reverse :: folded isOctets atBlanks width n [] (c :: cs)

/-- Shows lines in pieces of a width. -/
def fold : Tool Nat := do
  let words := (← args).map fun w => match w.toList with
    | '-' :: c :: cs => if c.isDigit then "-w" ++ String.ofList (c :: cs) else w
    | _ => w
  match Flag.parse [{ letter := 'b', word := "bytes" }, { letter := 's', word := "spaces" },
      { letter := 'w', word := "width", takes := .required }] words with
  | .error message => misuse 1 message
  | .ok p =>
    let width := (p.get? 'w').getD "80"
    match (Octets.number? width).filter fun n => 0 < n with
    | none =>
      fail 1 ("invalid number of columns: " ++ Quote.inWords width ++
        (if (Octets.number? width).isSome then ": Numerical result out of range" else ""))
    | some n =>
      forTexts p.operands fun text =>
        out (String.join ((pieces text).map fun line =>
          let cs := line.toList
          let hasEnd := cs.getLast? == some '\n'
          let body := if hasEnd then cs.dropLast else cs
          "\n".intercalate ((folded (p.has 'b') (p.has 's') n (3 * body.length + 3) [] body).map
            String.ofList) ++ (if hasEnd then "\n" else "")))

/-- The first place to the right of a column that a tabulator leads to. -/
def nextStop (stops : List Nat) (column : Nat) : Nat :=
  match stops with
  | [n] => column + n - column % max n 1
  | stops => (stops.find? fun s => column < s).getD (column + 1)

/-- A line with blanks for tabulators. -/
def expandLine (stops : List Nat) (onlyFirst : Bool) : Nat → Bool → List Char → List Char
  | _, _, [] => []
  | column, isStart, c :: cs =>
    if c == '\t' && (isStart || !onlyFirst) then
      let stop := nextStop stops column
      List.replicate (stop - column) ' ' ++ expandLine stops onlyFirst stop isStart cs
    else c :: expandLine stops onlyFirst (columnAfter false column c) (isStart && c == ' ') cs

/-- The places that tabulators lead to. -/
def tabStops (p : Parsed) : List Nat :=
  match p.get? 't' with
  | some t => ((t.splitOn ",").flatMap fun s => s.splitOn " ").filterMap Octets.number?
  | none => [8]

/-- Shows blanks for tabulators. -/
def expand : Tool Nat :=
  withOptions [{ letter := 'i', word := "initial" },
    { letter := 't', word := "tabs", takes := .required }] 1
    fun p => forTexts p.operands fun text =>
      out (String.join ((pieces text).map fun line =>
        String.ofList (expandLine (tabStops p) (p.has 'i') 0 true line.toList)))

/-- A line with tabulators for blanks; `blanks` are the column where blanks began and
their number. -/
def unexpandLine (stops : List Nat) (isAll : Bool) : Nat → Nat → Bool → List Char → List Char
  | _, blanks, _, [] => List.replicate blanks ' '
  | column, blanks, isStart, c :: cs =>
    if (isStart || isAll) && c == ' ' then
      let column := column + 1
      if column % max (stops.headD 8) 1 == 0 && (1 < blanks + 1 || isStart) then
        '\t' :: unexpandLine stops isAll column 0 isStart cs
      else unexpandLine stops isAll column (blanks + 1) isStart cs
    else if (isStart || isAll) && c == '\t' then
      '\t' :: unexpandLine stops isAll (nextStop stops column) 0 isStart cs
    else List.replicate blanks ' ' ++ c :: unexpandLine stops isAll (column + 1) 0 false cs

/-- Shows tabulators for blanks. -/
def unexpand : Tool Nat :=
  withOptions [{ letter := 'a', word := "all" }, { letter := '\x01', word := "first-only" },
      { letter := 't', word := "tabs", takes := .required }] 1 fun p =>
    forTexts p.operands fun text =>
      let isAll := (p.has 'a' || p.has 't') && !p.has '\x01'
      out (String.join ((pieces text).map fun line =>
        String.ofList (unexpandLine (tabStops p) isAll 0 0 true line.toList)))

/-- A part of a set of characters. -/
inductive SetItem where
  /-- These characters. -/
  | chars (cs : List Char)
  /-- A character a number of times; nought fills up. -/
  | many (c : Char) (count : Nat)
  deriving DecidableEq, Repr

/-- The characters from one to another. -/
def charsBetween (a b : Char) : List Char :=
  (List.range (b.toNat + 1 - a.toNat)).map fun i => Char.ofNat (a.toNat + i)

/-- All octets. -/
def allOctets : List Char := (List.range 256).map Char.ofNat

/-- One character of a set, perhaps escaped, and the rest. -/
def setChar (cs : List Char) : Option (Char × List Char) :=
  match cs with
  | [] => none
  | ['\\'] => some ('\\', [])
  | '\\' :: c :: rest =>
    match (Escape.control? c).filter fun _ => c != 'e' with
    | some x => some (x, rest)
    | none =>
      let ds := ((c :: rest).take 3).takeWhile Escape.isOctal
      if ds.isEmpty then some (c, rest) else some (Escape.octet ds, (c :: rest).drop ds.length)
  | c :: rest => some (c, rest)

/-- The parts of a set in brackets: a class, an equivalence or a repetition. -/
def bracketItem? (cs : List Char) : Option (SetItem × List Char) :=
  match cs with
  | ':' :: rest =>
    let name := rest.takeWhile fun c => c != ':'
    match rest.drop name.length with
    | ':' :: ']' :: rest =>
      (Pattern.classes.find? fun c => c.1 == String.ofList name).map fun (_, p) =>
        (.chars (allOctets.filter p), rest)
    | _ => none
  | '=' :: c :: '=' :: ']' :: rest => some (.chars [c], rest)
  | cs =>
    match setChar cs with
    | some (c, '*' :: rest) =>
      let ds := rest.takeWhile Char.isDigit
      match rest.drop ds.length with
      | ']' :: rest => some (.many c (Octets.number ds), rest)
      | _ => none
    | _ => none

/-- The parts of a set, read in at most `n` steps, or why it is none. -/
def setItems : Nat → List Char → Except String (List SetItem)
  | 0, _ => .ok []
  | _ + 1, [] => .ok []
  | n + 1, '[' :: cs =>
    match bracketItem? cs with
    | some (item, rest) => do return item :: (← setItems n rest)
    | none =>
      match cs with
      | ':' :: rest =>
        let name := rest.takeWhile fun c => c != ':'
        match rest.drop name.length with
        | ':' :: ']' :: _ => .error ("invalid character class " ++
          Quote.inWords (String.ofList name))
        | _ => single n '[' cs
      | _ => single n '[' cs
  | n + 1, cs =>
    match setChar cs with
    | none => .ok []
    | some (c, rest) => single n c rest
where
  /-- A character, or a range that begins with it. -/
  single (n : Nat) (c : Char) (rest : List Char) : Except String (List SetItem) :=
    match rest with
    | '-' :: more@(_ :: _) =>
      match setChar more with
      | some (d, after) =>
        if d < c then
          .error ("range-endpoints of '" ++ String.ofList [c, '-', d] ++
            "' are in reverse collating sequence order")
        else do return .chars (charsBetween c d) :: (← setItems n after)
      | none => do return .chars [c] :: (← setItems n rest)
    | rest => do return .chars [c] :: (← setItems n rest)

/-- The characters of a set; repetitions without a number fill up to a length. -/
def setChars (length : Nat) (items : List SetItem) : List Char :=
  let fixed := (items.map fun i => match i with
    | .chars cs => cs.length
    | .many _ n => n).foldl (· + ·) 0
  items.flatMap fun i => match i with
    | .chars cs => cs
    | .many c 0 => List.replicate (length - fixed) c
    | .many c n => List.replicate n c

/-- Characters without those that are the same as the one before and in a set. -/
def squeezed (set : List Char) : Option Char → List Char → List Char
  | _, [] => []
  | last, c :: cs =>
    if last == some c && set.contains c then squeezed set last cs else c :: squeezed set (some c) cs

/-- The character that stands in the place of another one. -/
def replacement (table : List (Char × Char)) (c : Char) : Char :=
  match table.find? fun e => e.1 == c with
  | some (_, d) => d
  | none => c

/-- Shows its input with characters in the place of others. -/
def tr : Tool Nat :=
  withLeadingOptions [{ letter := 'c', word := "complement" }, { letter := 'C' },
      { letter := 'd', word := "delete" }, { letter := 's', word := "squeeze-repeats" },
      { letter := 't', word := "truncate-set1" }] 1 fun p => do
    let hint (message detail : String) : Tool Nat := do
      complain message
      err (detail ++ "\n")
      err ("Try '" ++ (← name) ++ " --help' for more information.\n")
      return 1
    let deletes := p.has 'd'
    let squeezes := p.has 's'
    match p.operands with
    | [] => misuse 1 "missing operand"
    | _ :: _ :: extra :: _ => misuse 1 ("extra operand " ++ Quote.inWords extra)
    | first :: rest =>
      if rest.isEmpty && !deletes && !squeezes then
        hint ("missing operand after " ++ Quote.inWords first)
          "Two strings must be given when translating."
      else if rest.isEmpty && deletes && squeezes then
        hint ("missing operand after " ++ Quote.inWords first)
          "Two strings must be given when both deleting and squeezing repeats."
      else if !rest.isEmpty && deletes && !squeezes then
        hint ("extra operand " ++ Quote.inWords (rest.headD ""))
          "Only one string may be given when deleting without squeezing repeats."
      else
        let second := rest.headD ""
        match setItems (first.length + 1) first.toList,
          setItems (second.length + 1) second.toList with
        | .error message, _ | _, .error message => fail 1 message
        | .ok items1, .ok items2 =>
          let set1 := setChars 0 items1
          let isInverted := p.has 'c' || p.has 'C'
          let set1 := if isInverted then allOctets.filter fun c => !set1.contains c else set1
          let set2 := setChars set1.length items2
          let isTranslating := !deletes && !rest.isEmpty
          if isTranslating && set2.isEmpty && !p.has 't' then
            fail 1 "when not truncating set1, string2 must be non-empty"
          else
            let filled := if p.has 't' then set2
              else set2 ++ List.replicate (set1.length - set2.length) (set2.getLastD ' ')
            let table := (set1.zip filled).reverse
            match ← input with
            | .error fault => fail 1 ("read error: " ++ fault.words)
            | .ok text =>
              let cs := text.toList
              let cs := if deletes then cs.filter fun c => !set1.contains c
                else if isTranslating then cs.map (replacement table) else cs
              let cs :=
                if squeezes then squeezed (if rest.isEmpty then set1 else set2) none cs
                else cs
              out (String.ofList cs)
              return 0

end CompileOrder.Shell.Utility
