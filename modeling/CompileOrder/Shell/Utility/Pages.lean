import CompileOrder.Shell.Calendar
import CompileOrder.Shell.Utility.Reading

/-!
# Pages

Texts are set in pages, in one column or in several, with a head and a foot on each page. In
several columns, lines go down the columns or across them, or each column holds a file of its
own; blanks between columns are written as tabulators where they can be.
-/

namespace CompileOrder.Shell.Utility

open Tool

/-- How lines are numbered. -/
structure LineNumbers where
  /-- What stands after a number. -/
  separator : Char := '\t'
  /-- The number of digits. -/
  digits : Nat := 5
  /-- The first number. -/
  start : Int := 1

/-- How pages are set. -/
structure PageRules where
  /-- The number of columns. -/
  columns : Nat := 1
  /-- Whether lines go across the columns. -/
  goesAcross : Bool := false
  /-- Whether each column holds a file of its own. -/
  isParallel : Bool := false
  /-- The width of a page. -/
  width : Nat := 72
  /-- The number of lines of a page. -/
  length : Nat := 66
  /-- Whether pages have a head and a foot. -/
  hasHead : Bool := true
  /-- Whether a form feed ends a page. -/
  feeds : Bool := false
  /-- What separates columns. -/
  separator : Option String := none
  /-- Whether lines are cut to the width of their column. -/
  cuts : Bool := false
  /-- Whether lines follow each other without columns. -/
  isJoined : Bool := false
  /-- How lines are numbered, if they are. -/
  numbers : Option LineNumbers := none
  /-- The number of blanks before each line. -/
  margin : Nat := 0
  /-- Whether an empty line follows each line. -/
  isDouble : Bool := false
  /-- Whether tabulators that are read become blanks. -/
  expands : Bool := false
  /-- Whether blanks that are written become tabulators. -/
  compresses : Bool := false
  /-- The title, if it is not the name of the file. -/
  title : Option String := none
  /-- The format of the date. -/
  dateFormat : String := "%Y-%m-%d %H:%M"
  /-- The first page that is shown. -/
  firstPage : Nat := 1
  /-- The last page that is shown. -/
  lastPage : Option Nat := none
  /-- Whether files that cannot be read are passed over. -/
  isTolerant : Bool := false
  /-- Whether form feeds that are read are written. -/
  keepsFeeds : Bool := false

namespace PageRules

/-- The width of a number with what stands after it. -/
def numberWidth (r : PageRules) : Nat :=
  match r.numbers with
  | none => 0
  | some n => if n.separator == '\t' then n.digits + (8 - n.digits % 8) else n.digits + 1

/-- The rules as several columns ask for them. -/
def settled (r : PageRules) : PageRules :=
  let r := if r.columns ≤ 1 then r else
    let separator := match r.separator with
      | none => if r.isJoined then "\t" else " "
      | some s => if !r.isJoined && s == "\t" then " " else s
    { r with separator := some separator, cuts := true
             expands := r.expands || separator != "\t", compresses := true }
  if r.isJoined then { r with cuts := false } else r

/-- The length of what separates columns. -/
def gap (r : PageRules) : Nat := (r.separator.getD "").length

/-- The width of a column; none if there is no room. -/
def columnWidth? (r : PageRules) : Option Nat :=
  let used := (if r.isParallel then r.numberWidth else 0) + (r.columns - 1) * r.gap
  let width := (r.width - used) / r.columns
  if width == 0 then none else some width

/-- The position at which a column starts, from 0; 0 if it may start anywhere. -/
def start (r : PageRules) (column : Nat) : Nat :=
  let width := r.columnWidth?.getD 1
  if column == 0 then r.margin + r.gap
  else if !r.cuts then 0
  else
    let first := width + if r.isParallel then r.numberWidth else 0
    r.margin + first + r.gap + (column - 1) * (width + r.gap)

/-- The number of lines of a page without its head and foot. -/
def bodyLength (r : PageRules) : Nat :=
  let n := if r.hasHead then r.length - 10 else r.length
  if r.isDouble then n / 2 else n

/-- The characters of a line as far as there is room for them, from a position on. -/
def fitted (r : PageRules) (position : Nat) : List Char → List Char
  | [] => []
  | c :: cs =>
    let (shown, next) := if c == '\t' then
        let width := 8 - position % 8
        (if r.expands then List.replicate width ' ' else [c], position + width)
      else if c == '\x08' then (if position == 0 then [] else [c], position - 1)
      else if Octets.isPrint c then ([c], position + 1)
      else ([c], position)
    if r.cuts && r.columnWidth?.getD 1 < next then [] else shown ++ fitted r next cs

/-- The characters of a number with what stands after it. -/
def numberText (r : PageRules) (line : Int) : List Char :=
  match r.numbers with
  | none => []
  | some n =>
    let text := (Octets.padLeft n.digits (toString line)).toList
    let text := text.drop (text.length - n.digits)
    if n.separator == '\t' && 1 < r.columns then
      text ++ List.replicate (r.numberWidth - n.digits) ' '
    else text ++ [n.separator]

/-- A line of the text, perhaps with its number, as it stands in a column. -/
def cell (r : PageRules) (line : String) (number : Option Int) : List Char :=
  let mark := match number with
    | some n => r.numberText n
    | none => []
  let position := if number.isSome && r.cuts && !r.isParallel then r.numberWidth else 0
  mark ++ r.fitted position line.toList

end PageRules

/-- A line that is being written. -/
structure PageLine where
  /-- What has been written. -/
  text : List Char := []
  /-- The position in the line. -/
  position : Nat := 0
  /-- Blanks that have not been written. -/
  blanks : Nat := 0
  /-- Separators that have not been written. -/
  separators : Nat := 0

namespace PageLine

/-- The blanks are written, with tabulators where they fit, in at most `n` steps. -/
def fill : Nat → Nat → Nat → List Char
  | 0, _, _ => []
  | n + 1, here, goal =>
    let next := (here / 8 + 1) * 8
    if here + 1 < goal && next ≤ goal then '\t' :: fill n next goal
    else List.replicate (goal - here) ' '

/-- The blanks are written. -/
def flush (l : PageLine) : PageLine :=
  let goal := l.position + l.blanks
  { l with text := l.text ++ fill (l.blanks + 1) l.position goal, position := goal, blanks := 0 }

/-- A character is written. -/
def put (r : PageRules) (l : PageLine) (c : Char) : PageLine :=
  if !r.compresses then { l with text := l.text ++ [c] }
  else if c == ' ' then { l with blanks := l.blanks + 1 }
  else
    let l := if l.blanks == 0 then l else l.flush
    let position := if Octets.isPrint c then l.position + 1
      else if c == '\x08' then l.position - 1 else l.position
    { l with text := l.text ++ [c], position := position }

/-- The position is reached with blanks. -/
def padTo (r : PageRules) (l : PageLine) (position : Nat) : PageLine :=
  if r.compresses then { l with blanks := position - l.position }
  else { l with text := l.text ++ List.replicate (position - l.position) ' ', position := position }

/-- One separator is written. -/
def putSeparator (l : PageLine) (separator : String) : PageLine :=
  let l := separator.toList.foldl (fun l c =>
    if c == ' ' then { l with blanks := l.blanks + 1 }
    else
      let l := if l.blanks == 0 then l else l.flush
      { l with text := l.text ++ [c], position := l.position + 1 }) l
  if l.blanks == 0 then l else l.flush

/-- The separators are written. -/
def putSeparators (r : PageRules) (l : PageLine) : PageLine :=
  match r.separator with
  | none => l
  | some s =>
    if l.separators == 0 then if l.blanks == 0 then l else l.flush
    else
      -- only the first of several separators has any characters left to write
      let l := l.putSeparator s
      { l with separators := 0 }

/-- A column begins. -/
def begin (r : PageRules) (l : PageLine) (column : Nat) : PageLine :=
  let start := r.start column
  let l := if r.gap < start then l.padTo r (start - r.gap) else l
  l.putSeparators r

end PageLine

namespace PageRules

/-- The missing cells at the start of a line, of which the first one has a mark. -/
def leftEmpty (r : PageRules) (mark : List Char) (missing : Nat) (l : PageLine) : PageLine :=
  let l := (List.range missing).foldl (fun (l : PageLine) k =>
    let l := l.begin r k
    let l := if k == 0 then mark.foldl (PageLine.put r) l else l
    { l with separators := l.separators + 1 }) { l with separators := 0 }
  { l with blanks := if r.cuts then r.columnWidth?.getD 1 else 0 }

/-- Cells are written from a column on, after a number of missing cells at the start of the
line, if all cells so far are missing. -/
def putCells (r : PageRules) (mark : List Char) :
    Nat → Option Nat → List (Option (List Char)) → PageLine → PageLine
  | _, _, [], l => l
  | column, missing, cell :: rest, l =>
    let (l, missing) := match cell, missing with
      | some cs, missing =>
        let l := if r.isParallel && 0 < missing.getD 0 then r.leftEmpty mark (missing.getD 0) l
          else l
        (cs.foldl (PageLine.put r) (l.begin r column), none)
      | none, some n => (l, some (n + 1))
      | none, none => (if r.isParallel then l.begin r column else l, none)
    putCells r mark (column + 1) missing rest { l with separators := l.separators + 1 }

/-- The line that cells make; a cell that is missing is left empty, and filled up if the
columns hold files. `mark` is the number of a line whose first cell is missing. -/
def row (r : PageRules) (mark : List Char) (cells : List (Option (List Char))) : String :=
  String.ofList (r.putCells mark 0 (some 0) cells {}).text ++ "\n"

/-- The lines of a page in columns that are filled one after the other, as evenly as they
can be. -/
def downRows (r : PageRules) (cells : List (List Char)) : List (List (Option (List Char))) :=
  let count := cells.length
  let sizes := (List.range r.columns).map fun i =>
    count / r.columns + if i < count % r.columns then 1 else 0
  let columns := (sizes.foldl (fun (done, rest) n =>
    (done ++ [rest.take n], rest.drop n)) (([] : List (List (List Char))), cells)).1
  (List.range (sizes.headD 0)).map fun i =>
    (columns.map fun column => column[i]?).reverse.dropWhile Option.isNone |>.reverse

/-- The rows of a page whose lines go across the columns, in at most `n` steps. -/
def acrossRows (r : PageRules) : Nat → List (List Char) → List (List (Option (List Char)))
  | 0, _ => []
  | _ + 1, [] => []
  | n + 1, cells => (cells.take r.columns).map some :: acrossRows r n (cells.drop r.columns)

/-- The pieces of a list with a length, at most `n`. -/
def chunks {α : Type} (size : Nat) : Nat → List α → List (List α)
  | 0, _ => []
  | _ + 1, [] => []
  | n + 1, xs => xs.take size :: chunks size n (xs.drop size)

/-- The texts between form feeds; a line feed after a form feed belongs to it. -/
def sheets (text : String) : List String :=
  match text.splitOn "\x0c" with
  | first :: rest =>
    first :: rest.map fun s => if s.toList.head? == some '\n' then Octets.dropFirst 1 s else s
  | [] => []

/-- The lines of a text without their line feeds. -/
def bareLines (text : String) : List String :=
  (pieces text).map fun l =>
    if l.toList.getLast? == some '\n' then String.ofList l.toList.dropLast else l

/-- The pages of a text: each with its rows. -/
def pagesOf (r : PageRules) (text : String) : List (List String) :=
  let size := max 1 r.bodyLength
  let start := (r.numbers.map fun n => n.start).getD 1
  let sheets := (sheets text).map bareLines
  let sheets := if sheets.getLast? == some [] then sheets.dropLast else sheets
  let numbered := sheets.foldl (fun (done, (n : Int)) lines =>
    let cells := lines.zipIdx.map fun (line, i) =>
      r.cell line (if r.numbers.isSome then some (n + i) else none)
    (done ++ [cells], n + lines.length)) (([] : List (List (List Char))), start)
  let count := numbered.1.length
  numbered.1.zipIdx.flatMap fun (cells, i) =>
    let perPage := size * r.columns
    let parts := if cells.isEmpty then [[]] else chunks perPage (cells.length + 1) cells
    let pages := parts.map fun part =>
      let rows := if r.columns == 1 then part.map fun c => [some c]
        else if r.goesAcross then r.acrossRows (part.length + 1) part
        else r.downRows part
      rows.map (r.row [])
    if r.keepsFeeds && i + 1 < count then
      pages.dropLast ++ [(pages.getLast?.getD []) ++ ["\x0c"]]
    else pages

/-- The pages of several texts side by side. -/
def parallelPages (r : PageRules) (texts : List String) : List (List String) :=
  let size := max 1 r.bodyLength
  let start := (r.numbers.map fun n => n.start).getD 1
  let columns := texts.map bareLines
  let height := columns.foldl (fun n c => max n c.length) 0
  let rows := (List.range height).map fun (i : Nat) =>
    let number : Option Int := if r.numbers.isSome then some (start + (i : Int)) else none
    let mark := match number with
      | some n => r.numberText n
      | none => []
    r.row mark (columns.zipIdx.map fun (column, k) => column[i]?.map fun line =>
      r.cell line (if k == 0 then number else none))
  chunks size (height + 1) rows

/-- The head of a page with a number. -/
def head (r : PageRules) (date title : String) (page : Nat) : String :=
  let number := "Page " ++ toString page
  let room := r.width - date.length - title.length - number.length
  let left := room / 2
  let right := room - left
  let blank (n : Nat) : String := String.ofList (List.replicate n ' ')
  blank r.margin ++ "\n\n" ++ blank r.margin ++ date ++ blank (max 1 left) ++ title ++
    blank (max 1 right) ++ number ++
    "\n\n\n"

/-- A page with a number. -/
def page (r : PageRules) (date title : String) (number : Nat) (rows : List String) : String :=
  let between := if r.isDouble then "\n" else ""
  let body := String.join (rows.map fun row => row ++ between)
  if !r.hasHead then body
  else
    let used := rows.length * if r.isDouble then 2 else 1
    let foot := if r.feeds then "\x0c"
      else String.ofList (List.replicate (r.length - 10 - used + 5) '\n')
    r.head date title number ++ body ++ foot

/-- The pages that are shown. -/
def shown (r : PageRules) (date title : String) (pages : List (List String)) : String :=
  let pages := pages.zipIdx 1
  let pages := pages.filter fun p => r.firstPage ≤ p.2 && (match r.lastPage with
    | some last => p.2 ≤ last
    | none => true)
  String.join (pages.map fun p => r.page date title p.2 p.1)

end PageRules

/-- A number of lines or characters that an option gives, at least one, or a message. -/
def pageNumber (what : String) (least : Nat) (text : String) : Except String Nat :=
  match Octets.number? text with
  | none => .error (what ++ ": " ++ Quote.inWords text)
  | some n =>
    if least ≤ n then .ok n
    else .error (what ++ ": " ++ Quote.inWords text ++ ": Numerical result out of range")

/-- What has been read of the options. -/
structure PageDraft where
  /-- The rules. -/
  rules : PageRules := {}
  /-- The separator of `-s`, if it was given. -/
  short : Option String := none
  /-- Whether a width was given by `-w`. -/
  hasWidth : Bool := false
  /-- The number of columns, if it was given. -/
  columns : Option Nat := none

/-- An option is taken into account. -/
def PageDraft.take (d : PageDraft) (option : Char × String) : Except String PageDraft := do
  let value := option.2
  let r := d.rules
  match option.1 with
  | '\x01' =>
    return { d with columns := some (← pageNumber "invalid number of columns" 1 value) }
  | '\x02' =>
    let parts := value.splitOn ":"
    let bad := "'--pages=FIRST_PAGE[:LAST_PAGE]' missing argument"
    match parts.map Octets.number? with
    | [some a] => return { d with rules := { r with firstPage := a } }
    | [some a, some b] => return { d with rules := { r with firstPage := a, lastPage := some b } }
    | _ => throw (if value.isEmpty then bad else "invalid page range " ++ Quote.inWords value)
  | 'a' => return { d with rules := { r with goesAcross := true } }
  | 'd' => return { d with rules := { r with isDouble := true } }
  | 'D' => return { d with rules := { r with dateFormat := value } }
  | 'e' => return { d with rules := { r with expands := true } }
  | 'f' | 'F' => return { d with rules := { r with feeds := true } }
  | 'h' => return { d with rules := { r with title := some value } }
  | 'i' => return { d with rules := { r with compresses := true } }
  | 'J' => return { d with rules := { r with isJoined := true } }
  | 'l' =>
    let n ← pageNumber "'-l PAGE_LENGTH' invalid number of lines" 1 value
    return { d with rules := { r with length := n } }
  | 'm' => return { d with rules := { r with isParallel := true } }
  | 'n' =>
    let (separator, digits) := match value.toList with
      | c :: cs => if c.isDigit then ('\t', c :: cs) else (c, cs)
      | [] => ('\t', [])
    let what := "'-n' extra characters or invalid number in the argument"
    let n ← pageNumber what 1 (if digits.isEmpty then "5" else String.ofList digits)
    let start := (r.numbers.map fun m => m.start).getD 1
    return { d with rules := { r with numbers := some ⟨separator, n, start⟩ } }
  | 'o' =>
    let n ← pageNumber "'-o MARGIN' invalid line offset" 0 value
    return { d with rules := { r with margin := n } }
  | 'r' => return { d with rules := { r with isTolerant := true } }
  | 's' => return { d with short := some value }
  | 'S' => return { d with short := none, rules := { r with separator := some value } }
  | 't' => return { d with rules := { r with hasHead := false, keepsFeeds := true } }
  | 'T' => return { d with rules := { r with hasHead := false, keepsFeeds := false } }
  | 'w' =>
    let n ← pageNumber "'-w PAGE_WIDTH' invalid number of characters" 1 value
    return { d with hasWidth := true, rules := { r with width := n } }
  | 'W' =>
    let n ← pageNumber "'-W PAGE_WIDTH' invalid number of characters" 1 value
    return { d with rules := { r with width := n, cuts := true } }
  | _ => return d

/-- The rules that options give, for a number of files. -/
def PageDraft.rulesFor (d : PageDraft) (files : Nat) (start : Option Int) : PageRules :=
  let r := d.rules
  let isMany := r.isParallel || d.columns.isSome
  let r : PageRules := match d.short with
    | none => if d.hasWidth then
        if isMany then { r with cuts := true } else { r with isJoined := true }
      else r
    | some s =>
      if d.hasWidth then
        if isMany then { r with cuts := true, separator := some s } else { r with isJoined := true }
      else if r.separator.isSome || !isMany then r
      else if r.cuts then { r with separator := some s }
      else { r with isJoined := true, separator := if s.isEmpty then none else some s }
  let r : PageRules := { r with
    columns := if r.isParallel then max 1 files else d.columns.getD 1
    hasHead := r.hasHead && 10 < r.length
    numbers := r.numbers.map fun (n : LineNumbers) => { n with start := start.getD n.start } }
  r.settled

/-- Sets texts in pages. -/
def pr : Tool Nat := do
  let words := (← args).map fun w =>
    let rest := Octets.dropFirst 1 w
    let digits := String.ofList (rest.toList.takeWhile Char.isDigit)
    if w.toList.head? == some '+' && !digits.isEmpty then ["--pages=" ++ rest]
    else if w.toList.head? == some '-' && !digits.isEmpty then
      let more := Octets.dropFirst digits.length rest
      ("--columns=" ++ digits) :: (if more.isEmpty then [] else ["-" ++ more])
    else
      let letters := rest.toList.takeWhile fun c => "adfFmrtTJ".toList.contains c
      let after := rest.toList.drop letters.length
      let number := after.takeWhile Char.isDigit
      if w.toList.head? == some '-' && !letters.isEmpty && !number.isEmpty then
        ["-" ++ String.ofList letters, "--columns=" ++ String.ofList number] ++
          (if after.length == number.length then []
            else ["-" ++ String.ofList (after.drop number.length)])
      else [w]
  match Flag.parse [{ letter := '\x01', word := "columns", takes := .required },
      { letter := '\x02', word := "pages", takes := .required },
      { letter := 'a', word := "across" }, { letter := 'c', word := "show-control-chars" },
      { letter := 'd', word := "double-space" },
      { letter := 'D', word := "date-format", takes := .required },
      { letter := 'e', word := "expand-tabs", takes := .optional },
      { letter := 'f', word := "form-feed" }, { letter := 'F' },
      { letter := 'h', word := "header", takes := .required },
      { letter := 'i', word := "output-tabs", takes := .optional },
      { letter := 'J', word := "join-lines" },
      { letter := 'l', word := "length", takes := .required }, { letter := 'm', word := "merge" },
      { letter := 'n', word := "number-lines", takes := .optional },
      { letter := 'N', word := "first-line-number", takes := .required },
      { letter := 'o', word := "indent", takes := .required },
      { letter := 'r', word := "no-file-warnings" },
      { letter := 's', word := "separator", takes := .optional },
      { letter := 'S', word := "sep-string", takes := .optional },
      { letter := 't', word := "omit-header" }, { letter := 'T', word := "omit-pagination" },
      { letter := 'v', word := "show-nonprinting" },
      { letter := 'w', word := "width", takes := .required },
      { letter := 'W', word := "page-width", takes := .required }] words.flatten with
  | .error message => misuse 1 message
  | .ok p =>
    match p.options.foldlM PageDraft.take {} with
    | .error message => fail 1 message
    | .ok d =>
      if d.rules.isParallel && d.columns.isSome then
        return ← fail 1 "cannot specify number of columns when printing in parallel"
      if d.rules.isParallel && d.rules.goesAcross then
        return ← fail 1 "cannot specify both printing across and printing in parallel"
      let paths := orInput p.operands
      let first : Option Int := (p.get? 'N').bind fun n => (Octets.number? n).map fun n => (n : Int)
      let now := (← get).time
      let mut texts : List (String × String × Time) := []
      let mut code := 0
      for path in paths do
        match ← contents path with
        | .ok text =>
          let time := match (← get).find path with
            | .ok node => if path == "-" then now else node.about.modified
            | .error _ => now
          texts := texts ++ [(path, text, time)]
        | .error fault =>
          if !d.rules.isTolerant then complain (Quote.ifNeeded path ++ ": " ++ fault.words)
          code := 1
      let r := d.rulesFor texts.length first
      if r.columnWidth?.isNone then return ← fail 1 "page width too narrow"
      let display (title : String) (time : Time) (pages : List (List String)) : Tool Unit := do
        let date := (Moment.ofTime time).text r.dateFormat
        if pages.length < r.firstPage && 1 < r.firstPage then
          complain ("starting page number " ++ toString r.firstPage ++ " exceeds page count " ++
            toString pages.length)
        else out (r.shown date (r.title.getD title) pages)
      if r.isParallel then
        if !texts.isEmpty then display "" now (r.parallelPages (texts.map fun t => t.2.1))
      else
        for (path, text, time) in texts do
          display (if path == "-" then "" else path) time (r.pagesOf text)
      return code

end CompileOrder.Shell.Utility
