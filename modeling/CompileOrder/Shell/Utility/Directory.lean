import CompileOrder.Shell.Pattern
import CompileOrder.Shell.Utility.Details
import CompileOrder.Shell.Utility.Sorting

/-!
# Listing directories

The entries of directories in an order, one to a line, in columns, or with what is known of
them; and the room that they take.
-/

namespace CompileOrder.Shell.Utility

open Tool

/-- What entries are ordered by. -/
inductive Order where
  | name | time | size | extension | version | width | none
  deriving DecidableEq, Repr

/-- How entries are laid out. -/
inductive Format where
  | single | long | down | across | commas
  deriving DecidableEq, Repr

/-- Which entries get a mark after their names. -/
inductive Marks where
  | nothing | directories | kinds | all
  deriving DecidableEq, Repr

/-- How names are written. -/
inductive Naming where
  /-- As they are. -/
  | literal
  /-- With question marks for what does not show. -/
  | shown
  /-- With backslashes. -/
  | escaped
  /-- Between double quotes. -/
  | quoted
  /-- Between quotes if a shell needs them. -/
  | shell
  /-- Between quotes. -/
  | shellAlways
  deriving DecidableEq, Repr

/-- How entries are listed. -/
structure Listing where
  /-- Also entries that begin with a point. -/
  hasHidden : Bool
  /-- Also the directory itself and the one above. -/
  hasSelf : Bool
  /-- Not the entries that match these patterns. -/
  ignored : List String
  /-- Not the entries that match these patterns unless hidden ones are listed. -/
  hidden : List String
  /-- Directories as entries. -/
  isFlat : Bool
  /-- Also what is below the entries. -/
  isRecursive : Bool
  /-- Directories before other entries. -/
  isGrouped : Bool
  /-- Links as what they stand for. -/
  followsAll : Bool
  /-- Links among the operands as what they stand for. -/
  followsNamed : Bool
  /-- Links to directories among the operands as what they stand for. -/
  followsToDirectories : Bool
  /-- The marks after names. -/
  marks : Marks
  /-- How names are written. -/
  naming : Naming
  /-- The layout. -/
  format : Format
  /-- The number of columns of a line. -/
  lineWidth : Nat
  /-- What is between entries. -/
  ending : String
  /-- The order. -/
  order : Order
  /-- The other way round. -/
  isReversed : Bool
  /-- By the time of use and not of change. -/
  byAccess : Bool
  /-- With the owner. -/
  hasOwner : Bool
  /-- With the group. -/
  hasGroup : Bool
  /-- With numbers for owner and group. -/
  isNumeric : Bool
  /-- With the number of blocks. -/
  hasBlocks : Bool
  /-- With the number of the node. -/
  hasIndex : Bool
  /-- The text of a size. -/
  size : Nat → String
  /-- The text of a number of blocks. -/
  blocks : Nat → String
  /-- The text of a time. -/
  time : Time → String

/-- An entry with what it leads to. -/
structure Listed where
  /-- Its name. -/
  name : String
  /-- The node that it is. -/
  node : Node
  /-- The node that it stands for if it is a link. -/
  target : Option Node

namespace Listing

/-- The time that matters. -/
def timeOf (l : Listing) (n : Node) : Time := if l.byAccess then n.about.accessed
  else n.about.modified

/-- The ending of a name, from its last point. -/
def extension (name : String) : String :=
  match name.splitOn "." with
  | [] | [_] => ""
  | parts => "." ++ parts.getLastD ""

/-- The order of two entries. -/
def compareEntries (l : Listing) (a b : Listed) : Ordering :=
  let byName := compare a.name b.name
  let main := match l.order with
    | .name | .none => byName
    | .time => (compare (l.timeOf b.node) (l.timeOf a.node)).then byName
    | .size => (compare (sizeOf b.node) (sizeOf a.node)).then byName
    | .extension => (compare (extension a.name) (extension b.name)).then byName
    | .version =>
      (compareVersions (a.name.length + b.name.length + 1) a.name.toList b.name.toList).then byName
    | .width => (compare a.name.length b.name.length).then byName
  if l.isReversed then main.swap else main

/-- The entries in the order they are listed in. -/
def sort (l : Listing) (entries : List Listed) : List Listed :=
  let sorted := if l.order == .none then entries
    else entries.mergeSort fun a b => l.compareEntries a b != .gt
  let isDirectory (e : Listed) : Bool := e.node.isDirectory || (e.target.any Node.isDirectory)
  if l.isGrouped then sorted.filter isDirectory ++ sorted.filter fun e => !isDirectory e
  else sorted

/-- The mark after the name of a node. -/
def mark (l : Listing) (n : Node) : String :=
  match l.marks, n with
  | .nothing, _ => ""
  | _, .directory _ _ => "/"
  | .directories, _ => ""
  | _, .link _ _ => "@"
  | _, .pipe _ _ => "|"
  | .all, .file _ a => if a.mode &&& 0o111 != 0 then "*" else ""
  | _, _ => ""

/-- A name as it is written. -/
def nameText (l : Listing) (name : String) : String :=
  match l.naming with
  | .literal => name
  | .shown => Characters.toOctets ((Characters.ofOctets name).map fun c =>
    if Characters.isPrint c then c else '?')
  | .escaped => String.join ((Characters.ofOctets name).map fun c =>
    if c == ' ' then "\\ " else if c == '\\' then "\\\\"
    else if Characters.isPrint c then Characters.toOctets [c] else Quote.escapeAll c)
  | .quoted => "\"" ++ String.join ((Characters.ofOctets name).map fun c =>
    if c == '"' then "\\\"" else if c == '\\' then "\\\\"
    else if Characters.isPrint c then Characters.toOctets [c] else Quote.escapeAll c) ++ "\""
  | .shell => Quote.forShell name
  | .shellAlways => Quote.always name

/-- What stands before the name of an entry in a short list. -/
def lead (l : Listing) (all : List Listed) (e : Listed) : String :=
  let width := (all.map fun e => (l.blocks (blocksOf e.node)).length).foldl Nat.max 0
  let width := if l.format == .commas then 0 else width
  (if l.hasIndex then toString (1000 + e.node.about.identity) ++ " " else "") ++
    if l.hasBlocks then Octets.padLeft width (l.blocks (blocksOf e.node)) ++ " " else ""

/-- An entry in a short list. -/
def shortText (l : Listing) (all : List Listed) (e : Listed) : String :=
  l.lead all e ++ l.nameText e.name ++ l.mark e.node

/-- The size of an entry, or the numbers of a device. -/
def sizeText (l : Listing) (n : Node) : String :=
  match n with
  | .device kind _ =>
    let (a, b) := deviceNumbers kind
    toString a ++ ", " ++ toString b
  | n => l.size (sizeOf n)

/-- The lines of entries with what is known of them. -/
def longText (l : Listing) (t : FileTree) (entries : List Listed) : String :=
  let owner (e : Listed) : String := if l.isNumeric then toString e.node.about.owner
    else Accounts.nameOrDigits Accounts.users e.node.about.owner
  let group (e : Listed) : String := if l.isNumeric then toString e.node.about.group
    else Accounts.nameOrDigits Accounts.groups e.node.about.group
  let links (e : Listed) : String := toString (linkCount t e.node)
  let width (f : Listed → String) : Nat := (entries.map fun e => (f e).length).foldl Nat.max 0
  let (linkWidth, ownerWidth, groupWidth) := (width links, width owner, width group)
  let sizeWidth := width fun e => l.sizeText e.node
  let pad (f : Listed → String) (w : Nat) (e : Listed) : String :=
    if l.isNumeric then Octets.padLeft w (f e) else Octets.padRight w (f e)
  let line (e : Listed) : String :=
    l.lead entries e ++ modeText e.node ++ " " ++ Octets.padLeft linkWidth (links e) ++ " " ++
      (if l.hasOwner then pad owner ownerWidth e ++ " " else "") ++
      (if l.hasGroup then pad group groupWidth e ++ " " else "") ++
      Octets.padLeft sizeWidth (l.sizeText e.node) ++ " " ++ l.time (l.timeOf e.node) ++ " " ++
      l.nameText e.name ++
      (match e.node with
        | .link target _ => " -> " ++ l.nameText (Octets.ofText target) ++
          (match e.target with
            | some n => l.mark n
            | none => "")
        | n => l.mark n) ++ l.ending
  String.join (entries.map line)

/-- The number of columns that a text takes. -/
def columnsOf (text : String) : Nat :=
  ((Characters.ofOctets text).map Characters.width).foldl (· + ·) 0

/-- Texts one after the other with commas between them, from a column on. -/
def commaText (l : Listing) : Nat → Bool → List String → String
  | _, _, [] => ""
  | column, isFirst, text :: rest =>
    let width := columnsOf text
    if isFirst then text ++ commaText l width false rest
    else if l.lineWidth == 0 || column + width + 2 < l.lineWidth then
      ", " ++ text ++ commaText l (column + width + 2) false rest
    else "," ++ l.ending ++ text ++ commaText l width false rest

/-- Blanks and tabulators that lead from a column to another one, in at most `n` steps. -/
def indent : Nat → Nat → Nat → String
  | 0, _, _ => ""
  | n + 1, start, stop =>
    if stop ≤ start then ""
    else if (start + 1) / 8 < stop / 8 then "\t" ++ indent n (start + 8 - start % 8) stop
    else " " ++ indent n (start + 1) stop

/-- The widths of the columns if there are `count` of them. -/
def columnWidths (isAcross : Bool) (count : Nat) (widths : List Nat) : List Nat :=
  let rows := (widths.length + count - 1) / count
  (List.range count).map fun i =>
    let own := (List.range widths.length).filter fun k =>
      (if isAcross then k % count else k / rows) == i
    let extra := if i + 1 == count then 0 else 2
    (own.map fun k => widths.getD k 0 + extra).foldl Nat.max 3

/-- Texts in columns, filled down or across. -/
def columnText (l : Listing) (texts : List String) : String :=
  let isAcross := l.format == .across
  let widths := texts.map columnsOf
  let limit := if l.lineWidth == 0 then widths.length
    else min widths.length (max 1 (l.lineWidth / 3))
  let fits (count : Nat) : Bool :=
    l.lineWidth == 0 || (columnWidths isAcross count widths).foldl (· + ·) 0 < l.lineWidth
  let count := (((List.range limit).map (· + 1)).filter fun c => c == 1 || fits c).getLastD 1
  let columns := columnWidths isAcross count widths
  let rows := (texts.length + count - 1) / count
  let cell (row column : Nat) : Option Nat :=
    let k := if isAcross then row * count + column else column * rows + row
    if k < texts.length then some k else none
  let line (row : Nat) : String :=
    let cells := (List.range count).filterMap fun c => (cell row c).map fun k => (c, k)
    let start (c : Nat) : Nat := (columns.take c).foldl (· + ·) 0
    String.join (cells.map fun (c, k) =>
      texts.getD k "" ++
        if (cell row (c + 1)).isSome && c + 1 < count then
          indent 1000 (start c + widths.getD k 0) (start (c + 1))
        else "")
  String.join ((List.range rows).map fun row => line row ++ l.ending)

/-- The text of some entries. -/
def text (l : Listing) (t : FileTree) (entries : List Listed) : String :=
  if entries.isEmpty then ""
  else match l.format with
    | .long => l.longText t entries
    | .single => String.join (entries.map fun e => l.shortText entries e ++ l.ending)
    | .commas => l.commaText 0 true (entries.map (l.shortText entries)) ++ l.ending
    | _ => l.columnText (entries.map (l.shortText entries))

/-- Whether an entry with a name is listed. -/
def shows (l : Listing) (name : String) : Bool :=
  let isHidden := name.toList.head? == some '.'
  let agrees (pattern : String) : Bool := Pattern.matchText (Glyph.ofText pattern false) name
  (l.hasHidden || !isHidden) && !l.ignored.any agrees &&
    (l.hasHidden || !l.hidden.any agrees)

/-- The entry of a name, or why it cannot be listed. -/
def look (l : Listing) (m : Machine) (isNamed : Bool) (path name : String) :
    Except FileFault Listed := do
  let own := m.findSelf path
  let target := (m.find path).toOption
  let toDirectory := match target with
    | some n => n.isDirectory
    | none => false
  let follows := l.followsAll || (isNamed && (l.followsNamed ||
    (l.followsToDirectories && toDirectory)))
  if follows then
    match m.find path with
    | .ok n => return ⟨name, n, none⟩
    | .error fault => if isNamed then throw fault else return ⟨name, ← own, none⟩
  else
    match ← own with
    | .link t a => return ⟨name, .link t a, target⟩
    | n => return ⟨name, n, none⟩

/-- The entries of a directory that are listed. -/
def entries (l : Listing) (m : Machine) (path : String) (es : List (String × Node)) :
    List Listed :=
  let names := (es.map fun e => Octets.ofText e.1).filter l.shows
  let own := if l.hasSelf then [".", ".."] else []
  l.sort ((own ++ names).filterMap fun name => (l.look m false (entryPath path name) name).toOption)

/-- Directories are listed, at most `depth` of them; `isFirst` tells whether nothing was
listed before. -/
def directories (l : Listing) (hasNames : Bool) : Nat → Bool → List String → Tool Unit
  | 0, _, _ => return
  | _, _, [] => return
  | depth + 1, isFirst, path :: rest => do
    let m ← get
    match m.find path with
    | .ok (.directory es _) =>
      if hasNames then out ((if isFirst then "" else "\n") ++ l.nameText path ++ ":\n")
      let listed := l.entries m path es
      if l.format == .long || l.hasBlocks then
        let all := (listed.map fun e => blocksOf e.node).foldl (· + ·) 0
        out ("total " ++ l.blocks all ++ l.ending)
      out (l.text m.tree listed)
      let inner := if l.isRecursive then
          (listed.filter fun e => e.node.isDirectory && e.name != "." && e.name != "..").map
            fun e => entryPath path e.name
        else []
      l.directories hasNames depth false (inner ++ rest)
    | _ => l.directories hasNames depth isFirst rest

end Listing

/-- The text of a time by a style: the first format for times of the last half year, the
second one for others. -/
def styledTime (now : Time) (recent old : String) (time : Time) : String :=
  let isRecent := time ≤ now && now - time < 15778476 * Time.second
  (Moment.ofTime time).text (if isRecent then recent else old)

/-- The formats for times that a style names. -/
def timeFormats? (style : String) : Option (String × String) :=
  match style.toList with
  | '+' :: cs =>
    match (String.ofList cs).splitOn "\n" with
    | [one] => some (one, one)
    | old :: recent :: _ => some (recent, old)
    | [] => none
  | _ =>
    match style with
    | "full-iso" => some ("%Y-%m-%d %H:%M:%S.%N %z", "%Y-%m-%d %H:%M:%S.%N %z")
    | "long-iso" => some ("%Y-%m-%d %H:%M", "%Y-%m-%d %H:%M")
    | "iso" => some ("%m-%d %H:%M", "%Y-%m-%d ")
    | "locale" => some ("%b %e %H:%M", "%b %e  %Y")
    | _ => none

/-- A word of an option is none of those that it takes. -/
def refuseWord (code : Nat) (word option : String) (valid : List (List String)) : Tool Nat := do
  complain ("invalid argument " ++ Quote.inWords word ++ " for " ++ Quote.inWords option)
  err ("Valid arguments are:\n" ++ String.join (valid.map fun ws =>
    "  - " ++ ", ".intercalate (ws.map Quote.inWords) ++ "\n"))
  err ("Try '" ++ (← name) ++ " --help' for more information.\n")
  return code

/-- The options of listing. -/
def listingFlags : List Flag :=
  [{ letter := 'a', word := "all" }, { letter := 'A', word := "almost-all" },
    { letter := 'b', word := "escape" }, { letter := 'B', word := "ignore-backups" },
    { letter := 'd', word := "directory" },
    { letter := 'F' }, { letter := '\x02', word := "classify", takes := .optional },
    { letter := 'h', word := "human-readable" }, { letter := '\x03', word := "si" },
    { letter := 'H', word := "dereference-command-line" },
    { letter := '\x04', word := "dereference-command-line-symlink-to-dir" },
    { letter := 'i', word := "inode" }, { letter := 'I', word := "ignore", takes := .required },
    { letter := '\x05', word := "hide", takes := .required },
    { letter := 'k', word := "kibibytes" }, { letter := 'L', word := "dereference" },
    { letter := 'n', word := "numeric-uid-gid" }, { letter := 'N', word := "literal" },
    { letter := 'G', word := "no-group" }, { letter := 'p' },
    { letter := '\x06', word := "file-type" },
    { letter := '\x07', word := "indicator-style", takes := .required },
    { letter := 'q', word := "hide-control-chars" },
    { letter := '\x08', word := "show-control-chars" },
    { letter := 'Q', word := "quote-name" },
    { letter := '\x0b', word := "quoting-style", takes := .required },
    { letter := 'r', word := "reverse" }, { letter := 'R', word := "recursive" },
    { letter := 's', word := "size" }, { letter := '\x0c', word := "sort", takes := .required },
    { letter := '\x0e', word := "time", takes := .required },
    { letter := '\x0f', word := "time-style", takes := .required },
    { letter := '\x10', word := "full-time" },
    { letter := '\x11', word := "format", takes := .required },
    { letter := '\x12', word := "group-directories-first" },
    { letter := '\x13', word := "zero" }, { letter := '\x14', word := "author" },
    { letter := '\x15', word := "block-size", takes := .required },
    { letter := 'T', word := "tabsize", takes := .required },
    { letter := 'w', word := "width", takes := .required },
    { letter := '\x01', word := "color", takes := .optional },
    { letter := '\x16', word := "hyperlink", takes := .optional },
    { letter := 'Z', word := "context" }] ++ Flag.ofLetters "1CxlStguocfUvXmD"

/-- Lists entries. -/
def ls : Tool Nat :=
  withOptions listingFlags 2 fun p => do
    let m ← get
    let word (letter : Char) (valid : List (List String)) : Option (Option String) :=
      (p.get? letter).map fun w =>
        if valid.flatten.contains w then some w
        else match valid.flatten.filter fun v => w.toList.isPrefixOf v.toList with
          | [v] => some v
          | _ => none
    let sorts := [["none"], ["time"], ["size"], ["extension"], ["version"], ["width"]]
    let formats := [["verbose", "long"], ["commas"], ["horizontal", "across"], ["vertical"],
      ["single-column"]]
    let times := [["atime", "access", "use"], ["ctime", "status"], ["mtime", "modification"],
      ["birth", "creation"]]
    let namings := [["literal"], ["shell"], ["shell-always"], ["shell-escape"],
      ["shell-escape-always"], ["c"], ["c-maybe"], ["escape"], ["locale"], ["clocale"]]
    let indicators := [["none"], ["slash"], ["file-type"], ["classify"]]
    let style := match p.options.reverse.find? fun o => o.1 == '\x0f' || o.1 == '\x10' with
      | some ('\x0f', s) => s
      | some _ => "full-iso"
      | none => "locale"
    for (letter, option, valid) in [('\x0c', "--sort", sorts), ('\x11', "--format", formats),
        ('\x0e', "--time", times), ('\x0b', "--quoting-style", namings),
        ('\x07', "--indicator-style", indicators)] do
      if word letter valid == some none then
        return ← refuseWord 1 ((p.get? letter).getD "") option valid
    let isLong := p.options.any fun o => "lgon\x10".toList.contains o.1 ||
      (o.1 == '\x11' && (word '\x11' formats).getD none == some "verbose")
    if isLong && (timeFormats? style).isNone then
      return ← misuse 2 ("invalid argument " ++ Quote.inWords style ++ " for " ++
        Quote.inWords "time style" ++ "\nValid arguments are:\n  - [posix-]full-iso\n" ++
        "  - [posix-]long-iso\n  - [posix-]iso\n  - [posix-]locale\n" ++
        "  - +FORMAT (e.g., +%H:%M) for a 'date'-style format")
    let timeStyle := (timeFormats? style).getD ("%b %e %H:%M", "%b %e  %Y")
    let order := p.options.foldl (fun (o : Order) f => match f.1 with
      | 't' => .time
      | 'S' => .size
      | 'X' => .extension
      | 'v' => .version
      | 'U' | 'f' => .none
      | '\x0c' => match (word '\x0c' sorts).getD none with
        | some "none" => .none
        | some "time" => .time
        | some "size" => .size
        | some "extension" => .extension
        | some "version" => .version
        | _ => .width
      | _ => o) .name
    let format := p.options.foldl (fun (f : Format) o => match o.1 with
      | 'l' | 'g' | 'o' | 'n' | '\x10' => .long
      | 'C' => .down
      | 'x' => .across
      | 'm' => .commas
      | '1' => if f == .long then f else .single
      | '\x13' => if f == .long then f else .single
      | '\x11' => match (word '\x11' formats).getD none with
        | some "verbose" | some "long" => .long
        | some "commas" => .commas
        | some "horizontal" | some "across" => .across
        | some "vertical" => .down
        | _ => .single
      | _ => f) .single
    let isTimed := p.options.any fun o => "uc\x0e".toList.contains o.1
    let isSorted := p.options.any fun o => "tSXvUf\x0c".toList.contains o.1
    let marks := p.options.foldl (fun (k : Marks) o => match o.1 with
      | 'F' => .all
      | '\x02' => if o.2 == "never" || o.2 == "no" || o.2 == "none" || o.2 == "auto" ||
        o.2 == "tty" || o.2 == "if-tty" then k else .all
      | 'p' => .directories
      | '\x06' => .kinds
      | '\x07' => match (word '\x07' indicators).getD none with
        | some "slash" => .directories
        | some "file-type" => .kinds
        | some "classify" => .all
        | _ => .nothing
      | _ => k) .nothing
    let naming := p.options.foldl (fun (k : Naming) o => match o.1 with
      | 'N' => .literal
      | 'b' => .escaped
      | 'Q' => .quoted
      | 'q' => if k == .literal then .shown else k
      | '\x0b' => match (word '\x0b' namings).getD none with
        | some "shell" | some "shell-escape" => .shell
        | some "shell-always" | some "shell-escape-always" => .shellAlways
        | some "c" | some "clocale" | some "locale" => .quoted
        | some "escape" => .escaped
        | _ => .literal
      | _ => k) .literal
    let isStay := format == .long || p.has 'd' || marks == .all
    let columns := (← entry? "COLUMNS").bind Octets.number?
    let l : Listing := {
      hasHidden := p.has 'a' || p.has 'A' || p.has 'f'
      hasSelf := p.last? "aAf" == some 'a' || p.last? "aAf" == some 'f'
      ignored := (p.options.filter fun o => o.1 == 'I').map (fun o => o.2) ++
        if p.has 'B' then ["*~"] else []
      hidden := (p.options.filter fun o => o.1 == '\x05').map fun o => o.2
      isFlat := p.has 'd'
      isRecursive := p.has 'R' && !p.has 'd'
      isGrouped := p.has '\x12'
      followsAll := p.last? "LH\x04" == some 'L'
      followsNamed := p.last? "LH\x04" == some 'H'
      followsToDirectories := p.last? "LH\x04" == some '\x04' || !isStay
      marks := marks
      naming := naming
      format := format
      lineWidth := ((p.get? 'w').bind Octets.number?).getD (columns.getD 80)
      ending := if p.has '\x13' then "\x00" else "\n"
      order := if !isSorted && isTimed && format != .long then .time else order
      isReversed := p.has 'r'
      byAccess := p.last? "uc" == some 'u' ||
        (times.headD []).contains (((word '\x0e' times).getD none).getD "")
      hasOwner := !p.has 'g'
      hasGroup := !p.has 'o' && !p.has 'G'
      isNumeric := p.has 'n'
      hasBlocks := p.has 's'
      hasIndex := p.has 'i'
      size := match p.last? "h\x03" with
        | some 'h' => humanSize 1024
        | some _ => humanSize 1000
        | none => toString
      blocks := fun n => match p.last? "h\x03" with
        | some 'h' => humanSize 1024 (n * 512)
        | some _ => humanSize 1000 (n * 512)
        | none => toString ((n + 1) / 2)
      time := styledTime m.time timeStyle.1 timeStyle.2 }
    let operands := if p.operands.isEmpty then ["."] else p.operands
    let mut code := 0
    let mut found : List Listed := []
    for path in operands do
      match l.look m true path path with
      | .ok e => found := found ++ [e]
      | .error fault =>
        code := ← fail 2 ("cannot access " ++ Quote.always path ++ ": " ++ fault.words)
    let isDirectory (e : Listed) : Bool := !l.isFlat && e.node.isDirectory
    let files := l.sort (found.filter fun e => !isDirectory e)
    let directories := l.sort (found.filter isDirectory)
    out (l.text m.tree files)
    let hasNames := 1 < operands.length || l.isRecursive
    l.directories hasNames 100000 files.isEmpty (directories.map fun e => e.name)
    return code

/-- The room that a path takes and what is told of it, at most `depth` levels down: the
paths below it that are told, with their levels, and its own size. -/
def roomOf (m : Machine) (size : Node → Nat) (tellsFiles : Bool) : Nat → Nat → Bool → String →
    List (Nat × Nat × String) × Nat
  | 0, _, _, _ => ([], 0)
  | depth + 1, level, isNamed, path =>
    match m.findSelf path with
    | .ok (.directory es a) =>
      let inner := es.map fun e =>
        roomOf m size tellsFiles depth (level + 1) false (entryPath path (Octets.ofText e.1))
      let total := size (.directory es a) + (inner.map fun i => i.2).foldl (· + ·) 0
      ((inner.flatMap fun i => i.1) ++ [(level, total, path)], total)
    | .ok n => (if tellsFiles || isNamed then [(level, size n, path)] else [], size n)
    | .error _ => ([], 0)

/-- Shows how much room files take. -/
def du : Tool Nat :=
  withOptions [{ letter := 'a', word := "all" }, { letter := 'b', word := "bytes" },
      { letter := 'c', word := "total" },
      { letter := 'd', word := "max-depth", takes := .required },
      { letter := 'h', word := "human-readable" }, { letter := 'k' }, { letter := 'm' },
      { letter := 's', word := "summarize" }, { letter := '\x01', word := "apparent-size" },
      { letter := '0', word := "null" }, { letter := 'L', word := "dereference" },
      { letter := 'D' }, { letter := 'S', word := "separate-dirs" },
      { letter := 'x', word := "one-file-system" },
      { letter := 'B', word := "block-size", takes := .required },
      { letter := '\x02', word := "exclude", takes := .required }] 1 fun p => do
    let isApparent := p.has 'b' || p.has '\x01'
    let size (n : Node) : Nat :=
      if isApparent then (match n with
        | .file _ _ | .link _ _ => sizeOf n
        | _ => 0)
      else blocksOf n * 512
    let unit := match p.last? "bkm" with
      | some 'b' => 1
      | some 'm' => 1048576
      | _ => 1024
    let text (n : Nat) : String := if p.has 'h' then humanSize 1024 n
      else toString ((n + unit - 1) / unit)
    let ending := if p.has '0' then "\x00" else "\n"
    let limit := if p.has 's' then some 0 else (p.get? 'd').bind Octets.number?
    if p.has 's' && p.has 'a' then
      return ← misuse 1 "cannot both summarize and show all entries"
    let mut code := 0
    let mut total := 0
    for path in if p.operands.isEmpty then ["."] else p.operands do
      let m ← get
      match m.findSelf path with
      | .error fault =>
        code := ← fail 1 ("cannot access " ++ Quote.always path ++ ": " ++ fault.words)
      | .ok _ =>
        let (told, all) := roomOf m size (p.has 'a') FileTree.maxPath 0 true path
        total := total + all
        for (level, n, path) in told do
          if limit.all fun l => level ≤ l then out (text n ++ "\t" ++ path ++ ending)
    if p.has 'c' then out (text total ++ "\ttotal" ++ ending)
    return code

end CompileOrder.Shell.Utility
