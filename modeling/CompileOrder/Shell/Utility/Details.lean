import CompileOrder.Shell.Calendar
import CompileOrder.Shell.Escape
import CompileOrder.Shell.Mode
import CompileOrder.Shell.Utility.Accounts
import CompileOrder.Shell.Utility.Entry

/-!
# What is known of files

The size, the kind, the permission bits and the times of a file as texts, and their text by
a format in which letters after percent signs stand for them.
-/

namespace CompileOrder.Shell.Utility

open Tool

/-- The number of octets of a node. -/
def sizeOf : Node → Nat
  | .file bytes _ => bytes.length
  | .directory _ _ => 4096
  | .link target _ => target.utf8ByteSize
  | .device _ _ | .pipe _ _ => 0

/-- The number of blocks of 512 octets that a node takes. -/
def blocksOf : Node → Nat
  | .file bytes _ => (bytes.length + 4095) / 4096 * 8
  | .directory _ _ => 8
  | _ => 0

/-- The letter for the kind of a node. -/
def kindLetter : Node → Char
  | .file _ _ => '-'
  | .directory _ _ => 'd'
  | .link _ _ => 'l'
  | .device _ _ => 'c'
  | .pipe _ _ => 'p'

/-- The bits for the kind of a node. -/
def kindBits : Node → Nat
  | .file _ _ => 0o100000
  | .directory _ _ => 0o040000
  | .link _ _ => 0o120000
  | .device _ _ => 0o020000
  | .pipe _ _ => 0o010000

/-- The kind and the bits of a node as letters. -/
def modeText (n : Node) : String := String.singleton (kindLetter n) ++ Mode.letters n.about.mode

/-- The kind of a node in words. -/
def kindText : Node → String
  | .file bytes _ => if bytes.isEmpty then "regular empty file" else "regular file"
  | .directory _ _ => "directory"
  | .link _ _ => "symbolic link"
  | .device _ _ => "character special file"
  | .pipe _ _ => "fifo"

/-- The two numbers of a device. -/
def deviceNumbers : Device → Nat × Nat
  | .null => (1, 3)
  | .zero => (1, 5)
  | .full => (1, 7)
  | .random => (1, 9)
  | .terminal => (5, 0)

/-- A name between quotes and, if it is that of a link, what it stands for. -/
def quotedTarget (path : String) (n : Node) : String :=
  Quote.always path ++ match n with
    | .link target _ => " -> " ++ Quote.always (Octets.ofText target)
    | _ => ""

/-- A time with all its parts. -/
def fullTime (time : Time) : String := (Moment.ofTime time).text "%Y-%m-%d %H:%M:%S.%N %z"

/-- The marks, the width and the precision between a percent sign and a letter. -/
structure Layout where
  /-- Whether the text is flush left. -/
  isLeft : Bool := false
  /-- Whether it is filled up with zeros. -/
  hasZeros : Bool := false
  /-- Whether numbers are written with a sign for their base. -/
  isMarked : Bool := false
  /-- The width. -/
  width : Nat := 0
  /-- The precision. -/
  precision : Option Nat := none
  deriving DecidableEq, Repr

namespace Layout

/-- The layout that characters begin with, and the characters after it. -/
def read (cs : List Char) : Layout × List Char :=
  let marks := cs.takeWhile fun c => "'-+ #0I".toList.contains c
  let cs := cs.drop marks.length
  let width := cs.takeWhile Char.isDigit
  let cs := cs.drop width.length
  let (precision, cs) := match cs with
    | '.' :: rest =>
      let ds := rest.takeWhile Char.isDigit
      (some (Octets.number ds), rest.drop ds.length)
    | cs => (none, cs)
  ({ isLeft := marks.contains '-', hasZeros := marks.contains '0', isMarked := marks.contains '#'
     width := Octets.number width, precision := precision }, cs)

/-- A text in its field. -/
def pad (l : Layout) (hasZeros : Bool) (text : String) : String :=
  if l.isLeft then Octets.padRight l.width text
  else if hasZeros then
    String.ofList (List.replicate (l.width - text.length) '0') ++ text
  else Octets.padLeft l.width text

/-- A text, cut to the precision. -/
def text (l : Layout) (t : String) : String :=
  l.pad false (match l.precision with
    | some n => Octets.takeFirst n t
    | none => t)

/-- A number, with as many digits as the precision says. -/
def number (l : Layout) (digits : String) : String :=
  match l.precision with
  | some n => l.pad false (String.ofList (List.replicate (n - digits.length) '0') ++ digits)
  | none => l.pad l.hasZeros digits

/-- A time in seconds, with as many decimals as the precision says. -/
def time (l : Layout) (t : Time) : String :=
  let seconds := t.fdiv Time.second
  let rest := toString (t - seconds * Time.second).toNat
  let decimals := String.ofList (List.replicate (9 - rest.length) '0') ++ rest
  match l.precision with
  | none | some 0 => l.pad l.hasZeros (toString seconds)
  | some n =>
    l.pad l.hasZeros (toString seconds ++ "." ++ Octets.takeFirst n decimals ++
      String.ofList (List.replicate (n - 9) '0'))

end Layout

/-- Digits of a number in base 16. -/
def hexText (n : Nat) : String := String.ofList (Nat.toDigits 16 n)

/-- What a letter of a format stands for. -/
def detail (t : FileTree) (path : String) (n : Node) (l : Layout) (c : Char) : String :=
  let a := n.about
  let device : Nat × Nat := match n with
    | .device kind _ => deviceNumbers kind
    | _ => (0, 0)
  match c with
  | 'n' => l.text path
  | 'N' => l.text (quotedTarget path n)
  | 's' => l.number (toString (sizeOf n))
  | 'F' => l.text (kindText n)
  | 'a' => l.number ((if l.isMarked then "0" else "") ++ Mode.octalText 1 a.mode)
  | 'A' => l.text (modeText n)
  | 'f' => l.number (hexText (kindBits n + a.mode))
  | 'U' => l.text ((Accounts.name? Accounts.users a.owner).getD "UNKNOWN")
  | 'G' => l.text ((Accounts.name? Accounts.groups a.group).getD "UNKNOWN")
  | 'u' => l.number (toString a.owner)
  | 'g' => l.number (toString a.group)
  | 'h' => l.number (toString (linkCount t n))
  | 'b' => l.number (toString (blocksOf n))
  | 'B' => l.number "512"
  | 'o' => l.number "4096"
  | 't' => l.number (hexText device.1)
  | 'T' => l.number (hexText device.2)
  | 'r' => l.number (toString (device.1 * 256 + device.2))
  | 'd' => l.number "64"
  | 'D' => l.number "40"
  | 'i' => l.number (toString (1000 + a.identity))
  | 'm' => l.text "/"
  | 'x' => l.text (fullTime a.accessed)
  | 'y' | 'z' | 'w' => l.text (fullTime a.modified)
  | 'X' => l.time a.accessed
  | 'Y' | 'Z' | 'W' => l.time a.modified
  | 'C' => l.text "?"
  | _ => "?"

/-- The text of a node by a format, in at most `n` steps; a format may hold characters
after backslashes. -/
def detailText (t : FileTree) (path : String) (node : Node) (hasEscapes : Bool) :
    Nat → List Char → String
  | 0, _ => ""
  | _ + 1, [] => ""
  | n + 1, '%' :: cs =>
    match Layout.read cs with
    | (_, []) => "%"
    | (_, '%' :: rest) => "%" ++ detailText t path node hasEscapes n rest
    | (l, c :: rest) => detail t path node l c ++ detailText t path node hasEscapes n rest
  | n + 1, '\\' :: c :: cs =>
    if hasEscapes then
      let (text, rest) := Escape.character (c :: cs)
      String.singleton text ++ detailText t path node hasEscapes n rest
    else "\\" ++ detailText t path node hasEscapes n (c :: cs)
  | n + 1, c :: cs => String.singleton c ++ detailText t path node hasEscapes n cs

/-- All that is known of a node, in lines. -/
def detailLines : String :=
  "  File: %N\n  Size: %-10s\tBlocks: %-10b IO Block: %-6o %F\nDevice: %d\tInode: %-11i Links: %h\n"
    ++
    "Access: (%04a/%10.10A)  Uid: (%5u/%8U)   Gid: (%5g/%8G)\nAccess: %x\nModify: %y\n" ++
    "Change: %z\n Birth: %w"

/-- Shows what is known of files. -/
def stat : Tool Nat :=
  withOptions [{ letter := 'c', word := "format", takes := .required },
      { letter := 'f', word := "file-system" }, { letter := 'L', word := "dereference" },
      { letter := 't', word := "terse" },
      { letter := '\x02', word := "cached", takes := .required },
      { letter := '\x01', word := "printf", takes := .required }] 1 fun p => do
    if p.operands.isEmpty then misuse 1 "missing operand"
    else each p.operands fun path => do
      let m ← get
      match if p.has 'L' then m.find path else m.findSelf path with
      | .error fault => fail 1 ("cannot statx " ++ Quote.always path ++ ": " ++ fault.words)
      | .ok node =>
        let write (hasEscapes : Bool) (format : String) : String :=
          detailText m.tree path node hasEscapes (format.length + 1) format.toList
        match p.options.reverse.find? fun o => o.1 == 'c' || o.1 == '\x01' with
        | some ('c', format) => outLines [write false format]
        | some (_, format) => out (write true format)
        | none =>
          if p.has 't' then outLines [write false "%n %s %b %f %u %g %D %i %h %t %T %X %Y %Z %W %o"]
          else outLines [write false detailLines]
        return 0

/-- A size in at most four characters, with a letter for the unit. -/
def humanSize (base : Nat) (n : Nat) : String :=
  go base n 0 1 8
where
  /-- The size with a unit of `unit`, in at most `steps` steps. -/
  go (base n power unit : Nat) : Nat → String
    | 0 => toString n
    | steps + 1 =>
      let letters := if base == 1000 then ["", "k", "M", "G", "T", "P", "E", "Z", "Y"]
        else ["", "K", "M", "G", "T", "P", "E", "Z", "Y"]
      let whole := (n + unit - 1) / unit
      if power == 0 then if n < base then toString n else go base n 1 base steps
      else
        let tenths := (n * 10 + unit - 1) / unit
        if tenths < 100 then
          toString (tenths / 10) ++ "." ++ toString (tenths % 10) ++ letters.getD power ""
        else if whole < base then toString whole ++ letters.getD power ""
        else go base n (power + 1) (unit * base) steps

end CompileOrder.Shell.Utility
