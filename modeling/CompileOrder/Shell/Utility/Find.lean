import CompileOrder.Shell.Utility.Find.Condition

/-!
# Search for files

The conditions of a search are asked of all files below some places, and what they do is
done.
-/

namespace CompileOrder.Shell.Utility

open Tool

/-- The state of a search. -/
structure Search where
  /-- The greatest depth. -/
  maxDepth : Nat := 100000
  /-- The least depth. -/
  minDepth : Nat := 0
  /-- Whether what is below comes first. -/
  isDepthFirst : Bool := false
  /-- Whether links are followed. -/
  followsAll : Bool := false
  /-- Whether links that the search begins with are followed. -/
  followsNamed : Bool := false
  /-- The paths that commands wait for, by command. -/
  collected : List (List String × List String) := []
  /-- Whether the search is over. -/
  isOver : Bool := false
  /-- Whether what is below the current file is left out. -/
  isPruned : Bool := false
  /-- The code to end with. -/
  code : Nat := 0

/-- What the words of a command become for a path. -/
def substitutePath (path : String) (words : List String) : List String :=
  words.map fun w => path.intercalate (w.splitOn "\x7b\x7d")

/-- A time as a number of seconds with ten decimals. -/
def preciseSeconds (time : Time) : String :=
  ({ precision := some 10 } : Layout).time time

/-- A time by a letter of a format. -/
def letterTime (time : Time) (c : Char) : String :=
  let moment := Moment.ofTime time
  match c with
  | '@' => preciseSeconds time
  | 'S' => moment.text "%S" ++ "." ++ moment.text "%N" ++ "0"
  | 'T' | 'X' => moment.text "%H:%M:%S" ++ "." ++ moment.text "%N" ++ "0"
  | '+' => moment.text "%Y-%m-%d+%H:%M:%S" ++ "." ++ moment.text "%N" ++ "0"
  | c => moment.text (String.ofList ['%', c])

/-- A time in full, with ten decimals. -/
def wordyTime (time : Time) : String :=
  let moment := Moment.ofTime time
  moment.text "%a %b %e %H:%M:%S" ++ "." ++ moment.text "%N" ++ "0 " ++ moment.text "%Y"

/-- What a letter of a format stands for. -/
def findDetail (m : Machine) (f : Sighting) (l : Layout) (c : Char) : String :=
  let a := f.node.about
  match c with
  | 'p' => l.text f.path
  | 'f' => l.text (lastName f.path)
  | 'h' => l.text (if f.path.toList.contains '/' then directoryName f.path else ".")
  | 'P' => l.text (Octets.dropFirst 1 (Octets.dropFirst
      (if f.start.toList.getLast? == some '/' then f.start.length - 1 else f.start.length) f.path))
  | 'H' => l.text f.start
  | 's' => l.number (toString (sizeOf f.node))
  | 'b' => l.number (toString (blocksOf f.node))
  | 'k' => l.number (toString ((blocksOf f.node + 1) / 2))
  | 'd' => l.number (toString f.depth)
  | 'y' => l.text (String.singleton (findKind f.node))
  | 'Y' => l.text (match m.find f.path with
    | .ok n => String.singleton (findKind n)
    | .error .notFound => "N"
    | .error .tooManyLinks => "L"
    | .error _ => "?")
  | 'l' => l.text (match f.node with
    | .link target _ => Octets.ofText target
    | _ => "")
  | 'm' => l.number ((if l.isMarked then "0" else "") ++ Mode.octalText 1 a.mode)
  | 'M' => l.text (modeText f.node)
  | 'n' => l.number (toString (linkCount m.tree f.node))
  | 'i' => l.number (toString (1000 + a.identity))
  | 'u' => l.text (Accounts.nameOrDigits Accounts.users a.owner)
  | 'g' => l.text (Accounts.nameOrDigits Accounts.groups a.group)
  | 'U' => l.number (toString a.owner)
  | 'G' => l.number (toString a.group)
  | 't' | 'c' => l.text (wordyTime a.modified)
  | 'a' => l.text (wordyTime a.accessed)
  | '%' => "%"
  | c => "%" ++ String.singleton c

/-- A text by a format for a file found, in at most `n` steps. -/
def findText (m : Machine) (f : Sighting) : Nat → List Char → String
  | 0, _ => ""
  | _ + 1, [] => ""
  | n + 1, '%' :: cs =>
    match Layout.read cs with
    | (_, []) => "%"
    | (l, c :: x :: rest) =>
      if c == 'T' || c == 'C' || c == 'A' then
        let a := f.node.about
        l.text (letterTime (if c == 'A' then a.accessed else a.modified) x) ++ findText m f n rest
      else findDetail m f l c ++ findText m f n (x :: rest)
    | (l, [c]) => findDetail m f l c
  | n + 1, '\\' :: cs =>
    if cs.head? == some 'c' then ""
    else
      let (c, rest) := Escape.character cs
      String.singleton c ++ findText m f n rest
  | n + 1, c :: cs => String.singleton c ++ findText m f n cs

/-- Text is written to the output or to a file. -/
def emitTo (target : Option String) (text : String) : Tool Unit := do
  match target with
  | none | some "/dev/stdout" => out text
  | some "/dev/stderr" => err text
  | some path =>
    modify fun m =>
      let old := Octets.toBytes ((m.read path).toOption.getD "")
      (m.writeFile path (old ++ Octets.toBytes text)).toOption.getD m

/-- A command is launched in the directory of a file found. -/
def launchInside (launch : Launch) (path : String) (words : List String) :
    Tool (Except LaunchFault ExitStatus) := do
  let old ← get
  match old.locate (directoryName path) with
  | .ok place =>
    set (old.withDirectory place)
    let result ← launch words
    modify fun m => m.withDirectory old.directory
    return result
  | .error _ => launch words

/-- A condition is looked at, and what it does is done. -/
def Test.run (launch : Launch) (f : Sighting) : Test → Search → Tool (Bool × Search)
  | .holds p, s => return (p (← get) f, s)
  | .print ending target, s => do
    emitTo target (f.path ++ ending)
    return (true, s)
  | .printf format target, s => do
    emitTo target (findText (← get) f (format.length + 1) format.toList)
    return (true, s)
  | .list, s => do
    let m ← get
    let time := styledTime m.time "%b %e %H:%M" "%b %e  %Y" f.node.about.modified
    let fields := findText m f 100 "%9i %6k %M %3n %-8u %-8g %8s ".toList
    let target := match f.node with
      | .link t _ => " -> " ++ Octets.ofText t
      | _ => ""
    out (fields ++ time ++ " " ++ f.path ++ target ++ "\n")
    return (true, s)
  | .delete, s => do
    let m ← get
    if f.path == "." then return (true, s)
    match m.findSelf f.path, m.locateSelf f.path with
    | .ok (.directory (_ :: _) _), _ =>
      complain ("cannot delete " ++ Quote.inWords f.path ++ ": " ++ FileFault.notEmpty.words)
      return (false, { s with code := 1 })
    | .ok _, .ok place =>
      set (m.removeAt place)
      return (true, s)
    | _, _ => return (false, s)
  | .prune, s => return (true, { s with isPruned := true })
  | .quit, s => return (true, { s with isOver := true })
  | .execute words isInside asks, s => do
    let path := if isInside then "./" ++ lastName f.path else f.path
    let command := substitutePath path words
    if asks then
      err ("< " ++ " ".intercalate (words.take 1) ++ " ... " ++ f.path ++ " > ? ")
      if !(← answer) then return (false, s)
    match ← if isInside then launchInside launch f.path command else launch command with
    | .ok status => return (status.isSuccess, s)
    | .error fault =>
      complain (Quote.inWords (command.headD "") ++ ": " ++ fault.systemWords)
      return (false, s)
  | .collect words, s =>
    let s := if s.collected.any fun c => c.1 == words then
        { s with collected := s.collected.map fun c =>
            if c.1 == words then (c.1, c.2 ++ [f.path]) else c }
      else { s with collected := s.collected ++ [(words, [f.path])] }
    return (true, s)
  | .not t, s => do
    let (b, s) ← t.run launch f s
    return (!b, s)
  | .and a b, s => do
    let (x, s) ← a.run launch f s
    if x && !s.isOver then b.run launch f s else return (x, s)
  | .or a b, s => do
    let (x, s) ← a.run launch f s
    if x || s.isOver then return (x, s) else b.run launch f s
  | .both a b, s => do
    let (_, s) ← a.run launch f s
    if s.isOver then return (true, s) else b.run launch f s

/-- What a path of a search leads to. -/
def Search.look (s : Search) (m : Machine) (depth : Nat) (path : String) :
    Except FileFault Located :=
  let follows := s.followsAll || (s.followsNamed && depth == 0)
  match Located.look m follows path with
  | .ok l => .ok l
  | .error fault => if follows && fault == .notFound then Located.look m false path
    else .error fault

/-- Files are looked at, at most `n` of them one after the other and one below the other.
The directories `above` are being looked at. -/
def visit (launch : Launch) (t : Test) (start : String) (depth : Nat)
    (above : List (List String × String)) : Nat → List String → Search → Tool Search
  | 0, _, s => return s
  | _ + 1, [], s => return s
  | n + 1, path :: rest, s => do
    if s.isOver then return s
    match s.look (← get) depth path with
    | .error fault => do
      if fault == .tooManyLinks then
        complain (Quote.inWords path ++ ": " ++ fault.words)
        visit launch t start depth above n rest { s with code := 1 }
      else visit launch t start depth above n rest s
    | .ok found =>
      match above.find? fun a => found.node.isDirectory && a.1 == found.place with
      | some (_, earlier) =>
        complain ("File system loop detected; " ++ Quote.inWords path ++
          " is part of the same file system loop as " ++ Quote.inWords earlier ++ ".")
        visit launch t start depth above n rest { s with code := 1 }
      | none =>
        let f : Sighting := ⟨start, path, found.node, found.place, depth⟩
        let look (s : Search) : Tool Search := do
          if depth < s.minDepth then return s
          return (← t.run launch f { s with isPruned := false }).2
        let before ← if s.isDepthFirst then pure { s with isPruned := false } else look s
        let inner := match found.node with
          | .directory es _ =>
            if before.isPruned || s.maxDepth ≤ depth then []
            else (es.map fun e => entryPath path (Octets.ofText e.1)).mergeSort fun a b =>
              decide (a ≤ b)
          | _ => []
        let below ← visit launch t start (depth + 1) ((found.place, path) :: above) n inner
          { before with isPruned := false }
        let after ← if s.isDepthFirst && !below.isOver then look below else pure below
        visit launch t start depth above n rest after

/-- Looks for files. -/
def find (launch : Launch) : Tool Nat := do
  let words ← args
  let isOption (w : String) : Bool := w == "-L" || w == "-P" || w == "-H" || w == "-O3"
  let options := words.takeWhile isOption
  let words := words.drop options.length
  let paths := words.takeWhile fun w =>
    w.toList.head? != some '-' && w != "(" && w != "!" && w != ","
  let expression := words.drop paths.length
  let starts := if paths.isEmpty then ["."] else paths
  let setting : FindSetting :=
    ⟨← get, (optionWord? "-regextype" expression).getD "findutils-default"⟩
  match parseTest setting expression with
  | .error message => fail 1 message
  | .ok t =>
    let number (option : String) : Option Nat :=
      (optionWord? option expression).bind Octets.number?
    let last := (options.filter fun o => o != "-O3").getLast?
    let s : Search := {
      maxDepth := (number "-maxdepth").getD 100000
      minDepth := (number "-mindepth").getD 0
      isDepthFirst := t.isDepthFirst || expression.contains "-depth" || expression.contains "-d"
      followsAll := last == some "-L" || expression.contains "-follow"
      followsNamed := last == some "-H" }
    for target in t.targets do
      modify fun m => (m.writeFile target []).toOption.getD m
    let mut s := s
    for start in starts do
      match s.look (← get) 0 start with
      | .ok _ => s := ← visit launch t start 0 [] 100000 [start] s
      | .error fault =>
        complain (Quote.inWords start ++ ": " ++ fault.words)
        s := { s with code := 1 }
    for (words, paths) in s.collected do
      match ← launch (words ++ paths) with
      | .ok status => if !status.isSuccess then s := { s with code := 1 }
      | .error fault =>
        complain (Quote.inWords (words.headD "") ++ ": " ++ fault.systemWords)
        s := { s with code := 1 }
    return s.code

end CompileOrder.Shell.Utility
