import CompileOrder.Shell.Calendar.Reading
import CompileOrder.Shell.Regex.Notation
import CompileOrder.Shell.Utility.Directory

/-!
# Conditions of a search

Conditions on files are joined by operators; some of them do something with the files they
are asked of. They are read from the words of a command line.
-/

namespace CompileOrder.Shell.Utility

open Tool

/-- The pattern that a text without quotes is. -/
def textPattern (text : String) : List Pattern.Item :=
  let glyphs := (Glyph.ofText text false).map fun g => if g.char == '^' then ⟨'^', false⟩ else g
  Pattern.items glyphs

/-- Whether a name is described by a pattern, in which case may not count. -/
def matchesName (pattern name : String) (isFolded : Bool) : Bool :=
  let text (s : String) : String := if isFolded then s.toLower else s
  let toName (s : String) : String := String.ofList (Characters.ofOctets s)
  Pattern.matchItems (textPattern (text (toName pattern))) (text (toName name)).toList

/-- What is known of a file found. -/
structure Sighting where
  /-- Where the search began. -/
  start : String
  /-- The path. -/
  path : String
  /-- The file, directory or link. -/
  node : Node
  /-- Its place. -/
  place : List String
  /-- How far down it is. -/
  depth : Nat

/-- A condition on files, or something done with them. -/
inductive Test where
  /-- Something holds of the file. -/
  | holds (p : Machine → Sighting → Bool)
  /-- The path is shown, or written to a file. -/
  | print (ending : String) (target : Option String)
  /-- A text by a format is shown, or written to a file. -/
  | printf (format : String) (target : Option String)
  /-- What is known of it is shown. -/
  | list
  /-- It is removed. -/
  | delete
  /-- Nothing below it is looked at. -/
  | prune
  /-- Nothing more is looked at. -/
  | quit
  /-- A command is run for it, perhaps in its directory, perhaps after a question. -/
  | execute (words : List String) (isInside asks : Bool)
  /-- A command is run for all together at the end. -/
  | collect (words : List String)
  /-- Not so. -/
  | not (t : Test)
  /-- Both, the first one first. -/
  | and (a b : Test)
  /-- One of both, the first one first. -/
  | or (a b : Test)
  /-- Both, and the second one counts. -/
  | both (a b : Test)

namespace Test

/-- Whether the condition does something that makes showing paths unnecessary. -/
def acts : Test → Bool
  | .print _ _ | .printf _ _ | .list | .delete | .execute _ _ _ | .collect _ | .quit => true
  | .not t => t.acts
  | .and a b | .or a b | .both a b => a.acts || b.acts
  | _ => false

/-- Whether files are looked at after what is below them. -/
def isDepthFirst : Test → Bool
  | .delete => true
  | .not t => t.isDepthFirst
  | .and a b | .or a b | .both a b => a.isDepthFirst || b.isDepthFirst
  | _ => false

/-- The files that something is written to. -/
def targets : Test → List String
  | .print _ (some path) | .printf _ (some path) => [path]
  | .not t => t.targets
  | .and a b | .or a b | .both a b => a.targets ++ b.targets
  | _ => []

/-- A condition that always holds. -/
def yes : Test := .holds fun _ _ => true

end Test

/-- The words up to the end of a command, and those after it. -/
def commandWords : List String → List String → Option (List String × Bool × List String)
  | [], _ => none
  | ";" :: rest, words => some (words.reverse, false, rest)
  | "+" :: rest, "\x7b\x7d" :: words => some (words.reverse, true, rest)
  | w :: rest, words => commandWords rest (w :: words)

/-- A number that something is compared with: it has to be less, equal or greater. -/
structure Bound where
  /-- How it compares. -/
  order : Ordering
  /-- The number. -/
  count : Nat
  deriving DecidableEq, Repr

namespace Bound

/-- The bound that a text with a sign describes, and the characters after its digits. -/
def read (text : String) : Option (Bound × List Char) :=
  let (order, cs) := match text.toList with
    | '+' :: cs => (Ordering.gt, cs)
    | '-' :: cs => (Ordering.lt, cs)
    | cs => (Ordering.eq, cs)
  let ds := cs.takeWhile Char.isDigit
  if ds.isEmpty then none else some (⟨order, Octets.number ds⟩, cs.drop ds.length)

/-- The bound that a text describes. -/
def read? (text : String) : Option Bound :=
  match read text with
  | some (b, []) => some b
  | _ => none

/-- Whether a number is as the bound says. -/
def admits (b : Bound) (n : Int) : Bool := compare n b.count == b.order

end Bound

/-- The unit that a letter after a size stands for. -/
def sizeUnit? : List Char → Option Nat
  | [] | ['b'] => some 512
  | ['c'] => some 1
  | ['w'] => some 2
  | ['k'] => some 1024
  | ['M'] => some 1048576
  | ['G'] => some 1073741824
  | _ => none

/-- A condition on the size. -/
def sizeTest (text : String) : Except String Test :=
  match Bound.read text with
  | none =>
    match text.toList.getLast? with
    | some c =>
      if sizeUnit? [c] == none && !c.isDigit then
        .error ("invalid -size type \x60" ++ String.singleton c ++ "'")
      else .error ("Invalid argument \x60" ++ text ++ "' to -size")
    | none => .error "invalid null argument to -size"
  | some (b, rest) =>
    match sizeUnit? rest with
    | none =>
      if rest.length == 1 then
        .error ("invalid -size type \x60" ++ String.ofList rest ++ "'")
      else .error ("Invalid argument \x60" ++ text ++ "' to -size")
    | some unit =>
      .ok (.holds fun _ f => b.admits ((sizeOf f.node + unit - 1) / unit : Nat))

/-- The letter for the kind of a file found. -/
def findKind (n : Node) : Char := if n.isFile then 'f' else kindLetter n

/-- The letters of kinds that a text separates by commas. -/
def kindsOf (option text : String) : Except String (List Char) :=
  if text.isEmpty then .error ("Arguments to " ++ option ++ " should contain at least one letter")
  else
    let parts := text.splitOn ","
    match parts.find? fun p => p.length != 1 || !("bcdflpsD".toList.contains (p.toList.headD ' '))
    with
    | none => .ok (parts.map fun p => p.toList.headD ' ')
    | some p =>
      match p.toList with
      | [] => .error ("Last file type in list argument to " ++ option ++
        " is missing, i.e., list is ending on: ','")
      | c :: rest =>
        if !("bcdflpsD".toList.contains c) then
          .error ("Unknown argument to " ++ option ++ ": " ++ String.singleton c)
        else if rest.isEmpty then .ok []
        else .error ("Must separate multiple arguments to " ++ option ++ " using: ','")

/-- A condition on permission bits: exactly these, at least these, or any of them. -/
def permTest (text : String) : Except String Test :=
  let (sign, mode) := match text.toList with
    | '-' :: cs => ('-', String.ofList cs)
    | '/' :: cs => ('/', String.ofList cs)
    | _ => ('=', text)
  match Mode.read? mode with
  | none => .error ("invalid mode " ++ Quote.inWords text)
  | some changes =>
    let bits := Mode.apply false 0 changes 0
    .ok (.holds fun _ f =>
      let has := f.node.about.mode
      match sign with
      | '-' => has &&& bits == bits
      | '/' => bits == 0 || has &&& bits != 0
      | _ => has == bits)

/-- A condition on the age of a file in units of seconds; days are counted in full, minutes
as they begin. -/
def ageTest (option text : String) (unit : Nat) (isFull : Bool) (time : Attributes → Time) :
    Except String Test :=
  match Bound.read? text with
  | none => .error ("invalid argument \x60" ++ text ++ "' to \x60" ++ option ++ "'")
  | some b =>
    .ok (.holds fun m f =>
      let age := m.time - time f.node.about
      let units := age.fdiv (unit * Time.second)
      if isFull then b.admits units
      else match b.order with
        | .gt => b.count * (unit * Time.second) < age
        | .lt => age < b.count * (unit * Time.second)
        | .eq => units + 1 == b.count)

/-- A condition on a number that is known of a file. -/
def countTest (option text : String) (count : Machine → Sighting → Nat) : Except String Test :=
  match Bound.read? text with
  | none => .error ("invalid argument \x60" ++ text ++ "' to \x60" ++ option ++ "'")
  | some b => .ok (.holds fun m f => b.admits (count m f))

/-- A condition on the time of a file and that of another one. -/
def newerTest (m : Machine) (path : String) (own other : Attributes → Time) :
    Except String Test :=
  match m.find path with
  | .error fault => .error (Quote.inWords path ++ ": " ++ fault.words)
  | .ok n =>
    let time := other n.about
    .ok (.holds fun _ f => time < own f.node.about)

/-- A condition on the owner or the group. -/
def accountTest (all : List (String × Nat)) (text kind : String) (number : Attributes → Nat) :
    Except String Test :=
  match Accounts.read? all text with
  | some n => .ok (.holds fun _ f => number f.node.about == n)
  | none => .error (Quote.inWords text ++ " is not the name of " ++ kind)

/-- A notation with its signs `+` and `?` turned into those of the notation of editors. -/
def editorNotation : List Char → List Char
  | [] => []
  | '\\' :: c :: cs => '\\' :: c :: editorNotation cs
  | c :: cs => if c == '+' || c == '?' then '\\' :: c :: editorNotation cs
    else c :: editorNotation cs

/-- A condition on the whole path by a regular expression. -/
def regexTest (kind text : String) (isFolded : Bool) : Except String Test :=
  let isExtended := ["posix-extended", "egrep", "posix-egrep", "awk", "posix-awk",
    "gnu-awk"].contains kind
  let isEditor := kind == "emacs" || kind == "findutils-default"
  let text := if isEditor then String.ofList (editorNotation text.toList) else text
  match Regex.parse { isExtended := isExtended, isFolded := isFolded } text with
  | .error fault => .error ("failed to compile regular expression '" ++ text ++ "': " ++
    fault.words)
  | .ok parsed =>
    .ok (.holds fun _ f =>
      let chars := f.path.toList.toArray
      (Regex.searchFrom { chars := chars } (fun i j => i == 0 && j == chars.size)
        parsed.regex 1 0).isSome)

/-- The time that a letter of an option names. -/
def timeOfLetter : Char → Attributes → Time
  | 'a', a => a.accessed
  | _, a => a.modified

/-- A reader of conditions. -/
structure FindRules where
  /-- Conditions with commas between them. -/
  list : List String → Except String (Test × List String)

/-- What conditions are read with. -/
structure FindSetting where
  /-- What processes share when the search begins. -/
  machine : Machine
  /-- The notation of regular expressions. -/
  notationName : String

/-- A condition that takes a word. -/
def wordTest? (s : FindSetting) (option : String) : Option (String → Except String Test) :=
  let named (f : String → Sighting → Bool) : Option (String → Except String Test) :=
    some fun a => .ok (.holds fun _ s => f a s)
  let linkName (isFolded : Bool) (a : String) (f : Sighting) : Bool := match f.node with
    | .link target _ => matchesName a (Octets.ofText target) isFolded
    | _ => false
  match option with
  | "-name" => named fun a f => matchesName a (lastName f.path) false
  | "-iname" => named fun a f => matchesName a (lastName f.path) true
  | "-path" | "-wholename" => named fun a f => matchesName a f.path false
  | "-ipath" | "-iwholename" => named fun a f => matchesName a f.path true
  | "-lname" => named (linkName false)
  | "-ilname" => named (linkName true)
  | "-regex" => some fun a => regexTest s.notationName a false
  | "-iregex" => some fun a => regexTest s.notationName a true
  | "-type" => some fun a => do
    let letters ← kindsOf option a
    return .holds fun _ f => letters.contains (findKind f.node)
  | "-xtype" => some fun a => do
    let letters ← kindsOf option a
    return .holds fun m f => letters.contains (match m.find f.path with
      | .ok n => findKind n
      | .error _ => findKind f.node)
  | "-size" => some sizeTest
  | "-perm" => some permTest
  | "-newer" => some fun a => newerTest s.machine a (fun a => a.modified) fun a => a.modified
  | "-anewer" => some fun a => newerTest s.machine a (fun a => a.accessed) fun a => a.modified
  | "-cnewer" => some fun a => newerTest s.machine a (fun a => a.modified) fun a => a.modified
  | "-mtime" | "-ctime" => some fun a => ageTest option a 86400 true fun a => a.modified
  | "-atime" => some fun a => ageTest option a 86400 true fun a => a.accessed
  | "-mmin" | "-cmin" => some fun a => ageTest option a 60 false fun a => a.modified
  | "-amin" => some fun a => ageTest option a 60 false fun a => a.accessed
  | "-user" => some fun a => accountTest Accounts.users a "a known user" fun a => a.owner
  | "-group" => some fun a => accountTest Accounts.groups a "an existing group" fun a => a.group
  | "-uid" => some fun a => countTest option a fun _ f => f.node.about.owner
  | "-gid" => some fun a => countTest option a fun _ f => f.node.about.group
  | "-links" => some fun a => countTest option a fun m f => linkCount m.tree f.node
  | "-inum" => some fun a => countTest option a fun _ f => 1000 + f.node.about.identity
  | "-samefile" => some fun a =>
    match Located.look s.machine true a with
    | .ok l => .ok (.holds fun _ f => nodeKey f.place f.node == l.key)
    | .error fault => .error (Quote.inWords a ++ ": " ++ fault.words)
  | "-maxdepth" | "-mindepth" => some fun a =>
    if (Octets.number? a).isSome then .ok .yes
    else .error ("Expected a positive decimal integer argument to " ++ option ++ ", but got " ++
      Quote.inWords a)
  | "-regextype" | "-fstype" | "-used" | "-context" => some fun _ => .ok .yes
  | "-printf" => some fun a => .ok (.printf a none)
  | "-fprint" => some fun a => .ok (.print "\n" (some a))
  | "-fprint0" => some fun a => .ok (.print "\x00" (some a))
  | option =>
    match option.toList with
    | ['-', 'n', 'e', 'w', 'e', 'r', x, 't'] =>
      some fun a => match Calendar.read? s.machine.time a with
        | some time => .ok (.holds fun _ f => time < timeOfLetter x f.node.about)
        | none => .error ("I cannot figure out how to interpret " ++ Quote.inWords a ++
          " as a date or time")
    | ['-', 'n', 'e', 'w', 'e', 'r', x, y] =>
      if "aBcm".toList.contains x && "aBcm".toList.contains y then
        some fun a => newerTest s.machine a (timeOfLetter x) (timeOfLetter y)
      else none
    | _ => none

/-- A condition that takes no word. -/
def bareTest? : String → Option Test
  | "-empty" => some (.holds fun _ f => match f.node with
    | .file bytes _ => bytes.isEmpty
    | .directory es _ => es.isEmpty
    | _ => false)
  | "-executable" => some (.holds fun m f => match m.find f.path with
    | .ok n => Condition.isExecutable n
    | .error _ => false)
  | "-nouser" => some (.holds fun _ f => (Accounts.name? Accounts.users f.node.about.owner).isNone)
  | "-nogroup" =>
    some (.holds fun _ f => (Accounts.name? Accounts.groups f.node.about.group).isNone)
  | "-readable" | "-writable" => some (.holds fun m f => m.holds f.path)
  | "-true" | "-depth" | "-d" | "-follow" | "-mount" | "-xdev" | "-daystart" | "-noleaf"
  | "-warn" | "-nowarn" | "-ignore_readdir_race" | "-noignore_readdir_race" => some .yes
  | "-false" => some (.holds fun _ _ => false)
  | "-print" => some (.print "\n" none)
  | "-print0" => some (.print "\x00" none)
  | "-ls" => some .list
  | "-delete" => some .delete
  | "-prune" => some .prune
  | "-quit" => some .quit
  | _ => none

/-- One condition. -/
def findPrimary (s : FindSetting) (rules : FindRules) :
    Nat → List String → Except String (Test × List String)
  | 0, _ => .error "paths must precede expression"
  | _ + 1, [] => .ok (.yes, [])
  | n + 1, word :: rest =>
    match word with
    | "!" | "-not" => do
      if rest.isEmpty then throw ("expected an expression after '" ++ word ++ "'")
      let (t, rest) ← findPrimary s rules n rest
      return (.not t, rest)
    | "(" => do
      if rest.head? == some ")" then
        throw "invalid expression; empty parentheses are not allowed."
      let (t, rest) ← rules.list rest
      match rest with
      | ")" :: rest => return (t, rest)
      | _ =>
        throw "invalid expression; I was expecting to find a ')' somewhere but did not see one."
    | "-exec" | "-ok" | "-execdir" | "-okdir" =>
      match commandWords rest [] with
      | some (words, isTogether, rest) =>
        if words.isEmpty then .error ("invalid argument \x60" ++
          (if isTogether then "+" else ";") ++ "' to \x60" ++ word ++ "'")
        else if isTogether then .ok (.collect words, rest)
        else .ok (.execute words (word == "-execdir" || word == "-okdir")
          (word == "-ok" || word == "-okdir"), rest)
      | none => .error ("missing argument to \x60" ++ word ++ "'")
    | "-fprintf" =>
      match rest with
      | path :: format :: rest => .ok (.printf format (some path), rest)
      | _ => .error ("missing argument to \x60" ++ word ++ "'")
    | "-o" | "-or" | "-a" | "-and" =>
      .error ("invalid expression; you have used a binary operator '" ++ word ++
        "' with nothing before it.")
    | word =>
      match wordTest? s word, bareTest? word with
      | some f, _ =>
        match rest with
        | [] => .error ("missing argument to \x60" ++ word ++ "'")
        | arg :: rest => do return (← f arg, rest)
      | none, some t => .ok (t, rest)
      | none, none =>
        if word.toList.head? == some '-' then .error ("unknown predicate \x60" ++ word ++ "'")
        else if word == ")" then
          .error ("invalid expression; expected to find an expression but found ')'.")
        else .error ("paths must precede expression: \x60" ++ word ++ "'")

/-- Conditions that follow each other. -/
def findConjunction (s : FindSetting) (rules : FindRules) : Nat → Test → List String →
    Except String (Test × List String)
  | 0, t, words => .ok (t, words)
  | n + 1, t, words =>
    match words with
    | [] | "-o" :: _ | "-or" :: _ | ")" :: _ | "," :: _ => .ok (t, words)
    | "-a" :: rest | "-and" :: rest => do
      if rest.isEmpty then throw ("expected an expression after '" ++ words.headD "" ++ "'")
      let (u, rest) ← findPrimary s rules (rest.length + 1) rest
      findConjunction s rules n (.and t u) rest
    | words => do
      let (u, rest) ← findPrimary s rules (words.length + 1) words
      findConjunction s rules n (.and t u) rest

/-- Conditions of which one is enough. -/
def findDisjunction (s : FindSetting) (rules : FindRules) :
    Nat → List String → Except String (Test × List String)
  | 0, words => .ok (.yes, words)
  | n + 1, words => do
    let (first, rest) ← findPrimary s rules (words.length + 1) words
    let (t, rest) ← findConjunction s rules (words.length + 1) first rest
    match rest with
    | "-o" :: rest | "-or" :: rest =>
      if rest.isEmpty then throw "expected an expression after '-o'"
      let (u, rest) ← findDisjunction s rules n rest
      return (.or t u, rest)
    | "," :: rest =>
      let (u, rest) ← findDisjunction s rules n rest
      return (.both t u, rest)
    | rest => return (t, rest)

/-- The rules with a number of levels of parentheses. -/
def findRules (s : FindSetting) : Nat → FindRules
  | 0 => ⟨fun _ => .error "paths must precede expression"⟩
  | n + 1 => ⟨fun words => findDisjunction s (findRules s n) (words.length + 1) words⟩

/-- The condition that words are. -/
def parseTest (s : FindSetting) (words : List String) : Except String Test := do
  if words.isEmpty then return .print "\n" none
  let (t, rest) ← (findRules s (words.length + 1)).list words
  match rest with
  | [] => return if t.acts then t else .and t (.print "\n" none)
  | ")" :: _ => throw "you have too many ')'"
  | word :: _ => throw ("paths must precede expression: \x60" ++ word ++ "'")

/-- The word after an option. -/
def optionWord? (option : String) : List String → Option String
  | [] => none
  | w :: rest => if w == option then rest.head? else optionWord? option rest

end CompileOrder.Shell.Utility
