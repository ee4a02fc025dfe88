import CompileOrder.Shell.Condition
import CompileOrder.Shell.Utility.Names

/-!
# Entries of directories

What utilities that change files share: paths of entries, nodes under all of their names,
and the copy that is kept of an entry which is about to be replaced.
-/

namespace CompileOrder.Shell.Utility

open Tool

/-- The path of an entry of a directory. -/
def entryPath (directory name : String) : String :=
  if directory.isEmpty then name
  else if directory.toList.getLast? == some '/' then directory ++ name
  else directory ++ "/" ++ name

/-- The path without slashes at its end, unless it is made of them. -/
def withoutSlashes (path : String) : String :=
  let kept := dropSlashes path.toList
  if kept.isEmpty then Octets.takeFirst 1 path else String.ofList kept

/-- The paths of a path and the directories above it, the topmost first. -/
def pathsDown (path : String) : List String :=
  let names := path.splitOn "/"
  ((List.range names.length).map fun i => "/".intercalate (names.take (i + 1))).filter fun p =>
    !p.isEmpty && p.toList.getLast? != some '/'

/-- The place of the entry that a path names, which need not be there. -/
def newPlace (m : Machine) (path : String) : Except FileFault (List String) := do
  match ← m.tree.locateLast (Octets.toText path) with
  | (above, some name) => return above ++ [name]
  | (_, none) => m.locateSelf path

/-- Whether both paths name the same entry. -/
def isSameEntry (m : Machine) (a b : String) : Bool :=
  match newPlace m a, newPlace m b with
  | .ok p, .ok q => p == q
  | _, _ => false

/-- What nodes are told apart by: the number that the names of a file share, or else the
place. -/
abbrev NodeKey := Nat × List String

/-- What the node at a place is told apart by. -/
def nodeKey (place : List String) (n : Node) : NodeKey :=
  if n.about.identity == 0 then (0, place) else (n.about.identity, [])

/-- A node with its place. -/
structure Located where
  /-- The place. -/
  place : List String
  /-- The node there. -/
  node : Node

namespace Located

/-- What the node is told apart by. -/
def key (l : Located) : NodeKey := nodeKey l.place l.node

/-- Whether both are the same node. -/
def isSame (a b : Located) : Bool := a.key == b.key

/-- The node that a path leads to, or the link that it names. -/
def look (m : Machine) (followsLast : Bool) (path : String) : Except FileFault Located := do
  let place ← if followsLast then m.locate path else m.locateSelf path
  return ⟨place, ← m.tree.node place⟩

end Located

/-- The number of names that the node at a place has. -/
def linkCount (t : FileTree) (n : Node) : Nat :=
  match n with
  | .directory es _ => 2 + (es.filter fun e => e.2.isDirectory).length
  | n => if n.about.identity == 0 then 1 else t.root.countNames n.about.identity

/-- The attributes of the node at a place are changed, under all of its names. -/
def amend (m : Machine) (place : List String) (f : Attributes → Attributes) : Machine :=
  match m.tree.root.get? place with
  | some n => m.withTree (m.tree.change place (n.withAbout (f n.about)))
  | none => m

/-- A node is put under a new name besides the one it has. -/
def shareAt (m : Machine) (source target : List String) : Machine :=
  match m.tree.root.get? source with
  | none => m
  | some n =>
    if n.about.identity != 0 then m.withTree (m.tree.put target n)
    else
      let shared := n.withAbout { n.about with identity := m.tree.root.lastIdentity + 1 }
      m.withTree (({ m.tree with root := m.tree.root.set source shared } : FileTree).put
        target shared)

/-- How the old entry is kept when a new one takes its name. -/
inductive Backup where
  /-- Under its name with an ending. -/
  | simple
  /-- Under its name with a number. -/
  | numbered
  /-- With a number if there is one with a number already. -/
  | existing
  deriving DecidableEq, Repr

namespace Backup

/-- The way of keeping old entries that a word names; none are kept for some words. -/
def ofWord? : String → Option (Option Backup)
  | "none" | "off" => some none
  | "simple" | "never" => some (some .simple)
  | "existing" | "nil" | "" => some (some .existing)
  | "numbered" | "t" => some (some .numbered)
  | _ => none

/-- The number that an entry is kept with, if it is one of those for a name. -/
def number? (name entry : String) : Option Nat :=
  let lead := (name ++ ".~").toList
  let cs := entry.toList
  if lead.isPrefixOf cs && cs.getLast? == some '~' then
    let ds := (cs.drop lead.length).dropLast
    if ds.isEmpty || !ds.all Char.isDigit || ds.head? == some '0' then none
    else some (Octets.number ds)
  else none

/-- The path that an entry is kept under. -/
def path (b : Backup) (m : Machine) (ending target : String) : String :=
  let name := lastName target
  let numbers := ((m.entries (directoryName target)).toOption.getD []).filterMap (number? name)
  let next := withoutSlashes target ++ ".~" ++ toString (numbers.foldl Nat.max 0 + 1) ++ "~"
  let simple := withoutSlashes target ++ ending
  match b with
  | .simple => simple
  | .numbered => next
  | .existing => if numbers.isEmpty then simple else next

end Backup

/-- The options for old entries. -/
def backupFlags : List Flag :=
  [{ letter := 'b' }, { letter := '\x10', word := "backup", takes := .optional },
    { letter := 'S', word := "suffix", takes := .required }]

/-- How old entries are kept by the options, and the ending they get. -/
def backupOf (p : Parsed) : Tool (Except Nat (Option Backup × String)) := do
  let fromEnvironment := (← entry? "VERSION_CONTROL").getD "existing"
  let usual := ((← entry? "SIMPLE_BACKUP_SUFFIX").filter fun s => !s.isEmpty).getD "~"
  let ending := (p.get? 'S').getD usual
  let isAsked := p.has 'b' || p.has '\x10' || p.has 'S'
  let word := match (p.options.filter fun o => o.1 == '\x10' && !o.2.isEmpty).getLast? with
    | some o => o.2
    | none => fromEnvironment
  if !isAsked then return .ok (none, ending)
  match Backup.ofWord? word with
  | some backup => return .ok (backup, ending)
  | none =>
    complain ("invalid argument " ++ Quote.inWords word ++ " for " ++
      Quote.inWords "backup type")
    let line (words : List String) : String :=
      "  - " ++ ", ".intercalate (words.map Quote.inWords) ++ "\n"
    err ("Valid arguments are:\n" ++ line ["none", "off"] ++ line ["simple", "never"] ++
      line ["existing", "nil"] ++ line ["numbered", "t"])
    err ("Try '" ++ (← name) ++ " --help' for more information.\n")
    return .error 1

end CompileOrder.Shell.Utility
