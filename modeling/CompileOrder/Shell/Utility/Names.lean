import CompileOrder.Shell.Utility.Options
import CompileOrder.Shell.Utility.Quote

/-!
# Utilities for names of files

The parts of a path, where it leads, and where programs are.
-/

namespace CompileOrder.Shell.Utility

open Tool

/-- The characters without the slashes at their end. -/
def dropSlashes (cs : List Char) : List Char := (cs.reverse.dropWhile fun c => c == '/').reverse

/-- The last name of a path. -/
def lastName (path : String) : String :=
  let cs := path.toList
  let kept := dropSlashes cs
  if kept.isEmpty then if cs.isEmpty then "" else "/"
  else String.ofList (kept.reverse.takeWhile fun c => c != '/').reverse

/-- The path without its last name. -/
def directoryName (path : String) : String :=
  let cs := path.toList
  let kept := dropSlashes cs
  let before := (kept.reverse.dropWhile fun c => c != '/').reverse
  let above := dropSlashes before
  if cs.head? == some '/' then if above.isEmpty then "/" else String.ofList above
  else if above.isEmpty then "." else String.ofList above

/-- The name without an ending, unless it is the ending itself. -/
def withoutEnding (ending name : String) : String :=
  let cs := name.toList
  let es := ending.toList
  if es.isSuffixOf cs && es.length < cs.length && cs.head? != some '/' then
    String.ofList (cs.take (cs.length - es.length))
  else name

/-- Shows the last names of paths. -/
def basename : Tool Nat :=
  withLeadingOptions [{ letter := 'a', word := "multiple" },
      { letter := 's', word := "suffix", takes := .required }, { letter := 'z', word := "zero" }] 1
    fun p => do
      let ending := if p.has 'z' then "\x00" else "\n"
      let write (suffix path : String) : Tool Unit :=
        out (withoutEnding suffix (lastName path) ++ ending)
      match p.operands with
      | [] => misuse 1 "missing operand"
      | path :: rest =>
        if p.has 'a' || p.has 's' then
          p.operands.forM (write ((p.get? 's').getD ""))
          return 0
        else match rest with
          | [] =>
            write "" path
            return 0
          | [suffix] =>
            write suffix path
            return 0
          | _ :: extra :: _ => misuse 1 ("extra operand " ++ Quote.inWords extra)

/-- Shows paths without their last names. -/
def dirname : Tool Nat :=
  withOptions [{ letter := 'z', word := "zero" }] 1 fun p => do
    if p.operands.isEmpty then misuse 1 "missing operand"
    else
      let ending := if p.has 'z' then "\x00" else "\n"
      p.operands.forM fun path => out (directoryName path ++ ending)
      return 0

/-- How much of a path has to be there. -/
inductive Required where
  | all | allButLast | nothing
  deriving DecidableEq, Repr

/-- The place that names lead to from another place, by what has to be there. At a link,
`jump` goes on with the place that the target starts from and all names that are left. -/
def resolveWith (t : FileTree) (required : Required)
    (jump : List String → List String → Except FileFault (List String)) :
    List String → List String → Except FileFault (List String)
  | place, [] => .ok place
  | place, name :: rest =>
    if name == "" then resolveWith t required jump place rest
    else match t.root.get? place with
      | some (.directory es _) =>
        if name == "." then resolveWith t required jump place rest
        else if name == ".." then resolveWith t required jump place.dropLast rest
        else match child? name es with
          | some (.link target _) =>
            jump (if Path.isAbsolute target then [] else place) (Path.names target ++ rest)
          | some _ => resolveWith t required jump (place ++ [name]) rest
          | none =>
            if required == .nothing || (required == .allButLast && rest.isEmpty) then
              resolveWith t required jump (place ++ [name]) rest
            else .error .notFound
      | found =>
        if required == .nothing then
          let next := if name == "." then place else if name == ".." then place.dropLast
            else place ++ [name]
          resolveWith t required jump next rest
        else .error (if found.isSome then .notDirectory else .notFound)

/-- The place that names lead to, with a number of links that may be followed. -/
def resolve (t : FileTree) (required : Required) :
    Nat → List String → List String → Except FileFault (List String)
  | 0 => resolveWith t required fun _ _ => .error .tooManyLinks
  | links + 1 => resolveWith t required (resolve t required links)

/-- The place that a path leads to, by what has to be there. -/
def place (m : Machine) (required : Required) (path : String) : Except FileFault (List String) := do
  let path := Octets.toText path
  if path.isEmpty then throw .notFound
  let there ← resolve m.tree required FileTree.maxLinks (m.tree.startOf path) (Path.names path)
  let isFile := match m.tree.root.get? there with
    | some n => !n.isDirectory
    | none => false
  if isFile && Path.endsWithSlash path && required != .nothing then throw .notDirectory
  return there

/-- The place that a path names when no link is followed. -/
def plainPlace (t : FileTree) (path : String) : List String :=
  (Path.names path).foldl (fun place name =>
    if name == "." then place else if name == ".." then place.dropLast else place ++ [name])
    (t.startOf path)

/-- The path of a place. -/
def pathOf (place : List String) : String := Octets.ofText ("/" ++ "/".intercalate place)

/-- The path of a place as seen from another one. -/
def relativePath : List String → List String → String
  | a :: base, b :: place =>
    if a == b then relativePath base place
    else Octets.ofText ("/".intercalate (List.replicate (base.length + 1) ".." ++ b :: place))
  | base, place =>
    let names := List.replicate base.length ".." ++ place
    if names.isEmpty then "." else Octets.ofText ("/".intercalate names)

/-- Shows where paths lead. -/
def realpath : Tool Nat :=
  withOptions [{ letter := 'e', word := "canonicalize-existing" },
      { letter := 'm', word := "canonicalize-missing" }, { letter := 'L', word := "logical" },
      { letter := 'P', word := "physical" }, { letter := 'q', word := "quiet" },
      { letter := 's', word := "strip" }, { letter := 's', word := "no-symlinks" },
      { letter := 'z', word := "zero" },
      { letter := '\x01', word := "relative-to", takes := .required },
      { letter := '\x02', word := "relative-base", takes := .required }] 1 fun p => do
    if p.operands.isEmpty then return ← misuse 1 "missing operand"
    let required := match p.last? "em" with
      | some 'e' => Required.all
      | some _ => .nothing
      | none => .allButLast
    let find (m : Machine) (path : String) : Except FileFault (List String) :=
      let found := place m required path
      match p.has 's', found with
      | true, .ok _ | true, .error .notFound => .ok (plainPlace m.tree (Octets.toText path))
      | _, found => found
    let m ← get
    let mut bases : List (Option (List String)) := []
    for letter in ['\x01', '\x02'] do
      match p.get? letter with
      | none => bases := bases ++ [none]
      | some path =>
        match find m path with
        | .ok there => bases := bases ++ [some there]
        | .error fault => return ← fail 1 (Quote.ifNeeded path ++ ": " ++ fault.words)
    let base := (bases.getD 1 none)
    let start := (bases.getD 0 none).or base
    each p.operands fun path => do
      match find (← get) path with
      | .ok there =>
        let isBelow := match base with
          | some b => b.isPrefixOf there
          | none => true
        let text := match start, isBelow with
          | some s, true => relativePath s there
          | _, _ => pathOf there
        out (text ++ (if p.has 'z' then "\x00" else "\n"))
        return 0
      | .error fault =>
        if p.has 'q' then return 1
        fail 1 (Quote.ifNeeded path ++ ": " ++ fault.words)

/-- Shows what links stand for, or where paths lead. -/
def readlink : Tool Nat :=
  withOptions [{ letter := 'f', word := "canonicalize" },
      { letter := 'e', word := "canonicalize-existing" },
      { letter := 'm', word := "canonicalize-missing" }, { letter := 'n', word := "no-newline" },
      { letter := 'q', word := "quiet" }, { letter := 's', word := "silent" },
      { letter := 'v', word := "verbose" }, { letter := 'z', word := "zero" }] 1 fun p => do
    if p.operands.isEmpty then return ← misuse 1 "missing operand"
    let isMany := 1 < p.operands.length
    if p.has 'n' && isMany then complain "ignoring --no-newline with multiple arguments"
    let ending := if p.has 'n' && !isMany then "" else if p.has 'z' then "\x00" else "\n"
    let required := match p.last? "fem" with
      | some 'f' => some Required.allButLast
      | some 'e' => some .all
      | some _ => some .nothing
      | none => none
    each p.operands fun path => do
      let m ← get
      let found : Except FileFault String := match required with
        | some r => (place m r path).map pathOf
        | none =>
          match m.findSelf path with
          | .ok (.link target _) => .ok (Octets.ofText target)
          | .ok _ => .error .invalid
          | .error fault => .error fault
      match found with
      | .ok text =>
        out (text ++ ending)
        return 0
      | .error fault =>
        if p.last? "vqs" == some 'v' then complain (Quote.ifNeeded path ++ ": " ++ fault.words)
        return 1

/-- Shows the working directory. -/
def workingDirectory : Tool Nat :=
  withOptions [{ letter := 'L', word := "logical" },
      { letter := 'P', word := "physical" }] 1 fun _ => do
    out (Octets.ofText (← get).tree.workingPath ++ "\n")
    return 0

/-- What is wrong with a name of a file: a message without the name of the utility. With
`isBasic` only the characters and lengths that all systems know are allowed; with `isStrict`
names are not empty and do not begin with a hyphen. -/
def nameFault? (m : Machine) (isBasic isStrict : Bool) (path : String) : Option String :=
  let parts := path.splitOn "/"
  let isCommon (c : Char) : Bool := c.isAlphanum || "._-/".toList.contains c
  let quoted := Quote.always path
  let tooLong (limit length : Nat) (what : String) : String :=
    "limit " ++ toString limit ++ " exceeded by length " ++ toString length ++ " of " ++ what
  if isStrict && parts.any fun part => part.toList.head? == some '-' then
    some ("leading '-' in a component of file name " ++ quoted)
  else if (isBasic || isStrict) && path.isEmpty then some "empty file name"
  else match isBasic, (Characters.ofOctets path).find? fun c => !isCommon c with
    | true, some c =>
      some ("non-portable character " ++ Quote.inWords (Characters.toOctets [c]) ++
        " in file name " ++ quoted)
    | true, none =>
      if 255 < path.length then some (tooLong 255 path.length ("file name " ++ quoted))
      else (parts.find? fun part => 14 < part.length).map fun part =>
        tooLong 14 part.length ("file name component " ++ Quote.inWords part)
    | false, _ =>
      if path.isEmpty then some ("'': " ++ FileFault.notFound.words)
      else match m.findSelf path with
        | .ok _ | .error .notFound => none
        | .error fault => some (Quote.ifNeeded path ++ ": " ++ fault.words)

/-- Checks names of files. -/
def pathchk : Tool Nat :=
  withOptions [{ letter := 'p' }, { letter := 'P' },
      { letter := '\x01', word := "portability" }] 1 fun p => do
    if p.operands.isEmpty then return ← misuse 1 "missing operand"
    let isBasic := p.has 'p' || p.has '\x01'
    let isStrict := p.has 'P' || p.has '\x01'
    each p.operands fun path => do
      match nameFault? (← get) isBasic isStrict path with
      | some message => fail 1 message
      | none => return 0

/-- Shows where programs are. -/
def which : Tool Nat :=
  withOptions [{ letter := 'a' }, { letter := 's' }] 2 fun p => do
    let search := (← entry? "PATH").getD ""
    if p.operands.isEmpty then return 1
    each p.operands fun name => do
      let m ← get
      let isProgram (path : String) : Bool := (Program.identify m path).isOk
      let all := if name.toList.contains '/' then [name] else Program.candidates search name
      let found := all.filter isProgram
      outLines (if p.has 'a' then found else found.take 1)
      return if found.isEmpty then 1 else 0

end CompileOrder.Shell.Utility
