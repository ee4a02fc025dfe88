import CompileOrder.Shell.Mode
import CompileOrder.Shell.Utility.Entry

/-!
# Copying and moving

Files, directories and links are copied or moved to a new name or into a directory. What
stands there already is replaced, kept aside or left alone; a file is never copied onto
itself, and what has just been copied is not overwritten.
-/

namespace CompileOrder.Shell.Utility

open Tool

/-- Which links are followed when their targets are copied. -/
inductive Follow where
  /-- All of them. -/
  | all
  /-- Those that are named. -/
  | named
  /-- None. -/
  | none
  deriving DecidableEq, Repr

/-- When something that stands at the new name is replaced. -/
inductive Replacing where
  /-- Always. -/
  | always
  /-- If it is older. -/
  | older
  /-- Never, which is a failure. -/
  | refuse
  /-- Never. -/
  | skip
  /-- If the answer to a question is yes. -/
  | ask
  deriving DecidableEq, Repr

/-- What is made at the new name. -/
inductive Making where
  /-- A copy. -/
  | copy
  /-- Another name of the same file. -/
  | share
  /-- A link to the source. -/
  | link
  deriving DecidableEq, Repr

/-- The rules that files are copied or moved by. -/
structure Rules where
  /-- Whether files are moved. -/
  moves : Bool := false
  /-- The permission bits of copies, if they are set. -/
  mode : Option (List Mode.Change) := Option.none
  /-- Which links are followed. -/
  follow : Follow := .all
  /-- Whether directories are copied. -/
  isRecursive : Bool := false
  /-- Whether permission bits are kept. -/
  keepsMode : Bool := false
  /-- Whether times are kept. -/
  keepsTimes : Bool := false
  /-- Whether names of one file become names of one file. -/
  keepsLinks : Bool := false
  /-- Whether permission bits are those of new files. -/
  dropsMode : Bool := false
  /-- Whether contents are left out. -/
  isBare : Bool := false
  /-- When something is replaced. -/
  replacing : Replacing := .always
  /-- Whether the old file is removed before the new one is written. -/
  removesFirst : Bool := false
  /-- Whether the old file may be removed if it is in the way. -/
  isForced : Bool := false
  /-- What is made. -/
  making : Making := .copy
  /-- How old entries are kept. -/
  backup : Option Backup := Option.none
  /-- The ending of kept entries. -/
  ending : String := "~"
  /-- Whether it is told what is done. -/
  isVerbose : Bool := false

/-- What has been done so far. -/
structure Progress where
  /-- The sources that were named. -/
  sources : List NodeKey := []
  /-- The entries that were made for named sources. -/
  made : List (List String) := []
  /-- The paths that sources were copied to. -/
  copied : List (NodeKey × String) := []

/-- An action in the course of copying. -/
abbrev Copier := StateT Progress Tool

/-- What processes share is replaced. -/
def Copier.replace (m : Machine) : Copier Unit := modifyThe Machine fun _ => m

namespace Rules

/-- A message about a source and a target. -/
def tell (lead source middle target rest : String) : String :=
  lead ++ Quote.always source ++ middle ++ Quote.always target ++ rest

/-- It is told that a source has gone to a target. -/
def announce (r : Rules) (lead source target : String) (kept : Option String) : Tool Unit :=
  if r.isVerbose then
    out (tell lead source " -> " target (match kept with
      | some path => " (backup: " ++ Quote.always path ++ ")\n"
      | none => "\n"))
  else return

/-- A source is not copied, for a reason. -/
def refuse (message : String) : Copier Bool := do
  complain message
  return false

/-- What comes of a source that is the same node as what stands at its target. -/
inductive Sameness where
  /-- It can be copied. -/
  | free
  /-- Nothing is to be done; whether that is well. -/
  | done (isWell : Bool)
  /-- It cannot be copied. -/
  | clash
  deriving DecidableEq, Repr

/-- Whether a source can be copied onto what stands at its target, which may be the same
node under another name. -/
def sameness (r : Rules) (m : Machine) (source target : String) (s t : Located) : Sameness :=
  let isSame := s.isSame t
  let isSameName := isSameEntry m source target
  let own (path : String) (l : Located) : Located :=
    if r.follow == .none then l else ((Located.look m false path).toOption).getD l
  let sl := own source s
  let tl := own target t
  let isSameLink := if r.follow == .none then isSame else sl.isSame tl
  let names := linkCount m.tree tl.node
  if isSame && r.making == .share then .done true
  else if r.follow == .none && s.node.isLink && t.node.isLink then
    if isSameName then .clash
    else if r.backup.isSome then .free
    else if isSameLink then if r.moves then .clash else .done true
    else .free
  else if r.follow != .none && !isSame then .free
  else if r.follow != .none && sl.node.isLink && tl.node.isLink && r.removesFirst then .free
  else if r.backup.isSome then
    if isSameLink then if isSameName then .clash else .free
    else if !r.moves && r.follow != .none && sl.node.isLink && !tl.node.isLink then .clash
    else .free
  else if (r.moves || r.removesFirst) && tl.node.isLink then .free
  else if (r.moves || r.removesFirst) && isSameLink && 1 < names && !isSameName then
    if r.moves then .clash else .free
  else if !sl.node.isLink && !tl.node.isLink && !sl.isSame tl then .free
  else if r.making == .link && tl.node.isLink then .free
  else if r.follow == .none then
    match Located.look m true source, Located.look m true target with
    | .ok a, .ok b =>
      if !a.isSame b then .free
      else if r.making == .share then if tl.node.isLink then .free else .done true
      else .clash
    | _, _ => .free
  else .clash

/-- The permission bits of a copy of a node. -/
def modeFor (r : Rules) (t : FileTree) (n : Node) : Nat :=
  match r.mode with
  | some changes => Mode.apply false 0 changes 0
  | none =>
    if r.keepsMode then n.about.mode
    else
      let bits := if r.dropsMode then if n.isDirectory then 0o777 else 0o666
        else n.about.mode &&& 0o777
      Mode.without bits t.mask

/-- A copy gets the attributes that are kept; a new copy also gets its permission bits. -/
def dress (r : Rules) (isNew : Bool) (n : Node) (place : List String) (m : Machine) : Machine :=
  amend m place fun a =>
    let a := if isNew || r.keepsMode || r.mode.isSome then { a with mode := r.modeFor m.tree n }
      else a
    if r.keepsTimes then { a with modified := n.about.modified, accessed := n.about.accessed }
    else a

/-- The contents of a file are written at a target, which is new or not. -/
def copyContents (r : Rules) (isNew : Bool) (source target : String) (n : Node) :
    Copier Bool := do
  let m ← getThe Machine
  match FileTree.readNode n with
  | .error fault => refuse ("error reading " ++ Quote.always source ++ ": " ++ fault.words)
  | .ok bytes =>
    if isNew && m.names target then
      return ← refuse ("not writing through dangling symlink " ++ Quote.always target)
    let bytes := if r.isBare then Octets.toBytes (if isNew then ""
      else (m.read target).toOption.getD "") else bytes
    match m.tree.create (Octets.toText target) with
    | .error fault =>
      let fault := if fault == .isDirectory && Path.endsWithSlash target then .notDirectory
        else fault
      refuse ("cannot create regular file " ++ Quote.always target ++ ": " ++ fault.words)
    | .ok (t, place) =>
      match t.append place bytes with
      | .error fault => refuse ("error writing " ++ Quote.always target ++ ": " ++ fault.words)
      | .ok t =>
        modifyThe Machine fun m => r.dress isNew n place (m.withTree t)
        return true

/-- A node that is no file and no directory is put at a target. -/
def copyNode (r : Rules) (words target : String) (n : Node) : Copier Bool := do
  let m ← getThe Machine
  match newPlace m target with
  | .error fault =>
    refuse ("cannot create " ++ words ++ " " ++ Quote.always target ++ ": " ++ fault.words)
  | .ok place =>
    if Path.endsWithSlash target then
      refuse ("cannot create " ++ words ++ " " ++ Quote.always target ++ ": " ++
        FileFault.notFound.words)
    else
      let fresh := n.withAbout (m.tree.newAttributes 0o777)
      let m := m.withTree (m.tree.put place fresh)
      Copier.replace (if n.isLink then
          amend m place fun a => { a with
            mode := 0o777
            modified := if r.keepsTimes then n.about.modified else a.modified
            accessed := if r.keepsTimes then n.about.accessed else a.accessed }
        else r.dress true n place m)
      return true

/-- A link to the source is put at a target. -/
def linkTo (r : Rules) (source target : String) : Copier Bool := do
  let m ← getThe Machine
  if source.toList.head? != some '/' && directoryName target != "." then
    refuse (Quote.ifNeeded target ++ ": can make relative symbolic links only in current directory")
  else
    let words := "cannot create symbolic link " ++ Quote.always target ++ " to " ++
      Quote.always source ++ ": "
    match newPlace m target with
    | .error fault => refuse (words ++ fault.words)
    | .ok place =>
      if m.names target && !r.isForced then refuse (words ++ FileFault.alreadyExists.words)
      else
        let fresh := Node.link (Octets.toText source)
          { m.tree.newAttributes 0o777 with mode := 0o777 }
        Copier.replace (m.withTree (m.tree.put place fresh))
        return true

/-- The source gets another name. -/
def shareTo (r : Rules) (source target : String) (s : Located) : Copier Bool := do
  let m ← getThe Machine
  let words := tell "cannot create hard link " target " to " source ": "
  match newPlace m target with
  | .error fault => refuse (words ++ fault.words)
  | .ok place =>
    if m.names target && !r.isForced then refuse (words ++ FileFault.alreadyExists.words)
    else
      let m := if m.names target then m.removeAt place else m
      Copier.replace (shareAt m s.place place)
      return true

/-- A source is renamed. -/
def rename (r : Rules) (source target : String) (kept : Option String) : Copier Bool := do
  let m ← getThe Machine
  let fault (words : String) : Copier Bool :=
    refuse (tell "cannot move " source " to " target (": " ++ words))
  match Located.look m false source, newPlace m target with
  | .error f, _ => refuse ("cannot stat " ++ Quote.always source ++ ": " ++ f.words)
  | _, .error f => fault f.words
  | .ok s, .ok place =>
    let isBelow := s.place.isPrefixOf place
    if isBelow && s.place != place then
      refuse (tell "cannot move " source " to a subdirectory of itself, " target "")
    else if s.place.isEmpty then fault FileFault.busy.words
    else if s.node.isDirectory && place.isPrefixOf s.place then
      refuse ("cannot overwrite " ++ Quote.always target ++ ": " ++ FileFault.notEmpty.words)
    else match m.tree.root.get? place with
      | some (.directory (_ :: _) _) =>
        refuse ("cannot overwrite " ++ Quote.always target ++ ": " ++ FileFault.notEmpty.words)
      | there =>
        if there.isNone && Path.endsWithSlash target && !s.node.isDirectory then
          fault FileFault.notDirectory.words
        else
          Copier.replace (m.moveAt s.place place)
          r.announce "renamed " source target kept
          return true

/-- What stands at a target, as far as it matters for a source. -/
def there (r : Rules) (m : Machine) (target : String) (n : Node) : Except FileFault Located :=
  let isPlain := match n with
    | .file _ _ => true
    | .directory _ _ | .link _ _ => false
    | _ => !r.isRecursive
  let followsLast := isPlain && !(r.moves || r.making != .copy || r.backup.isSome ||
    r.removesFirst)
  Located.look m followsLast target

/-- The old entry is kept under another name; the path of it. -/
def keep (r : Rules) (b : Backup) (target : String) (t : Located) : Copier String := do
  let m ← getThe Machine
  let path := b.path m r.ending target
  match newPlace m path with
  | .ok place =>
    Copier.replace (m.moveAt t.place place)
    return path
  | .error _ => return path

/-- The old entry at a target is made to give way to a source, if it has to. It tells what
to do: whether the entry is new, and where the old one is kept; or the answer, if there is
nothing to be done. -/
def clear (r : Rules) (isNamed : Bool) (source target : String) (s t : Located) :
    Copier (Except Bool (Bool × Option String)) := do
  let m ← getThe Machine
  let no (message : String) : Copier (Except Bool (Bool × Option String)) := do
    complain message
    return .error false
  let isSkipping := r.replacing == .refuse || r.replacing == .skip
  let same := if isSkipping then Sameness.free else r.sameness m source target s t
  match same with
  | .clash => no (tell "" source " and " target " are the same file")
  | .done isWell => return .error isWell
  | .free =>
    let isOlder := r.replacing == .older && !s.node.isDirectory &&
      s.node.about.modified ≤ t.node.about.modified
    if isOlder then return .error true
    let isSource := !s.node.isDirectory || r.moves
    if isSource && r.replacing == .refuse then
      return ← no ("not replacing " ++ Quote.always target)
    if isSource && r.replacing == .skip then return .error true
    if isSource && r.replacing == .ask then
      err ((← name) ++ ": overwrite " ++ Quote.always target ++ "? ")
      let answer ← Tool.answer
      if !answer then return .error false
    let isKept := r.moves && r.backup.isSome
    if !t.node.isDirectory && s.node.isDirectory && !isKept then
      return ← no (tell "cannot overwrite non-directory " target " with directory " source "")
    if !t.node.isDirectory && isNamed && r.backup != some .numbered &&
        (← get).made.contains t.place then
      return ← no (tell "will not overwrite just-created " target " with " source "")
    if !s.node.isDirectory && t.node.isDirectory && !isKept then
      return ← no ("cannot overwrite directory " ++ Quote.always target ++ " with non-directory")
    let base := lastName source
    match r.backup with
    | some b =>
      if base != "." && base != ".." && (r.moves || !t.node.isDirectory) then
        if b != .numbered && b.path m r.ending target == source then
          return ← no (tell "backing up " target " might destroy source;  " source
            (if r.moves then " not moved" else " not copied"))
        return .ok (true, some (← r.keep b target t))
      return .ok (false, none)
    | none =>
      let removes := !t.node.isDirectory && !r.moves && (r.removesFirst ||
        (r.keepsLinks && 1 < linkCount m.tree t.node) ||
        (r.follow == .none && !s.node.isFile))
      if removes then
        Copier.replace (m.removeAt t.place)
        if r.isVerbose then out ("removed " ++ Quote.always target ++ "\n")
        return .ok (true, none)
      return .ok (false, none)

/-- The source gets the name that another name of it was copied to. -/
def joinCopies (r : Rules) (earlier target : String) : Copier Bool := do
  let m ← getThe Machine
  match m.locateSelf earlier, newPlace m target with
  | .ok old, .ok place =>
    let m := if m.names target then m.removeAt place else m
    Copier.replace (shareAt m old place)
    if r.isVerbose then
      out ("removed " ++ Quote.always target ++ "\n")
    return true
  | _, _ => return true

/-- A directory is made for a copy. -/
def copyDirectory (r : Rules) (source target : String) (s : Located) : Copier Bool := do
  let m ← getThe Machine
  match m.tree.makeDirectory (Octets.toText target) with
  | .error fault =>
    refuse ("cannot create directory " ++ Quote.always target ++ ": " ++ fault.words)
  | .ok t =>
    Copier.replace (m.withTree t)
    r.announce "" source target Option.none
    match t.locate (Octets.toText target) with
    | .ok place => modify fun p => { p with copied := (nodeKey place s.node, target) :: p.copied }
    | .error _ => pure ()
    return true

/-- A source is copied to a target, at most `depth` levels down, in the course of copying
`top`. The directories `above` are being copied. -/
def copyEntry (r : Rules) (top : String × String) : Nat → List (List String) → Bool → String →
    String → Copier Bool
  | 0, _, _, _, _ => return true
  | depth + 1, above, isNamed, source, target => do
    let m ← getThe Machine
    let follows := r.follow == .all || (r.follow == .named && isNamed)
    match Located.look m follows source with
    | .error fault => refuse ("cannot stat " ++ Quote.always source ++ ": " ++ fault.words)
    | .ok s =>
      if s.node.isDirectory && !r.isRecursive then
        return ← refuse ((if r.mode.isSome then "" else "-r not specified; ") ++
          "omitting directory " ++ Quote.always source)
      if isNamed then
        if !s.node.isDirectory && r.backup.isNone && (← get).sources.contains s.key then
          complain ("warning: source file " ++ Quote.always source ++ " specified more than once")
          return true
        modify fun p => { p with sources := s.key :: p.sources }
      let plan ← match r.there m target s.node with
        | .ok t => r.clear isNamed source target s t
        | .error .notFound => pure (.ok (true, Option.none))
        | .error fault => do
          complain ("cannot stat " ++ Quote.always target ++ ": " ++ fault.words)
          pure (.error false)
      match plan with
      | .error answer => return answer
      | .ok (isNew, kept) =>
        let record : Copier Unit := do
          if isNamed then
            match (← getThe Machine).locateSelf target with
            | .ok place => modify fun p => { p with made := place :: p.made }
            | .error _ => pure ()
        if r.moves then
          let isWell ← r.rename source target kept
          if isWell then record
          return isWell
        if !s.node.isDirectory then r.announce "" source target kept
        let known := ((← get).copied.find? fun c => c.1 == s.key).map fun c => c.2
        let remembers := if s.node.isDirectory then r.isRecursive && isNamed
          else r.keepsLinks && r.making != .share && (1 < linkCount m.tree s.node || follows)
        if remembers && known.isNone then
          modify fun p => { p with copied := (s.key, target) :: p.copied }
        let now ← getThe Machine
        match known with
        | some earlier =>
          if s.node.isDirectory then
            if isSameEntry now source earlier then
              return ← refuse (tell "cannot copy a directory, " top.1 ", into itself, " top.2 "")
            else if isSameEntry now target earlier then
              complain ("warning: source directory " ++ Quote.always top.1 ++
                " specified more than once")
              return true
          else if remembers then
            let isWell ← r.joinCopies earlier target
            record
            return isWell
        | none => pure ()
        if above.contains s.place then
          return ← refuse ("cannot copy cyclic symbolic link " ++ Quote.always source)
        let isWell ← match s.node with
          | .directory _ _ =>
            let isMade ← if isNew then r.copyDirectory source target s else pure true
            if !isMade then pure false
            else
              let names := match (← getThe Machine).tree.root.get? s.place with
                | some (.directory es _) => es.map fun (e : String × Node) => Octets.ofText e.1
                | _ => []
              let answers ← names.mapM fun name =>
                r.copyEntry top depth (s.place :: above) false (entryPath source name)
                  (entryPath target name)
              match (← getThe Machine).locate target with
              | .ok place => modifyThe Machine (r.dress isNew s.node place)
              | .error _ => pure ()
              pure (answers.all id)
          | .file _ _ =>
            match r.making with
            | .link => r.linkTo source target
            | .share => r.shareTo source target s
            | .copy => r.copyContents isNew source target s.node
          | node =>
            match r.making, node with
            | .link, _ => r.linkTo source target
            | .share, _ => r.shareTo source target s
            | .copy, .link _ _ => r.copyNode "symbolic link" target node
            | .copy, .pipe _ _ =>
              if r.isRecursive then r.copyNode "fifo" target node
              else r.copyContents isNew source target node
            | .copy, _ =>
              if r.isRecursive then r.copyNode "special file" target node
              else r.copyContents isNew source target node
        if isWell then record
        return isWell

/-- A named source is copied. -/
def copyNamed (r : Rules) (source target : String) : Copier Bool :=
  r.copyEntry (source, target) FileTree.maxPath [] true source target

end Rules

/-- The sources and the directory or the name that they go to. -/
inductive Destination where
  /-- They go into a directory. -/
  | inside (sources : List String) (directory : String)
  /-- One of them gets a name. -/
  | named (source target : String)
  deriving DecidableEq, Repr

/-- The options for the place that sources go to. -/
def destinationFlags : List Flag :=
  [{ letter := 't', word := "target-directory", takes := .required },
    { letter := 'T', word := "no-target-directory" }]

/-- Where the operands go; a failure is reported. -/
def destination (p : Parsed) : Tool (Except Nat Destination) := do
  let m ← get
  let fault (path : String) : String :=
    match m.find path with
    | .ok _ => FileFault.notDirectory.words
    | .error f => f.words
  match p.get? 't', p.operands.reverse with
  | _, [] => return .error (← misuse 1 "missing file operand")
  | some directory, _ =>
    if p.has 'T' then
      return .error (← fail 1
        "cannot combine --target-directory (-t) and --no-target-directory (-T)")
    else if m.isDirectory directory then return .ok (.inside p.operands directory)
    else return .error (← fail 1
      ("target directory " ++ Quote.always directory ++ ": " ++ fault directory))
  | none, [one] =>
    return .error (← misuse 1 ("missing destination file operand after " ++ Quote.always one))
  | none, target :: sources =>
    match p.has 'T', sources.reverse with
    | true, [source] => return .ok (.named source target)
    | true, _ =>
      return .error (← misuse 1 ("extra operand " ++ Quote.always (p.operands.getD 2 "")))
    | false, sources =>
      if m.isDirectory target then return .ok (.inside sources target)
      else match sources with
        | [source] => return .ok (.named source target)
        | _ => return .error (← fail 1 ("target " ++ Quote.always target ++ ": " ++ fault target))

/-- The name that a source gets in a directory. -/
def nameInside (source : String) : String :=
  let name := withoutSlashes (lastName source)
  if name == ".." then "." else if name == "/" then "" else name

/-- The directories on the way to a source are made below a directory, with the permission
bits that they have. -/
def copyParents (r : Rules) (directory source : String) : Tool (Option Unit) := do
  let names := (directoryName source).splitOn "/" |>.filter fun n => !n.isEmpty && n != "."
  let steps := (List.range names.length).map fun i => names.take (i + 1)
  let lead := if source.toList.head? == some '/' then "/" else ""
  for step in steps do
    let path := "/".intercalate step
    let target := entryPath directory path
    let m ← get
    if m.isDirectory target then continue
    else match m.find (lead ++ path) with
      | .error fault =>
        complain ("failed to get attributes of " ++ Quote.always (lead ++ path) ++ ": " ++
          fault.words)
        return none
      | .ok n =>
        match m.tree.makeDirectory (Octets.toText target) with
        | .error fault =>
          complain ("cannot make directory " ++ Quote.always target ++ ": " ++ fault.words)
          return none
        | .ok t =>
          set (m.withTree t)
          if r.isVerbose then out (lead ++ path ++ " -> " ++ target ++ "\n")
          match t.locate (Octets.toText target) with
          | .ok place => modify (r.dress true n place)
          | .error _ => pure ()
  return some ()

/-- The sources are copied or moved to where they go. -/
def transfer (r : Rules) (strips hasParents : Bool) (d : Destination) : Tool Nat := do
  let strip (path : String) : String := if strips then withoutSlashes path else path
  let action : Copier Bool := match d with
    | .named source target => r.copyNamed (strip source) target
    | .inside sources directory => do
      let answers ← sources.mapM fun source => do
        let source := strip source
        if hasParents then
          let path := withoutSlashes source
          match ← copyParents r directory path with
          | some () =>
            r.copyNamed source (entryPath directory (String.ofList
              (path.toList.dropWhile fun c => c == '/')))
          | none => return false
        else r.copyNamed source (entryPath directory (nameInside source))
      return answers.all id
  let (isWell, _) ← action.run {}
  return if isWell then 0 else 1

/-- The options that copying and moving share. -/
def transferFlags : List Flag :=
  backupFlags ++ destinationFlags ++ [{ letter := 'f', word := "force" },
    { letter := 'i', word := "interactive" }, { letter := 'n', word := "no-clobber" },
    { letter := '\x01', word := "strip-trailing-slashes" }, { letter := 'u' },
    { letter := '\x02', word := "update", takes := .optional },
    { letter := 'v', word := "verbose" }, { letter := '\x03', word := "debug" },
    { letter := 'Z', word := "context", takes := .optional }]

/-- When something is replaced, by the options. -/
def replacingOf (p : Parsed) : Replacing :=
  let older (word : String) : Replacing := match word with
    | "all" => .always
    | "none" => .skip
    | "none-fail" => .refuse
    | _ => .older
  p.options.foldl (fun r o => match o.1 with
    | 'n' => .refuse
    | 'i' => .ask
    | 'f' => if r == .ask then .always else r
    | 'u' => if r == .always then .older else r
    | '\x02' => if r == .refuse then r else older o.2
    | _ => r) .always

/-- The attributes that words separated by commas name. -/
def attributeWords (text : String) : List String := text.splitOn ","

/-- The rules after some attributes have been named that are kept or not. -/
def keepAttributes (keeps : Bool) (r : Rules) (words : List String) : Rules :=
  words.foldl (fun r w => match w with
    | "mode" => { r with
      keepsMode := keeps
      dropsMode := !keeps }
    | "timestamps" => { r with keepsTimes := keeps }
    | "links" => { r with keepsLinks := keeps }
    | "all" => { r with
      keepsMode := keeps
      dropsMode := !keeps
      keepsTimes := keeps
      keepsLinks := keeps }
    | _ => r) r

/-- The rules of copying after an option. -/
def copyOption (r : Rules) (o : Char × String) : Rules :=
  match o.1 with
  | 'a' => { r with
    follow := .none
    isRecursive := true
    keepsMode := true
    keepsTimes := true
    keepsLinks := true }
  | 'd' => { r with
    follow := .none
    keepsLinks := true }
  | 'f' => { r with isForced := true }
  | 'H' => { r with follow := .named }
  | 'l' => { r with making := .share }
  | 'L' => { r with follow := .all }
  | 'P' => { r with follow := .none }
  | 'p' => { r with
    keepsMode := true
    keepsTimes := true }
  | 'R' | 'r' => { r with isRecursive := true }
  | 's' => { r with making := .link }
  | '\x04' => keepAttributes true r
    (if o.2.isEmpty then ["mode", "timestamps"] else attributeWords o.2)
  | '\x05' => keepAttributes false r (attributeWords o.2)
  | '\x07' => { r with isBare := true }
  | '\x08' => { r with removesFirst := true }
  | 'v' => { r with isVerbose := true }
  | _ => r

/-- Copies files. -/
def cp : Tool Nat :=
  withOptions (transferFlags ++ [{ letter := 'a', word := "archive" }, { letter := 'd' },
      { letter := 'H' }, { letter := 'l', word := "link" },
      { letter := 'L', word := "dereference" }, { letter := 'P', word := "no-dereference" },
      { letter := 'p' }, { letter := '\x04', word := "preserve", takes := .optional },
      { letter := '\x05', word := "no-preserve", takes := .required },
      { letter := '\x06', word := "parents" }, { letter := 'R', word := "recursive" },
      { letter := 'r' }, { letter := 's', word := "symbolic-link" },
      { letter := 'x', word := "one-file-system" },
      { letter := '\x07', word := "attributes-only" },
      { letter := '\x08', word := "remove-destination" },
      { letter := '\x0b', word := "sparse", takes := .required },
      { letter := '\x0c', word := "reflink", takes := .optional },
      { letter := '\x0e', word := "copy-contents" }]) 1 fun p => do
    match ← backupOf p with
    | .error code => return code
    | .ok (backup, ending) =>
      if p.has 'n' then
        complain ("warning: behavior of -n is non-portable and may change in future; " ++
          "use --update=none instead")
      let r := p.options.foldl copyOption
        { replacing := match replacingOf p with
            | .refuse => .skip
            | other => other
          backup := backup
          ending := ending }
      let isFollowSaid := p.options.any fun o => "HLPad".toList.contains o.1
      let r := if isFollowSaid then r
        else if r.isRecursive then { r with follow := .none }
        else if r.making == .share then { r with follow := .none }
        else r
      if r.making == .link && p.has 'l' && p.has 's' then
        misuse 1 "cannot make both hard and symbolic links"
      else if p.has '\x10' && p.has 'n' then
        misuse 1 "options --backup and --no-clobber are mutually exclusive"
      else match ← destination p with
        | .error code => return code
        | .ok (.named source target) =>
          if p.has '\x06' then
            misuse 1 "with --parents, the destination must be a directory"
          else transfer r (p.has '\x01') false (.named source target)
        | .ok d => transfer r (p.has '\x01') (p.has '\x06') d

/-- Moves files. -/
def mv : Tool Nat :=
  withOptions (transferFlags ++ [{ letter := '\x04', word := "exchange" },
      { letter := '\x05', word := "no-copy" }]) 1 fun p => do
    match ← backupOf p with
    | .error code => return code
    | .ok (backup, ending) =>
      let r : Rules := {
        moves := true
        follow := .none
        isRecursive := true
        replacing := replacingOf p
        backup := backup
        ending := ending
        isVerbose := p.has 'v' }
      if (p.has 'b' || p.has '\x10') && r.replacing == .refuse then
        misuse 1 "options --backup and --no-clobber are mutually exclusive"
      else match ← destination p with
        | .error code => return code
        | .ok d => transfer r (p.has '\x01') false d

/-- A directory and those above it are made for files that are put there; a failure is
reported. -/
def installDirectory (isVerbose : Bool) (mode : Nat) (path : String) : Tool Nat := do
  let steps := pathsDown path
  let mut code := 0
  for step in steps do
    if code == 0 && !(← get).isDirectory step then
      let m ← get
      match m.tree.makeDirectoryWith 0o755 (Octets.toText step) with
      | .error fault =>
        let fault := if m.holds step then FileFault.alreadyExists else fault
        code := ← fail 1 ("cannot create directory " ++ Quote.inWords step ++ ": " ++ fault.words)
      | .ok t =>
        set (m.withTree t)
        if isVerbose then
          out ((← name) ++ ": creating directory " ++ Quote.always step ++ "\n")
  if code == 0 then
    modify fun m => match m.locate path with
      | .ok place => amend m place fun a => { a with mode := mode }
      | .error _ => m
  return code

/-- Copies files to where they are used, with bits that let them be run. -/
def install : Tool Nat :=
  withOptions (backupFlags ++ destinationFlags ++ [{ letter := 'c' },
      { letter := 'C', word := "compare" }, { letter := 'd', word := "directory" },
      { letter := 'D' }, { letter := 'g', word := "group", takes := .required },
      { letter := 'm', word := "mode", takes := .required },
      { letter := 'o', word := "owner", takes := .required },
      { letter := 'p', word := "preserve-timestamps" }, { letter := 's', word := "strip" },
      { letter := 'v', word := "verbose" }]) 1 fun p => do
    match ← backupOf p, Mode.read? ((p.get? 'm').getD "755") with
    | .error code, _ => return code
    | _, none => fail 1 ("invalid mode " ++ Quote.always ((p.get? 'm').getD ""))
    | .ok (backup, ending), some changes =>
      let isVerbose := p.has 'v'
      if p.has 'd' then
        if p.operands.isEmpty then return ← misuse 1 "missing file operand"
        if p.has 't' then
          return ← fail 1 "target directory not allowed when installing a directory"
        let mode := Mode.apply true 0 changes 0
        return ← each p.operands (installDirectory isVerbose mode)
      let lead ← match p.has 'D', p.get? 't', p.operands with
        | true, some directory, _ :: _ =>
          if (← get).isDirectory directory then pure 0
          else installDirectory isVerbose 0o755 directory
        | true, none, [_, target] =>
          let above := directoryName target
          if (← get).isDirectory above then pure 0 else installDirectory isVerbose 0o755 above
        | _, _, _ => pure 0
      if lead != 0 then return lead
      match ← destination p with
      | .error code => return code
      | .ok d =>
        let r : Rules := {
          mode := some changes
          backup := backup
          ending := ending
          removesFirst := true
          keepsTimes := p.has 'p'
          isVerbose := isVerbose }
        transfer r false false d

end CompileOrder.Shell.Utility
