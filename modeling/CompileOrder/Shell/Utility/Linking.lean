import CompileOrder.Shell.Utility.Copying

/-!
# Making links

Another name for a file, or an entry that stands for a path. What has the name already is
replaced only if that is asked for.
-/

namespace CompileOrder.Shell.Utility

open Tool

/-- The rules that links are made by. -/
structure Linking where
  /-- Whether links stand for paths. -/
  isSymbolic : Bool
  /-- Whether the path is one from the directory of the link. -/
  isRelative : Bool
  /-- Whether links are followed to the file that gets another name. -/
  followsLast : Bool
  /-- Whether an entry that is there is removed. -/
  isForced : Bool
  /-- Whether it is asked before an entry is removed. -/
  asks : Bool
  /-- How old entries are kept. -/
  backup : Option Backup
  /-- The ending of kept entries. -/
  ending : String
  /-- Whether it is told what is done. -/
  isVerbose : Bool

namespace Linking

/-- The path from the directory of a link to a source. -/
def fromHere (m : Machine) (source target : String) : String :=
  match place m .nothing source, place m .nothing (directoryName target) with
  | .ok there, .ok here => relativePath here there
  | _, _ => source

/-- The reason for which an entry cannot be made at a path. -/
def fault? (m : Machine) (path : String) : Except FileFault (List String) := do
  let place ← newPlace m path
  if (m.tree.root.get? place).isSome then throw .alreadyExists
  else if Path.endsWithSlash path then throw .notFound
  else return place

/-- A link is made at a place. -/
def make (l : Linking) (m : Machine) (source : String) (place : List String) :
    Except FileFault Machine := do
  if l.isSymbolic then
    if source.isEmpty then throw .notFound
    let link := Node.link (Octets.toText source) { m.tree.newAttributes 0o777 with mode := 0o777 }
    return m.withTree (m.tree.put place link)
  else
    let s ← Located.look m l.followsLast source
    if s.node.isDirectory then throw .notPermitted
    return shareAt m s.place place

/-- The words for a link that could not be made. -/
def failure (l : Linking) (source target : String) (fault : FileFault) : String :=
  let lead := "failed to create " ++ (if l.isSymbolic then "symbolic" else "hard") ++ " link " ++
    Quote.always target
  let both := if l.isSymbolic then fault == .nameTooLong || source.isEmpty
    else fault != .alreadyExists && fault != .noRoom
  lead ++ (if both then (if l.isSymbolic then " -> " else " => ") ++ Quote.always source else "") ++
    ": " ++ fault.words

/-- An entry that stands at the target of a link is made to give way, if it may be. It
tells where it is kept, or the code to end with. -/
def clear (l : Linking) (made : List String) (source target : String) :
    Tool (Except Nat (Option String)) := do
  let m ← get
  let isClearing := l.isForced || l.asks || l.backup.isSome
  match isClearing, Located.look m false target with
  | true, .ok t =>
    if t.node.isDirectory then
      return .error (← fail 1 (Quote.ifNeeded target ++ ": cannot overwrite directory"))
    if made.contains target then
      return .error (← fail 1 (Rules.tell "will not overwrite just-created " target " with "
        source ""))
    let isSame := match Located.look m (l.isSymbolic || l.followsLast) source with
      | .ok s => s.isSame t && (linkCount m.tree s.node == 1 || isSameEntry m source target)
      | .error _ => false
    let isChecked := (l.isForced || (!l.isSymbolic && l.backup.isSome)) &&
      (l.backup.isNone || !l.isSymbolic)
    if isChecked && isSame then
      return .error (← fail 1 (Rules.tell "" source " and " target " are the same file"))
    if l.asks then
      err ((← name) ++ ": replace " ++ Quote.always target ++ "? ")
      if !(← answer) then return .error 1
    match l.backup with
    | some b =>
      let path := b.path (← get) l.ending target
      modify fun m => match newPlace m path with
        | .ok place => m.moveAt t.place place
        | .error _ => m
      return .ok (some path)
    | none => return .ok none
  | true, .error .notFound | false, _ => return .ok none
  | true, .error fault =>
    return .error (← fail 1 ("failed to access " ++ Quote.always target ++ ": " ++ fault.words))

/-- A link to a source is made at a target; `made` are the targets so far. -/
def link (l : Linking) (made : List String) (source target : String) : Tool Nat := do
  let m ← get
  match l.isSymbolic, Located.look m l.followsLast source with
  | false, .error fault => fail 1 ("failed to access " ++ Quote.always source ++ ": " ++
    fault.words)
  | false, .ok ⟨_, .directory _ _⟩ =>
    fail 1 (Quote.ifNeeded source ++ ": hard link not allowed for directory")
  | _, _ =>
    let source := if l.isRelative then fromHere m source target else source
    match ← l.clear made source target with
    | .error code => return code
    | .ok kept =>
      let m ← get
      let isClearing := l.isForced || l.asks || l.backup.isSome
      let place := match fault? m target with
        | .error .alreadyExists => if isClearing then newPlace m target else .error .alreadyExists
        | other => other
      let result := do
        let place ← place
        if (m.tree.root.get? place).isSome then l.make (m.removeAt place) source place
        else l.make m source place
      match result with
      | .error fault => fail 1 (l.failure source target fault)
      | .ok m =>
        set m
        if l.isVerbose then
          let lead := match kept with
            | some path => Quote.always path ++ " ~ "
            | none => ""
          out (lead ++ Rules.tell "" target (if l.isSymbolic then " -> " else " => ") source "\n")
        return 0

/-- Links to some sources are made in a directory. -/
def linkAll (l : Linking) (directory : String) : List String → List String → Tool Nat
  | _, [] => return 0
  | made, source :: rest => do
    let target := entryPath directory (withoutSlashes (lastName source))
    let code ← l.link made source target
    let others ← l.linkAll directory (if code == 0 then target :: made else made) rest
    return Nat.max code others

end Linking

/-- Makes links. -/
def ln : Tool Nat :=
  withOptions (backupFlags ++ destinationFlags ++ [{ letter := 'd', word := "directory" },
      { letter := 'F' }, { letter := 'f', word := "force" },
      { letter := 'i', word := "interactive" }, { letter := 'L', word := "logical" },
      { letter := 'n', word := "no-dereference" }, { letter := 'P', word := "physical" },
      { letter := 'r', word := "relative" }, { letter := 's', word := "symbolic" },
      { letter := 'v', word := "verbose" }]) 1 fun p => do
    match ← backupOf p with
    | .error code => return code
    | .ok (backup, ending) =>
      let l : Linking := {
        isSymbolic := p.has 's'
        isRelative := p.has 'r'
        followsLast := p.last? "LP" == some 'L'
        isForced := p.last? "fi" == some 'f'
        asks := p.last? "fi" == some 'i'
        backup := backup
        ending := ending
        isVerbose := p.has 'v' }
      let m ← get
      let isDirectory (path : String) : Bool :=
        if p.has 'n' then (match m.findSelf path with
          | .ok n => n.isDirectory
          | .error _ => false)
        else m.isDirectory path
      let fault (path : String) : String := match m.find path with
        | .ok _ => FileFault.notDirectory.words
        | .error f => f.words
      match p.operands, p.get? 't' with
      | [], _ => misuse 1 "missing file operand"
      | operands, target? =>
        if l.isRelative && !l.isSymbolic then
          fail 1 "cannot do --relative without --symbolic"
        else if p.has 'T' then
          match operands, target? with
          | _, some _ =>
            fail 1 "cannot combine --target-directory and --no-target-directory"
          | [one], none =>
            misuse 1 ("missing destination file operand after " ++ Quote.always one)
          | [source, target], none => l.link [] source target
          | _, none => misuse 1 ("extra operand " ++ Quote.always (operands.getD 2 ""))
        else match operands, target? with
          | _, some directory =>
            if isDirectory directory then l.linkAll directory [] operands
            else fail 1 ("target " ++ Quote.always directory ++ ": " ++ fault directory)
          | [one], none => l.linkAll "." [] [one]
          | operands, none =>
            let target := operands.getLastD ""
            if isDirectory target then l.linkAll target [] operands.dropLast
            else match operands with
              | [source, target] => l.link [] source target
              | _ => fail 1 ("target " ++ Quote.always target ++ ": " ++ fault target)

/-- Makes one more name for a file. -/
def link : Tool Nat :=
  withOptions [] 1 fun p => do
    match p.operands with
    | [] => misuse 1 "missing operand"
    | [one] => misuse 1 ("missing operand after " ++ Quote.inWords one)
    | _ :: _ :: extra :: _ => misuse 1 ("extra operand " ++ Quote.inWords extra)
    | [source, target] =>
      let m ← get
      let result : Except FileFault Machine := do
        let s ← Located.look m false source
        let place ← Linking.fault? m target
        if s.node.isDirectory then throw .notPermitted
        return shareAt m s.place place
      match result with
      | .ok m =>
        set m
        return 0
      | .error fault =>
        fail 1 (Rules.tell "cannot create link " target " to " source (": " ++ fault.words))

end CompileOrder.Shell.Utility
