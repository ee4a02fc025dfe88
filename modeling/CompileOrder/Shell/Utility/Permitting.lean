import CompileOrder.Shell.Mode
import CompileOrder.Shell.Utility.Accounts
import CompileOrder.Shell.Utility.Entry

/-!
# Changing permissions and owners

The permission bits, the owner and the group of files are changed, also of all that is
below a directory. It can be told what has been changed.
-/

namespace CompileOrder.Shell.Utility

open Tool

/-- The paths at and below a path, at most `depth` levels down; links are not followed
except at its start. A directory stands before or after what is in it. -/
def pathsBelow (m : Machine) (isAfter : Bool) : Nat → Bool → String → List String
  | 0, _, path => [path]
  | depth + 1, isNamed, path =>
    match if isNamed then m.find path else m.findSelf path with
    | .ok (.directory es _) =>
      let inner := es.flatMap fun e =>
        pathsBelow m isAfter depth false (entryPath path (Octets.ofText e.1))
      if isAfter then inner ++ [path] else path :: inner
    | _ => [path]

/-- How much is told about changes. -/
inductive Telling where
  /-- Nothing. -/
  | nothing
  /-- What has been changed. -/
  | changes
  /-- Everything. -/
  | all
  deriving DecidableEq, Repr

/-- How much is told, by the options. -/
def tellingOf (p : Parsed) : Telling :=
  match p.last? "cv" with
  | some 'c' => .changes
  | some _ => .all
  | none => .nothing

/-- Whether a word gives permission bits although it begins with a hyphen. -/
def isModeWord (word : String) : Bool :=
  match word.toList with
  | '-' :: c :: _ => "rwxXstugoa,+=01234567".toList.contains c
  | _ => false

/-- The words that give permission bits, and the others. -/
def splitModes : List String → List String × List String
  | [] => ([], [])
  | "--" :: rest => ([], "--" :: rest)
  | word :: rest =>
    let (modes, others) := splitModes rest
    if isModeWord word then (word :: modes, others) else (modes, word :: others)

/-- The bits of a node are changed; `isSurprising` tells that bits which new files do not
get may keep the change from being made as it reads. -/
def changeMode (telling : Telling) (isQuiet isSurprising : Bool)
    (changes : List Mode.Change) (path : String) (isNamed : Bool) : Tool Nat := do
  let m ← get
  let quoted := Quote.always path
  let shown (mode : Nat) : String := Mode.octalText 4 mode ++ " (" ++ Mode.letters mode ++ ")"
  match m.findSelf path, m.locate path with
  | .ok (.link _ _), .error .notFound =>
    if !isQuiet then complain ("cannot operate on dangling symlink " ++ quoted)
    if telling == .all then out (quoted ++ " could not be accessed\n")
    return 1
  | .ok (.link _ _), _ =>
    if isNamed then apply m quoted shown else
      if telling == .all then
        out ("neither symbolic link " ++ quoted ++ " nor referent has been changed\n")
      return 0
  | .error fault, _ =>
    if !isQuiet then complain ("cannot access " ++ quoted ++ ": " ++ fault.words)
    if telling == .all then out (quoted ++ " could not be accessed\n")
    return 1
  | .ok _, _ => apply m quoted shown
where
  /-- The bits of the node that the path leads to are changed. -/
  apply (m : Machine) (quoted : String) (shown : Nat → String) : Tool Nat := do
    match m.find path, m.locate path with
    | .ok node, .ok place =>
      let old := node.about.mode
      let new := Mode.apply node.isDirectory m.tree.mask changes old
      set (amend m place fun a => { a with mode := new })
      if new != old then
        if telling != .nothing then
          out ("mode of " ++ quoted ++ " changed from " ++ shown old ++ " to " ++ shown new ++ "\n")
      else if telling == .all then
        out ("mode of " ++ quoted ++ " retained as " ++ shown new ++ "\n")
      let expected := Mode.apply node.isDirectory 0 changes old
      if isSurprising && Mode.without new expected != 0 then
        fail 1 (Quote.ifNeeded path ++ ": new permissions are " ++ Mode.letters new ++ ", not " ++
          Mode.letters expected)
      else return 0
    | .error fault, _ | _, .error fault =>
      fail 1 ("cannot access " ++ quoted ++ ": " ++ fault.words)

/-- Changes the permission bits of files. -/
def chmod : Tool Nat := do
  let (modes, words) := splitModes (← args)
  match Flag.parse [{ letter := 'c', word := "changes" }, { letter := 'f', word := "silent" },
      { letter := 'f', word := "quiet" }, { letter := 'v', word := "verbose" },
      { letter := 'R', word := "recursive" }, { letter := '\x02', word := "preserve-root" },
      { letter := '\x03', word := "no-preserve-root" },
      { letter := '\x01', word := "reference", takes := .required }] words with
  | .error message => misuse 1 message
  | .ok p =>
    let m ← get
    let given := if modes.isEmpty then none else some (",".intercalate modes)
    let (text, paths) := match given, p.has '\x01', p.operands with
      | some text, _, paths => (text, paths)
      | none, true, paths => ("", paths)
      | none, false, text :: paths => (text, paths)
      | none, false, [] => ("", [])
    if paths.isEmpty then
      if text.isEmpty || p.operands.isEmpty then misuse 1 "missing operand"
      else misuse 1 ("missing operand after " ++ Quote.inWords text)
    else
      let changes ← match p.get? '\x01' with
        | some path =>
          match m.find path with
          | .ok n => pure (some [(⟨'=', Mode.all, n.about.mode, .given, Mode.all⟩ : Mode.Change)])
          | .error fault =>
            complain ("failed to get attributes of " ++ Quote.always path ++ ": " ++ fault.words)
            return 1
        | none => pure (Mode.read? text)
      match changes with
      | none => misuse 1 ("invalid mode: " ++ Quote.inWords text)
      | some changes =>
        let start ← get
        let all := if p.has 'R' then
            paths.flatMap fun path => (pathsBelow start false FileTree.maxPath true path).map
              fun q => (q, q == path)
          else paths.map fun path => (path, true)
        each all fun (path, isNamed) =>
          changeMode (tellingOf p) (p.has 'f') given.isSome changes path isNamed

/-- An owner and a group, either of which may be left out. -/
structure Ownership where
  /-- The owner. -/
  owner : Option Nat
  /-- The group. -/
  group : Option Nat
  deriving DecidableEq, Repr

namespace Ownership

/-- The owner and the group that a text with a colon names, or what is wrong with it. -/
def read (text : String) : Except String Ownership :=
  let cs := text.toList
  let user := String.ofList (cs.takeWhile fun c => c != ':')
  let rest := cs.drop user.length
  match rest with
  | [] =>
    if user.isEmpty then .ok ⟨none, none⟩
    else match Accounts.read? Accounts.users user with
      | some n => .ok ⟨some n, none⟩
      | none => .error ("invalid user: " ++ Quote.inWords text)
  | _ :: group =>
    let group := String.ofList group
    let owner? := if user.isEmpty then some none
      else (Accounts.read? Accounts.users user).map some
    match owner? with
    | none => .error ("invalid user: " ++ Quote.inWords text)
    | some owner =>
      if group.isEmpty then .ok ⟨owner, owner.map Accounts.groupOf⟩
      else match Accounts.read? Accounts.groups group with
        | some n => .ok ⟨owner, some n⟩
        | none => .error ("invalid group: " ++ Quote.inWords text)

/-- The text of an owner and a group. -/
def text (o : Ownership) : String :=
  let user := o.owner.map (Accounts.nameOrDigits Accounts.users)
  let group := o.group.map (Accounts.nameOrDigits Accounts.groups)
  match user, group with
  | some u, some g => u ++ ":" ++ g
  | some u, none => u
  | none, some g => g
  | none, none => ""

/-- What is changed by this, in words. -/
def subject (o : Ownership) : String :=
  if o.owner.isSome then "ownership" else if o.group.isSome then "group"
    else "no change to ownership"

/-- The owner and the group of a node are changed. -/
def apply (o : Ownership) (telling : Telling) (isQuiet followsLast : Bool) (path : String) :
    Tool Nat := do
  let m ← get
  let quoted := Quote.always path
  match Located.look m followsLast path with
  | .error fault =>
    let isDangling := followsLast && m.names path
    if !isQuiet then
      if isDangling then
        complain ("cannot dereference " ++ quoted ++ ": " ++ fault.words)
      else complain ("cannot access " ++ quoted ++ ": " ++ fault.words)
    if telling == .all then
      out ("failed to change " ++ o.subject ++ " of " ++ quoted ++
        (if o.text.isEmpty then "" else " to " ++ o.text) ++ "\n")
    return 1
  | .ok l =>
    let a := l.node.about
    let old : Ownership := ⟨o.owner.map fun _ => a.owner, o.group.map fun _ => a.group⟩
    set (amend m l.place fun a =>
      { a with
        owner := o.owner.getD a.owner
        group := o.group.getD a.group })
    let isChanged := old != o
    if isChanged then
      if telling != .nothing then
        out ("changed " ++ o.subject ++ " of " ++ quoted ++ " from " ++ old.text ++ " to " ++
          o.text ++ "\n")
    else if telling == .all then
      out (if o.text.isEmpty then o.subject ++ " of " ++ quoted ++ "\n"
        else o.subject ++ " of " ++ quoted ++ " retained as " ++ o.text ++ "\n")
    return 0

end Ownership

/-- Changes owners or groups, as a reader of the first operand says. -/
def changeOwners (read : String → Except String Ownership) : Tool Nat :=
  withOptions [{ letter := 'c', word := "changes" }, { letter := 'f', word := "silent" },
      { letter := 'f', word := "quiet" }, { letter := 'v', word := "verbose" },
      { letter := 'R', word := "recursive" }, { letter := 'h', word := "no-dereference" },
      { letter := '\x03', word := "dereference" }, { letter := 'H' }, { letter := 'L' },
      { letter := 'P' }, { letter := '\x02', word := "from", takes := .required },
      { letter := '\x04', word := "preserve-root" },
      { letter := '\x05', word := "no-preserve-root" },
      { letter := '\x01', word := "reference", takes := .required }] 1 fun p => do
    let m ← get
    let found ← match p.get? '\x01', p.operands with
      | some path, _ =>
        match m.find path with
        | .ok n =>
          pure (Except.ok (⟨some n.about.owner, some n.about.group⟩, p.operands))
        | .error fault =>
          pure (.error (← fail 1 ("failed to get attributes of " ++ Quote.always path ++ ": " ++
            fault.words)))
      | none, [] => pure (.error (← misuse 1 "missing operand"))
      | none, [one] => pure (.error (← misuse 1 ("missing operand after " ++ Quote.inWords one)))
      | none, text :: paths =>
        match read text with
        | .ok o => pure (.ok ((o : Ownership), paths))
        | .error message => pure (.error (← fail 1 message))
    match found with
    | .error code => return code
    | .ok (o, paths) =>
      if paths.isEmpty then return ← misuse 1 "missing operand"
      let all := if p.has 'R' then paths.flatMap (pathsBelow m true FileTree.maxPath false)
        else paths
      each all (o.apply (tellingOf p) (p.has 'f') (!p.has 'h' && !p.has 'R'))

/-- Changes the owners of files. -/
def chown : Tool Nat := changeOwners Ownership.read

/-- Changes the groups of files. -/
def chgrp : Tool Nat :=
  changeOwners fun text =>
    if text.isEmpty then .ok ⟨none, none⟩
    else match Accounts.read? Accounts.groups text with
      | some n => .ok ⟨none, some n⟩
      | none => .error ("invalid group: " ++ Quote.inWords text)

end CompileOrder.Shell.Utility
