import CompileOrder.Shell.Utility.Details
import CompileOrder.Shell.Utility.Entry

/-!
# Removing files

Entries are removed by their names; a link is removed itself and not what it stands for.
Directories go after what is in them, and only if that is asked for.
-/

namespace CompileOrder.Shell.Utility

open Tool

/-- The rules that files are removed by. -/
structure Removal where
  /-- Whether directories are removed with what is in them. -/
  isRecursive : Bool
  /-- Whether empty directories are removed. -/
  takesEmpty : Bool
  /-- Whether what is not there does not matter. -/
  isForced : Bool
  /-- Whether it is asked before anything is removed. -/
  asks : Bool
  /-- Whether it is told what is done. -/
  isVerbose : Bool

namespace Removal

/-- Whether the answer to a question about a path is yes; without a question it is. -/
def confirms (isAsked : Bool) (words path : String) : Tool Bool := do
  if !isAsked then return true
  err ((← name) ++ ": " ++ words ++ " " ++ Quote.always path ++ "? ")
  answer

/-- The entry at a path is removed. -/
def finish (r : Removal) (words path : String) : Tool Nat := do
  match (← get).locateSelf path with
  | .ok place =>
    if Path.endsWithSlash path && !isLinkless (← get) path then
      if r.isForced then return 0
      return ← fail 1 ("cannot remove " ++ Quote.always path ++ ": " ++
        FileFault.notDirectory.words)
    modify fun m => m.removeAt place
    if r.isVerbose then out (words ++ Quote.always path ++ "\n")
    return 0
  | .error _ => return 0
where
  /-- Whether the last name of a path is no link. -/
  isLinkless (m : Machine) (path : String) : Bool :=
    match m.findSelf (withoutSlashes path) with
    | .ok n => !n.isLink
    | .error _ => true

/-- What is at a path, at most `depth` levels down, is removed. -/
def remove (r : Removal) : Nat → String → Tool Nat
  | 0, _ => return 0
  | depth + 1, path => do
    match (← get).findSelf path with
    | .error fault => fail 1 ("cannot remove " ++ Quote.always path ++ ": " ++ fault.words)
    | .ok (.directory es _) =>
      if !(← confirms (r.asks && !es.isEmpty) "descend into directory" path) then return 0
      let code ← each (es.map fun e => Octets.ofText e.1) fun name =>
        r.remove depth (entryPath path name)
      let isLeft := match (← get).findSelf path with
        | .ok (.directory es _) => !es.isEmpty
        | _ => false
      if code != 0 then return code
      if !(← confirms r.asks "remove directory" path) then return 0
      if isLeft then
        fail 1 ("cannot remove " ++ Quote.always path ++ ": " ++ FileFault.notEmpty.words)
      else r.finish "removed directory " path
    | .ok node =>
      if !(← confirms r.asks ("remove " ++ kindText node) path) then return 0
      r.finish "removed " path

/-- What a path names is removed. -/
def removeNamed (r : Removal) (path : String) : Tool Nat := do
  let refuse (fault : FileFault) : Tool Nat :=
    fail 1 ("cannot remove " ++ Quote.always path ++ ": " ++ fault.words)
  let m ← get
  match m.findSelf path, m.locateSelf path with
  | .error fault, _ | _, .error fault =>
    if r.isForced && (fault == .notFound || fault == .notDirectory) then return 0
    refuse fault
  | .ok (.directory es _), .ok place =>
    let last := lastName path
    if r.isRecursive then
      if last == "." || last == ".." then
        fail 1 ("refusing to remove '.' or '..' directory: skipping " ++ Quote.always path)
      else if place.isEmpty then do
        complain "it is dangerous to operate recursively on '/'"
        fail 1 "use --no-preserve-root to override this failsafe"
      else r.remove FileTree.maxPath path
    else if r.takesEmpty then
      if es.isEmpty then r.remove FileTree.maxPath path else refuse .notEmpty
    else refuse .isDirectory
  | .ok _, .ok _ => r.remove 1 path

end Removal

/-- Removes files. -/
def rm : Tool Nat :=
  withOptions [{ letter := 'f', word := "force" }, { letter := 'i' }, { letter := 'I' },
      { letter := '\x01', word := "interactive", takes := .optional },
      { letter := '\x02', word := "one-file-system" },
      { letter := '\x03', word := "no-preserve-root" },
      { letter := '\x04', word := "preserve-root", takes := .optional },
      { letter := 'r', word := "recursive" }, { letter := 'R' }, { letter := 'd', word := "dir" },
      { letter := 'v', word := "verbose" }] 1 fun p => do
    let asking := p.options.foldl (fun a o => match o.1, o.2 with
      | 'f', _ | '\x01', "never" | '\x01', "no" | '\x01', "none" => 'f'
      | 'I', _ | '\x01', "once" => 'I'
      | 'i', _ | '\x01', _ => 'i'
      | _, _ => a) ' '
    let isForced := p.last? "fiI" == some 'f'
    let r : Removal := {
      isRecursive := p.has 'r' || p.has 'R'
      takesEmpty := p.has 'd'
      isForced := isForced
      asks := asking == 'i'
      isVerbose := p.has 'v' }
    let count := p.operands.length
    if count == 0 then
      if isForced then return 0 else return ← misuse 1 "missing operand"
    if asking == 'I' && (r.isRecursive || 3 < count) then
      err ((← name) ++ ": remove " ++ toString count ++
        (if count == 1 then " argument" else " arguments") ++
        (if r.isRecursive then " recursively? " else "? "))
      if !(← answer) then return 0
    each p.operands r.removeNamed

/-- Removes one entry. -/
def unlink : Tool Nat :=
  withOptions [] 1 fun p => do
    match p.operands with
    | [] => misuse 1 "missing operand"
    | _ :: extra :: _ => misuse 1 ("extra operand " ++ Quote.inWords extra)
    | [path] =>
      let m ← get
      let refuse (fault : FileFault) : Tool Nat :=
        fail 1 ("cannot unlink " ++ Quote.always path ++ ": " ++ fault.words)
      match m.findSelf path, m.locateSelf path with
      | .error fault, _ | _, .error fault => refuse fault
      | .ok (.directory _ _), _ => refuse .isDirectory
      | .ok _, .ok place =>
        set (m.removeAt place)
        return 0

/-- A file is written over before it is removed or kept. -/
def overwriteFile (p : Parsed) (passes : Nat) (path : String) : Tool Nat := do
  let m ← get
  let label := Quote.ifNeeded path
  match m.find path, m.locate path with
  | .error fault, _ | _, .error fault =>
    fail 1 (label ++ ": failed to open for writing: " ++ fault.words)
  | .ok (.directory _ _), _ =>
    fail 1 (label ++ ": failed to open for writing: " ++ FileFault.isDirectory.words)
  | .ok node, .ok place =>
    let old := match node with
      | .file bytes _ => bytes
      | _ => []
    let asked := ((p.get? 's').bind fun s => Octets.number? s)
    let length := asked.getD (if p.has 'x' then old.length else (old.length + 4095) / 4096 * 4096)
    let total := passes + if p.has 'z' then 1 else 0
    if p.has 'v' then
      for i in List.range total do
        let what := if i < passes then "random" else "000000"
        complain (label ++ ": pass " ++ toString (i + 1) ++ "/" ++ toString total ++ " (" ++ what ++
          ")...")
    if total != 0 && !old.isEmpty then
      let octet : UInt8 := if p.has 'z' then 0 else 165
      match (← get).writeFile path (List.replicate length octet) with
      | .ok m => set m
      | .error fault => return ← fail 1 (label ++ ": failed to open for writing: " ++ fault.words)
    if p.has 'u' then
      if p.has 'v' then
        complain (label ++ ": removing")
        let folder := String.ofList
          ((path.toList.reverse.dropWhile fun c => c != '/').reverse)
        let size := path.length - folder.length
        let names := (List.range size).map fun i =>
          folder ++ String.ofList (List.replicate (size - i) '0')
        for (before, after) in (path :: names).zip names do
          complain (Quote.ifNeeded before ++ ": renamed to " ++ after)
        complain (label ++ ": removed")
      modify fun m => m.removeAt place
    return 0

/-- Writes over files. -/
def shred : Tool Nat :=
  withOptions [{ letter := 'f', word := "force" },
      { letter := 'n', word := "iterations", takes := .required },
      { letter := '\x01', word := "random-source", takes := .required },
      { letter := 's', word := "size", takes := .required }, { letter := 'u' },
      { letter := 'u', word := "remove", takes := .optional },
      { letter := 'v', word := "verbose" }, { letter := 'x', word := "exact" },
      { letter := 'z', word := "zero" }] 1 fun p => do
    if p.operands.isEmpty then return ← misuse 1 "missing file operand"
    match (p.get? 'n').map fun n => (n, Octets.number? n) with
    | some (n, none) => fail 1 ("invalid number of passes: " ++ Quote.inWords n)
    | passes => each p.operands (overwriteFile p ((passes.bind fun n => n.2).getD 3))

/-- Has files written to their disk, which cannot be seen from outside. -/
def sync : Tool Nat :=
  withOptions [{ letter := 'd', word := "data" }, { letter := 'f', word := "file-system" }] 1
    fun p => do
      if p.has 'd' && p.has 'f' then
        return ← fail 1 "cannot specify both --data and --file-system"
      if p.has 'd' && p.operands.isEmpty then
        return ← fail 1 "--data needs at least one argument"
      each p.operands fun path => do
        match (← get).find path with
        | .ok _ => return 0
        | .error fault => fail 1 ("error opening " ++ Quote.always path ++ ": " ++ fault.words)

/-- Removes empty directories. -/
def rmdir : Tool Nat :=
  withOptions [{ letter := '\x01', word := "ignore-fail-on-non-empty" },
      { letter := 'p', word := "parents" }, { letter := 'v', word := "verbose" }] 1 fun p => do
    if p.operands.isEmpty then misuse 1 "missing operand"
    else each p.operands fun path => do
      let remove (path : String) (isAbove : Bool) : Tool Nat := do
        let refuse (words : String) : Tool Nat :=
          fail 1 ("failed to remove " ++ (if isAbove then "directory " else "") ++
            Quote.always path ++ ": " ++ words)
        if p.has 'v' then
          out ((← name) ++ ": removing directory, " ++ Quote.always path ++ "\n")
        let m ← get
        let isLink := Path.endsWithSlash path && (match m.findSelf (withoutSlashes path) with
          | .ok n => n.isLink
          | .error _ => false)
        match m.findSelf path, m.locateSelf path with
        | .ok (.directory es _), .ok place =>
          if isLink then refuse "Symbolic link not followed"
          else if lastName path == "." then refuse FileFault.invalid.words
          else if es.isEmpty then
            modify fun m => m.removeAt place
            return 0
          else if p.has '\x01' then return 2
          else if place.isEmpty then refuse FileFault.busy.words
          else refuse FileFault.notEmpty.words
        | .error fault, _ => refuse fault.words
        | _, _ => refuse FileFault.notDirectory.words
      let mut code := ← remove path false
      if p.has 'p' then
        for above in (pathsDown (String.ofList (dropSlashes path.toList))).dropLast.reverse do
          if code == 0 then code := ← remove above true
      return if code == 2 then 0 else code

end CompileOrder.Shell.Utility
