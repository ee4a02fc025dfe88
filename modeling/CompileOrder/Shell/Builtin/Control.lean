import CompileOrder.Shell.Builtin.Processes
import CompileOrder.Shell.Grammar
import CompileOrder.Shell.Program

/-!
# The shell's own commands for control

Changing the directory, ending the shell, a function or a loop, and telling what a
name stands for.
-/

namespace CompileOrder.Shell.Builtin

/-- The names of the shell's own commands. -/
def names : List String :=
  specialCommands ++
    ["[", "alias", "bg", "cd", "chdir", "command", "echo", "false", "fg", "getopts", "hash", "jobs",
      "kill", "printf", "pwd", "read", "test", "true", "type", "ulimit", "umask", "unalias",
      "wait"]

/-- Whether the arguments of the command can be assignments. -/
def assigns (name : String) : Bool := name == "export" || name == "readonly" || name == "local"

/-- The names of a path in which a point stands for nothing and two points take the name
before them away, after some names. -/
def walk (before : List String) (path : String) : List String :=
  (path.splitOn "/").foldl (fun names name =>
    if name.isEmpty || name == "." then names
    else if name == ".." then names.dropLast
    else names ++ [name]) before

/-- The slashes that a path begins with: two, if there are exactly two. -/
def rootOf (path : String) : String :=
  match path.toList with
  | '/' :: '/' :: '/' :: _ => "/"
  | '/' :: '/' :: _ => "//"
  | _ => "/"

/-- A path as the shell calls it, seen from a directory. -/
def logicalPath (directory path : String) : String :=
  if path.toList.head? == some '/' then rootOf path ++ "/".intercalate (walk [] path)
  else rootOf directory ++ "/".intercalate (walk (walk [] directory) path)

/-- The directory is changed; whether that was possible. -/
def enter (isPhysical : Bool) (path : String) : Act Bool := do
  let c ← get
  let logical := logicalPath c.session.directory path
  let target := if isPhysical then path else logical
  match c.machine.locate target with
  | .error _ => return false
  | .ok place =>
    if !c.machine.isDirectory target then return false
    let name := if isPhysical then Octets.ofText ("/" ++ "/".intercalate place) else logical
    Act.modifyMachine fun m => m.withDirectory place
    Act.assign "OLDPWD" c.session.directory true
    Act.assign "PWD" name true
    Act.modifySession fun s => { s with directory := name }
    return true

/-- Whether a path begins with points that lead from the working directory. -/
def isDotted (path : String) : Bool :=
  match path.splitOn "/" with
  | first :: _ => first == "." || first == ".."
  | [] => false

/-- Changes the directory. -/
def cd (args : List String) : Act Nat := do
  let (found, words) ← options "LP" args
  let isPhysical := (found.getLast?.map fun o => o.1) == some 'P'
  let s ← Act.session
  let word := words.head?
  let target := match word with
    | none => s.value "HOME"
    | some "-" => s.value "OLDPWD"
    | some path => path
  let refuse : Act Nat := Act.error ("can't cd to " ++ target)
  let finish (shows : Bool) : Act Nat := do
    if shows then Act.print ((← Act.session).directory ++ "\n")
    return 0
  if target.toList.head? == some '/' || isDotted target then
    if ← enter isPhysical target then finish (word == some "-") else refuse
  else
    let target := if target.isEmpty then "." else target
    let m ← Act.machine
    let places := (s.value "CDPATH").splitOn ":"
    let found := places.findSome? fun place =>
      let path := if place.isEmpty then target else place ++ "/" ++ target
      if m.isDirectory path then some (place, path) else none
    match found with
    | some (place, path) =>
      if ← enter isPhysical path then finish (word == some "-" || !place.isEmpty) else refuse
    | none => if ← enter isPhysical target then finish (word == some "-") else refuse

/-- Shows the directory. -/
def pwd (args : List String) : Act Nat := do
  let (found, _) ← options "LP" args
  let c ← get
  let isPhysical := (found.getLast?.map fun o => o.1) == some 'P'
  let path := if isPhysical then Octets.ofText c.machine.tree.workingPath else c.session.directory
  Act.print (path ++ "\n")
  return 0

/-- Ends the shell. -/
def exit (args : List String) : Act Nat := do
  let s ← Act.session
  let code ← match args with
    | [] => pure (s.statusBeforeTrap.getD s.status)
    | word :: _ => Act.number word
  Act.setStatus code
  throw .exit

/-- Ends a function or a script. -/
def returnCommand (args : List String) : Act Nat := do
  let code ← match args with
    | [] => pure (← Act.session).status
    | word :: _ => Act.number word
  Act.modifySession fun s => { s with skip := some .function }
  return code

/-- Ends loops, or passes of loops. -/
def leave (skip : Nat → Skip) (args : List String) : Act Nat := do
  let n ← match args with
    | [] => pure 1
    | word :: _ => do
      let n ← Act.number word
      if n == 0 then Act.error ("Illegal number: " ++ word)
      pure n
  let loops := (← Act.session).loops
  if loops > 0 then
    Act.modifySession fun s => { s with skip := some (skip (min n loops)) }
  return 0

/-- What a name stands for, in words or in short; the answer ends with a line feed. -/
def meaning? (c : Context) (inWords : Bool) (name : String) : Option String :=
  let say (words short : String) : Option String :=
    some ((if inWords then name ++ words else short) ++ "\n")
  if (Keyword.ofSpelling? name).isSome then say " is a shell keyword" name
  else match c.session.abbreviations.find? fun a => a.1 == name with
    | some (_, value) =>
      if inWords then say (" is an alias for " ++ value) ""
      else some ("alias " ++ name ++ "=" ++ Octets.quoted value ++ "\n")
    | none =>
      if c.session.functions.any fun f => f.1 == name then say " is a shell function" name
      else if specialCommands.contains name then say " is a special shell builtin" name
      else if names.contains name then say " is a shell builtin" name
      else if name.toList.contains '/' then
        if c.machine.holds name then say (" is " ++ name) name else none
      else match Program.search c.machine (c.session.value "PATH") name with
        | .ok path =>
          let isKnown := c.session.found.any fun f => f.1 == name
          say ((if isKnown then " is a tracked alias for " else " is ") ++ path) path
        | .error _ => none

/-- Tells what a name stands for. -/
def describe (inWords : Bool) (name : String) : Act Nat := do
  match meaning? (← get) inWords name with
  | some text =>
    Act.print text
    return 0
  | none =>
    if inWords then Act.print (name ++ ": not found\n")
    return 127

/-- Tells what names stand for. -/
def type (args : List String) : Act Nat := do
  let codes ← args.mapM (describe true)
  return codes.foldl (fun n m => n ||| m) 0

/-- Tells what the name after an option stands for. -/
def command (args : List String) : Act Nat := do
  let (found, words) ← options "pvV" args
  match words with
  | [] => return 0
  | name :: _ =>
    if found.any fun o => o.1 == 'V' then describe true name
    else if found.any fun o => o.1 == 'v' then describe false name
    else return 0

/-- Lists programs found by the search path, or looks for some. -/
def hash (args : List String) : Act Nat := do
  let (found, words) ← options "r" args
  if !found.isEmpty then
    Act.modifySession fun s => { s with found := [] }
    return 0
  if words.isEmpty then
    let s ← Act.session
    let inOrder := s.found.mergeSort fun a b =>
      decide (Session.group 31 a.1 ≤ Session.group 31 b.1)
    Act.print (String.join (inOrder.map fun f => f.2 ++ "\n"))
    return 0
  let codes ← words.mapM fun name => do
    let c ← get
    if names.contains name || c.session.functions.any (fun f => f.1 == name) then return 0
    match Program.search c.machine (c.session.value "PATH") name with
    | .ok path =>
      Act.modifySession fun s =>
        { s with found := (s.found.filter fun f => f.1 != name) ++ [(name, path)] }
      return 0
    | .error fault =>
      Act.warn (name ++ ": " ++ fault.words)
      return 1
  return codes.foldl Nat.max 0

end CompileOrder.Shell.Builtin
