import CompileOrder.Shell.Builtin.Processes
import CompileOrder.Shell.Utility.Awk.State

/-!
# Files and commands of scripts for records

What a script writes to a file is passed on when the file is closed, when the script
ends or before a command runs. What it writes to a command becomes the input of the
command when that is closed.
-/

namespace CompileOrder.Shell.Awk

open Tool

/-- An action of a utility as one of a script. -/
def tool {α : Type} (action : Tool α) : Run α := liftM (n := Run) action

variable (launch : Launch)

/-- A command is run by the shell with other channels; the code it ends with. -/
def runCommand (command : String) (channels : List (Nat × Nat)) : Tool Nat := fun call => do
  let others := call.descriptors.filter fun d => !(channels.any fun c => c.1 == d.1)
  match ← launch ["sh", "-c", command] { call with descriptors := channels ++ others } with
  | .ok status => return Builtin.codeOf status
  | .error _ => return 127

/-- What is written to files is passed on. -/
def flushFiles : Run Unit := do
  for sink in (← get).sinks do
    if !sink.isCommand && !sink.parts.isEmpty then
      let m ← tool get
      let old := (m.read sink.name).toOption.getD ""
      let text := old ++ String.join sink.parts.reverse
      match m.writeFile sink.name (Octets.toBytes text) with
      | .ok m => tool (set m)
      | .error _ => pure ()
  modify fun s => { s with sinks := s.sinks.map fun sink =>
    if sink.isCommand then sink else { sink with parts := [] } }

/-- A command gets its input. -/
def feed (sink : Sink) : Run Nat := do
  flushFiles
  tool do
    let (i, m) := (← get).openChannel (.pipe (Octets.toBytes (String.join sink.parts.reverse)))
    set m
    runCommand launch sink.name [(0, i)]

/-- A file or a command is closed; minus one if it was not open. -/
def close (name : String) : Run Int := do
  let s ← get
  let isRead := s.files.any (fun f => f.1 == name) || s.commands.any (fun c => c.1 == name)
  flushFiles
  let sinks := s.sinks.filter fun k => k.name == name
  modify fun s => { s with
    files := s.files.filter fun f => f.1 != name
    commands := s.commands.filter fun c => c.1 != name
    sinks := s.sinks.filter fun k => k.name != name }
  let mut code : Int := if isRead || !sinks.isEmpty then 0 else -1
  for sink in sinks do
    if sink.isCommand then code := ← feed launch sink
  return code

/-- All files and commands are closed. -/
def closeAll : Run Unit := do
  flushFiles
  for sink in (← get).sinks do
    if sink.isCommand then let _ ← feed launch sink
  modify fun s => { s with sinks := [] }

/-- A text is written to a file or to a command, which is opened if it is not. -/
def writeTo (name : String) (isCommand isAppending : Bool) (text : String) : Run Unit := do
  if !isCommand && (name == "/dev/stdout" || name == "-") then tool (out text)
  else if !isCommand && name == "/dev/stderr" then tool (err text)
  else
    let isOpen := (← get).sinks.any fun k => k.name == name && k.isCommand == isCommand
    if !isOpen then
      if !isCommand then
        let m ← tool get
        let old := if isAppending then (m.read name).toOption.getD "" else ""
        match m.writeFile name (Octets.toBytes old) with
        | .ok m => tool (set m)
        | .error fault =>
          throw (.fault ("cannot open \"" ++ name ++ "\" for output (" ++ fault.words ++ ")"))
      modify fun s => { s with sinks := s.sinks ++ [{ name := name, isCommand := isCommand }] }
    modify fun s => { s with sinks := s.sinks.map fun k =>
      if k.name == name && k.isCommand == isCommand then { k with parts := text :: k.parts }
      else k }

/-- The output of a command. -/
def outputOf (command : String) : Run (List Char) := do
  flushFiles
  tool do
    let (i, m) := (← get).openChannel (.pipe [])
    set m
    let _ ← runCommand launch command [(1, i)]
    match (← get).remaining i with
    | .ok bytes => return (Octets.ofBytes bytes).toList
    | .error _ => return []

/-- The next record of a file; none if it cannot be read. -/
def fileRecord (path : String) : Run (Option (Option String)) := do
  flushFiles
  let cs? ← match (← get).files.find? fun f => f.1 == path with
    | some (_, cs) => pure (some cs)
    | none => do
      match ← tool (contents path) with
      | .ok text => pure (some text.toList)
      | .error _ => pure none
  match cs? with
  | none => return none
  | some cs =>
    let found := cutRecord (← globalText "RS") cs
    let rest := (found.map fun f => f.2).getD []
    modify fun s => { s with files := (path, rest) :: s.files.filter fun f => f.1 != path }
    return some (found.map fun f => f.1)

/-- The next record of the output of a command. -/
def commandRecord (command : String) : Run (Option String) := do
  let cs ← match (← get).commands.find? fun c => c.1 == command with
    | some (_, cs) => pure cs
    | none => outputOf launch command
  let found := cutRecord (← globalText "RS") cs
  let rest := (found.map fun f => f.2).getD []
  modify fun s =>
    { s with commands := (command, rest) :: s.commands.filter fun c => c.1 != command }
  return found.map fun f => f.1

end CompileOrder.Shell.Awk
