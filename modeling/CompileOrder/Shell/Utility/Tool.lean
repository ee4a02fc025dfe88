import CompileOrder.Shell.Program

/-!
# Utilities

A utility reads its input and files, writes to its output and to the error stream,
changes files, and ends with a code. It is an action on what processes share, for one
call.
-/

namespace CompileOrder.Shell

/-- An action of a utility. -/
abbrev Tool := ReaderT Call (StateM Machine)

/-- How a utility launches a command: the way the command ended, or why it could not be
launched. -/
abbrev Launch := List String → Tool (Except LaunchFault ExitStatus)

namespace Tool

/-- The name that the utility is called by. -/
def name : Tool String := do return (← read).words.headD ""

/-- The arguments. -/
def args : Tool (List String) := do return (← read).words.tail

/-- The channel that a descriptor leads to. -/
def channel? (descriptor : Nat) : Tool (Option Nat) := do
  return ((← read).descriptors.find? fun d => d.1 == descriptor).map fun d => d.2

/-- Text is written to a descriptor; whether that was possible. -/
def writeTo (descriptor : Nat) (text : String) : Tool Bool := do
  match ← channel? descriptor with
  | none => return text.isEmpty
  | some i =>
    match (← get).write? i (Octets.toBytes text) with
    | some m =>
      set m
      return true
    | none => return false

/-- Text is written to the output. -/
def out (text : String) : Tool Unit := do
  let _ ← writeTo 1 text

/-- Lines are written to the output. -/
def outLines (lines : List String) : Tool Unit :=
  out (String.join (lines.map fun l => l ++ "\n"))

/-- Text is written to the error stream. -/
def err (text : String) : Tool Unit := do
  let _ ← writeTo 2 text

/-- A message with the name of the utility. -/
def complain (message : String) : Tool Unit := do
  err ((← name) ++ ": " ++ message ++ "\n")

/-- A message, and the code to end with. -/
def fail (code : Nat) (message : String) : Tool Nat := do
  complain message
  return code

/-- A message, a hint and the code to end with. -/
def misuse (code : Nat) (message : String) : Tool Nat := do
  complain message
  err ("Try '" ++ (← name) ++ " --help' for more information.\n")
  return code

/-- All that can be read from the input. -/
def input : Tool (Except FileFault String) := do
  match ← channel? 0 with
  | none => return .error .notOpen
  | some i =>
    match (← get).remaining i with
    | .ok bytes =>
      modify fun m => m.consume i bytes.length
      return .ok (Octets.ofBytes bytes)
    | .error fault => return .error fault

/-- Whether the next line of the input says yes to a question. -/
def answer : Tool Bool := do
  match ← channel? 0 with
  | none => return false
  | some i =>
    let bytes := ((← get).remaining i).toOption.getD []
    let line := bytes.takeWhile fun b => b != 10
    modify fun m => m.consume i (min bytes.length (line.length + 1))
    return line.head? == some 121 || line.head? == some 89

/-- The contents of a file, or the input for a hyphen. -/
def contents (path : String) : Tool (Except FileFault String) := do
  match path with
  | "-" | "/dev/stdin" => input
  | path => return (← get).read path

/-- The variable with a name. -/
def entry? (name : String) : Tool (Option String) := do
  return ((← read).environment.find? fun v => v.1 == name).map fun v => v.2

/-- Something is done with each of some items; the greatest code. -/
def each {α : Type} (items : List α) (action : α → Tool Nat) : Tool Nat := do
  let codes ← items.mapM action
  return codes.foldl Nat.max 0

end Tool

end CompileOrder.Shell
