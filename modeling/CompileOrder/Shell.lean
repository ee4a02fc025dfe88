import CompileOrder.Shell.Startup
import CompileOrder.Shell.Utility

/-!
# The shell of the system

A command line is run by a shell that finds the utilities of a system, an empty input
and a usual environment.
-/

namespace CompileOrder.Shell

/-- A utility launches a command, in a directory and with channels of its own. -/
def launch (e : Engine) : Launch := fun words => do
  let call ← read
  let m ← get
  let name := words.headD ""
  let found := call.environment.find? fun v => v.1 == "PATH"
  let path := (found.map fun v => v.2).getD Engine.standardPath
  match (Program.search m path name).bind fun path => Program.identify m path with
  | .error fault => return .error fault
  | .ok p =>
    let (status, after) := (e.program p { call with words := words }).run m
    set (after.seenAs m)
    return .ok status

/-- A program is run in the current process, one level above `e`. -/
def runProgram (e : Engine) (p : Program) (call : Call) : StateM Machine ExitStatus := do
  match p with
  | .utility name =>
    if name == "dash" || name == "bash" then Startup.run e call
    else Utility.run (launch e) name call
  | .script path =>
    Startup.run e { call with words := "/bin/sh" :: path :: call.words.tail }
  | .interpreted program word path =>
    match Program.identify (← get) program with
    | .ok p =>
      e.program p { call with words := program :: (word.toList ++ path :: call.words.tail) }
    | .error fault => return .exited fault.code

/-- The way commands are evaluated with a number of levels to go down. -/
def engine : Nat → Engine
  | 0 =>
    { evaluate := fun _ _ => throw .exhausted
      nested := fun _ _ => throw .exhausted
      script := fun _ => throw .exhausted
      program := fun _ _ => return .signalled 11 }
  | n + 1 =>
    { evaluate := fun isTested c => Engine.command (engine n) maxPasses isTested c
      nested := fun manner word => Expansion.cells (Engine.expander (engine n)) manner word
      script := fun text => Engine.runScript (engine n) text
      program := fun p call => runProgram (engine n) p call }
where
  /-- The number of passes that a loop makes at most. -/
  maxPasses : Nat := 1000000

/-- The number of levels that commands can be nested in. -/
def maxLevels : Nat := 20000

/-- The variables that a command line finds set besides those it is given. -/
def usualEnvironment : List (String × String) :=
  [("PATH", "/usr/local/cargo/bin:/usr/local/sbin:/usr/local/bin:/usr/sbin:/usr/bin:/sbin:/bin"),
    ("HOME", "/root")]

/-- A command line is run by the shell of the system. -/
def standard : Shell := fun given line w =>
  let process := 4241
  let m : Machine := {
    world := w
    channels := #[.device .null, .stream .output, .stream .error]
    processes := [process] }
  let ownEntries := given.map fun v => (Octets.ofText v.1, Octets.ofText v.2)
  let call : Call := {
    words := ["sh", "-c", Octets.ofText line]
    environment := ownEntries ++ usualEnvironment
    descriptors := [(0, 0), (1, 1), (2, 2)]
    process := process }
  let (status, m) := (Startup.run (engine maxLevels) call).run m
  let tree := { m.tree with workingDirectory := w.tree.workingDirectory, mask := w.tree.mask }
  (status, { m.world with tree := tree })

end CompileOrder.Shell
