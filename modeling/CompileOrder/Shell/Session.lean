import CompileOrder.Shell.Command
import CompileOrder.Shell.Machine
import CompileOrder.Shell.Source

/-!
# Shells at work

What a shell knows: its variables and parameters, its functions and abbreviations, its
options and traps, its descriptors and the jobs it has started. A shell acts on this
and on what all processes share. An action can be cut short, because the shell is told
to end, because of an error, or by a signal; what it did until then stays.
-/

namespace CompileOrder.Shell

open Text (Bytes)

/-- A variable. -/
structure Variable where
  /-- The value, if it is set. -/
  value : Option String
  /-- Whether the commands that the shell starts find it set. -/
  isExported : Bool := false
  /-- Whether it keeps its value. -/
  isReadOnly : Bool := false
  deriving DecidableEq, Repr

/-- A function. -/
structure Function where
  /-- The line of its definition. -/
  line : Nat
  /-- What it does. -/
  body : Command

/-- The part of what follows that is passed over. -/
inductive Skip where
  /-- The rest of some loops. -/
  | leave (loops : Nat)
  /-- The rest of a pass of the last of some loops. -/
  | repeat (loops : Nat)
  /-- The rest of a function or of a script. -/
  | function
  deriving DecidableEq, Repr

/-- How a job stands. -/
inductive JobState where
  /-- It has not been run. -/
  | waiting (run : Machine → ExitStatus × Machine)
  /-- It is over. -/
  | done (status : ExitStatus)

/-- A command that was started in the background. -/
structure Job where
  /-- The number of its process. -/
  process : Nat
  /-- How it stands. -/
  state : JobState
  /-- When it was started. -/
  started : Time
  /-- The number it is listed by. -/
  slot : Nat := 1
  /-- Whether it has been waited for. -/
  isWaited : Bool := false

/-- Whether the number of a job can be given to another. -/
def Job.isSpent (j : Job) : Bool :=
  match j.state with
  | .waiting _ => false
  | .done _ => j.isWaited

/-- Why an action was cut short. -/
inductive Interrupt where
  /-- The shell is to end. -/
  | exit
  /-- There was an error. -/
  | error
  /-- The process was ended by a signal. -/
  | killed (signal : Nat)
  /-- The process goes on as another program, which has ended. -/
  | replaced (status : ExitStatus)
  /-- The shell has taken more steps than it is given. -/
  | exhausted
  deriving DecidableEq, Repr

/-- What a shell knows. -/
structure Session where
  /-- The name it was started by. -/
  name : String := "sh"
  /-- The number of its process. -/
  process : Nat := 0
  /-- The number of the shell that it began as. -/
  mainProcess : Nat := 0
  /-- The variables. -/
  scope : List (String × Variable) := []
  /-- The values that variables had before functions made them their own. -/
  saved : List (List (String × Option Variable)) := []
  /-- The positional parameters. -/
  parameters : List String := []
  /-- The functions. -/
  functions : List (String × Function) := []
  /-- The abbreviations. -/
  abbreviations : Abbreviations := []
  /-- The letters of the options that are set. -/
  options : List Char := []
  /-- What is done on a signal; the number nought is the end of the shell. -/
  traps : List (Nat × String) := []
  /-- The channels that descriptors lead to. -/
  descriptors : List (Nat × Nat) := []
  /-- The working directory as the shell calls it. -/
  directory : String := ""
  /-- The code of the last command. -/
  status : Nat := 0
  /-- The code of the last command that was substituted. -/
  substitutedStatus : Nat := 0
  /-- The line of the current command. -/
  line : Nat := 0
  /-- The line that the script has been read up to. -/
  reached : Nat := 1
  /-- The shell's own command that is running, for messages. -/
  current : Option String := none
  /-- The number of loops around the current command. -/
  loops : Nat := 0
  /-- The number of functions around the current command. -/
  calls : Nat := 0
  /-- What is passed over. -/
  skip : Option Skip := none
  /-- The jobs in the background. -/
  jobs : List Job := []
  /-- The process of the last of them. -/
  lastJob : Option Nat := none
  /-- The here-documents of everything read so far. -/
  documents : Array Word := #[]
  /-- The number of the argument that `getopts` looks at next. -/
  optionIndex : Nat := 1
  /-- The place inside an argument that `getopts` has reached. -/
  optionOffset : Option Nat := none
  /-- Whether something could not be written. -/
  hasOutputFault : Bool := false
  /-- The code of the last command before a trap. -/
  statusBeforeTrap : Option Nat := none
  /-- The programs found by the search path. -/
  found : List (String × String) := []

/-- What a shell acts on. -/
structure Context where
  /-- What it shares with other processes. -/
  machine : Machine
  /-- What it knows. -/
  session : Session

/-- An action of a shell. -/
abbrev Act := ExceptT Interrupt (StateM Context)

namespace Session

/-- The variable with a name. -/
def entry? (s : Session) (name : String) : Option Variable :=
  (s.scope.find? fun v => v.1 == name).map fun v => v.2

/-- The value of a variable. -/
def value? (s : Session) (name : String) : Option String :=
  (s.entry? name).bind fun v => v.value

/-- The value of a variable; nothing if it is not set. -/
def value (s : Session) (name : String) : String := (s.value? name).getD ""

/-- A variable is replaced, or added after the others. -/
def withVariable (s : Session) (name : String) (v : Variable) : Session :=
  if s.scope.any fun e => e.1 == name then
    { s with scope := s.scope.map fun e => if e.1 == name then (name, v) else e }
  else { s with scope := s.scope ++ [(name, v)] }

/-- A variable is taken away. -/
def withoutVariable (s : Session) (name : String) : Session :=
  { s with scope := s.scope.filter fun e => e.1 != name }

/-- Whether an option is set. -/
def has (s : Session) (option : Char) : Bool := s.options.contains option

/-- The group that a name is listed in among `count`: names of the same group keep their
order. -/
def group (count : Nat) (name : String) : Nat :=
  let cs := name.toList
  cs.foldl (fun n c => n + c.toNat) ((cs.headD '\x00').toNat * 16) % count

/-- The variables that started commands find set. -/
def environment (s : Session) : List (String × String) :=
  let exported := s.scope.filterMap fun (name, v) =>
    if v.isExported then v.value.map fun value => (name, value) else none
  exported.mergeSort fun a b => decide (group 39 a.1 ≤ group 39 b.1)

/-- The characters that separate fields. -/
def separators (s : Session) : String := (s.value? "IFS").getD " \t\n"

/-- The channel that a descriptor leads to. -/
def descriptor? (s : Session) (d : Nat) : Option Nat :=
  (s.descriptors.find? fun e => e.1 == d).map fun e => e.2

/-- A descriptor leads to a channel, or nowhere. -/
def withDescriptor (s : Session) (d : Nat) (channel : Option Nat) : Session :=
  let others := s.descriptors.filter fun e => e.1 != d
  { s with descriptors := (channel.map fun c => (d, c)).toList ++ others }

/-- The parameters are replaced; `getopts` begins anew. -/
def withParameters (s : Session) (parameters : List String) : Session :=
  { s with parameters := parameters, optionIndex := 1, optionOffset := none }

/-- The lowest number that a new job can be listed by. -/
def freeSlot (s : Session) : Nat :=
  let isFree (n : Nat) : Bool := s.jobs.all fun j => j.slot != n || j.isSpent
  ((List.range (s.jobs.length + 1)).map (· + 1)).find? isFree |>.getD 1

/-- The job that had a number is forgotten. -/
def withoutSlot (s : Session) (slot : Nat) : Session :=
  { s with jobs := s.jobs.filter fun j => j.slot != slot }

/-- The action set for a signal. -/
def trap? (s : Session) (signal : Nat) : Option String :=
  (s.traps.find? fun t => t.1 == signal).map fun t => t.2

end Session

namespace Act

/-- The session. -/
def session : Act Session := do return (← get).session

/-- The machine. -/
def machine : Act Machine := do return (← get).machine

/-- The session is changed. -/
def modifySession (f : Session → Session) : Act Unit :=
  modify fun c => { c with session := f c.session }

/-- The machine is changed. -/
def modifyMachine (f : Machine → Machine) : Act Unit :=
  modify fun c => { c with machine := f c.machine }

/-- The code of the last command is set. -/
def setStatus (code : Nat) : Act Unit := modifySession fun s => { s with status := code }

/-- Text is written to a descriptor; whether that was possible. -/
def writeTo (descriptor : Nat) (text : String) : Act Bool := do
  let c ← get
  match c.session.descriptor? descriptor with
  | none => return text.isEmpty
  | some i =>
    match c.machine.write? i (Octets.toBytes text) with
    | some m =>
      set { c with machine := m }
      return true
    | none => return false

/-- Text is written to the output. -/
def print (text : String) : Act Unit := do
  if !(← writeTo 1 text) then modifySession fun s => { s with hasOutputFault := true }

/-- A message about the current command is written to the error stream. -/
def warn (message : String) : Act Unit := do
  let s ← session
  let current := match s.current with
    | some name => name ++ ": "
    | none => ""
  let _ ← writeTo 2 (s.name ++ ": " ++ toString s.line ++ ": " ++ current ++ message ++ "\n")

/-- The current command ends with an error. -/
def error {α : Type} (message : String) : Act α := do
  warn message
  setStatus 2
  throw .error

/-- The action is taken, and then the session is put back in part, however it ends. -/
def restoring {α : Type} (restore : Session → Session) (action : Act α) : Act α := do
  try
    let a ← action
    modifySession restore
    return a
  catch interrupt =>
    modifySession restore
    throw interrupt

/-- A number in decimal notation is read. -/
def number (text : String) : Act Nat := do
  match Octets.number? text with
  | some n => if n ≤ 2147483647 then return n else error ("Illegal number: " ++ text)
  | none => error ("Illegal number: " ++ text)

/-- A variable gets a value. -/
def assign (name value : String) (exported : Bool) : Act Unit := do
  let s ← session
  let old := s.entry? name
  if (old.map fun v => v.isReadOnly).getD false then error (name ++ ": is read only")
  if name == "OPTIND" then
    let n ← number value
    modifySession fun s => { s with optionIndex := max n 1, optionOffset := none }
  let isExported := exported || s.has 'a' || (old.map fun v => v.isExported).getD false
  modifySession fun s => s.withVariable name { value := some value, isExported := isExported }

/-- A variable gets a value, unless its name is none; an equals sign ends the name. -/
def assignNamed (name value : String) (exported : Bool) : Act Unit := do
  let name := String.ofList (name.toList.takeWhile fun c => c != '=')
  if !Octets.isName name then error (name ++ ": bad variable name")
  assign name value exported

/-- A new scope for variables is entered. -/
def enterScope : Act Unit := modifySession fun s => { s with saved := [] :: s.saved }

/-- The variables of the innermost scope get back the values they had before. -/
def Session.leaveScope (s : Session) : Session :=
  match s.saved with
  | [] => s
  | frame :: saved =>
    let s := { s with saved := saved }
    frame.foldl (fun s (name, old) =>
      match old with
      | some v => s.withVariable name v
      | none => s.withoutVariable name) s

/-- The innermost scope gets a variable of its own. -/
def keep (name : String) : Act Unit :=
  modifySession fun s =>
    match s.saved with
    | [] => s
    | frame :: saved =>
      if frame.any fun e => e.1 == name then s
      else { s with saved := ((name, s.entry? name) :: frame) :: saved }

/-- An action on the machine alone. -/
def onMachine {α : Type} (action : StateM Machine α) : Act α := do
  let c ← get
  let (a, m) := action.run c.machine
  set { c with machine := m }
  return a

end Act

end CompileOrder.Shell
