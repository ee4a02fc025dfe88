import CompileOrder.Shell.Builtin.Text
import CompileOrder.Shell.Mode
import CompileOrder.Shell.Signal

/-!
# The shell's own commands for processes

Signals and what is done when they arrive, jobs in the background, and the bits that
new files do not get.
-/

namespace CompileOrder.Shell.Builtin

/-- The code that stands for the way a process ended. -/
def codeOf : ExitStatus → Nat
  | .exited n => n % 256
  | .signalled n => 128 + n

/-- It is said that a signal has ended a process the shell waited for. -/
def announce (status : ExitStatus) : Act Unit := do
  match status with
  | .signalled n =>
    if n != 2 && n != 13 then
      let _ ← Act.writeTo 2 (Signal.description n ++ "\n")
  | .exited _ => return

/-- A job is run if it has not been; the way it ended. -/
def runJob (j : Job) : Act ExitStatus := do
  match j.state with
  | .done status => return status
  | .waiting run =>
    let m ← Act.machine
    let (status, after) := run (m.withTime j.started)
    Act.modifyMachine fun _ => (after.withTime (max m.time after.time)).seenAs m
    Act.modifySession fun s =>
      { s with jobs := s.jobs.map fun k =>
          if k.process == j.process then { k with state := .done status } else k }
    return status

/-- The time at which a job ends that has not been run. -/
def endOf? (m : Machine) (j : Job) : Option Time :=
  match j.state with
  | .waiting run => some (run (m.withTime j.started)).2.time
  | .done _ => none

/-- The jobs that end in time are run, in the order of their ends. -/
def runJobsUntil (limit : Option Time) : Act Unit := do
  let c ← get
  let timed := c.session.jobs.filterMap fun j => (endOf? c.machine j).map fun time => (time, j)
  let due := timed.filter fun t => match limit with
    | some n => t.1 ≤ n
    | none => true
  for (_, j) in due.mergeSort fun a b => decide (a.1 ≤ b.1) do
    let _ ← runJob j

/-- All jobs are run. -/
def runJobs : Act Unit := runJobsUntil none

/-- The jobs that have ended by now are run. -/
def runFinishedJobs : Act Unit := do
  if (← Act.session).jobs.isEmpty then return
  runJobsUntil (some (← Act.machine).time)

/-- The job with a number after a percent sign. -/
def jobNumbered (word : String) (digits : List Char) : Act Job := do
  match (← Act.session).jobs.find? fun j => j.slot == Octets.number digits with
  | some j => return j
  | none => Act.error ("No such job: " ++ word)

/-- Waits for jobs. -/
def wait (args : List String) : Act Nat := do
  let (_, words) ← options "" args
  if words.isEmpty then
    runJobs
    Act.modifySession fun s => { s with jobs := s.jobs.map fun j => { j with isWaited := true } }
    return 0
  let codes ← words.mapM fun word => do
    let s ← Act.session
    let job ← match word.toList with
      | '%' :: digits => some <$> jobNumbered word digits
      | _ => do
        let n ← Act.number word
        pure (s.jobs.find? fun j => j.process == n)
    match job with
    | none => return 127
    | some j =>
      let status ← runJob j
      Act.modifySession fun s => { s with jobs := s.jobs.map fun k =>
        if k.process == j.process then { k with isWaited := true } else k }
      announce status
      return codeOf status
  return codes.getLastD 0

/-- How a job stands, in words. -/
def standing : JobState → String
  | .waiting _ => "Running"
  | .done (.exited 0) => "Done"
  | .done (.exited n) => "Done(" ++ toString n ++ ")"
  | .done (.signalled n) => Signal.description n

/-- Lines for jobs; `older` is the number of jobs listed that have not ended. -/
def jobLines : Nat → List Job → List String
  | _, [] => []
  | older, j :: rest =>
    let mark := match older with
      | 0 => "+"
      | 1 => "-"
      | _ => " "
    let isOver := match j.state with
      | .waiting _ => false
      | .done _ => true
    let lead := "[" ++ toString j.slot ++ "] " ++ mark ++ " " ++ standing j.state
    (Octets.padRight 33 lead ++ "\n") :: jobLines (if isOver then older else older + 1) rest

/-- Lists the jobs, the last one first; those that have ended are listed once. -/
def jobs (args : List String) : Act Nat := do
  let _ ← options "lp" args
  Act.print (String.join (jobLines 0 (← Act.session).jobs.reverse))
  Act.modifySession fun s => { s with jobs := s.jobs.filter fun j => match j.state with
    | .waiting _ => true
    | .done _ => false }
  return 0

/-- A signal is sent to a process; whether there is such a process. -/
def send (signal process : Nat) : Act Bool := do
  let s ← Act.session
  match s.jobs.find? fun j => j.process == process with
  | some j =>
    match j.state with
    | .waiting _ =>
      if Signal.isFatal signal then
        Act.modifySession fun s =>
          { s with jobs := s.jobs.map fun k =>
              if k.process == process then { k with state := .done (.signalled signal) } else k }
      return true
    | .done _ => return false
  | none =>
    if (← Act.machine).processes.contains process then
      if signal != 0 then
        Act.modifyMachine fun m => { m with signals := m.signals ++ [(process, signal)] }
      return true
    return false

/-- How `kill` is used. -/
def killUsage : String :=
  "Usage: kill [-s sigspec | -signum | -sigspec] [pid | job]... or\nkill -l [exitstatus]"

/-- Lists signals, or names one by its number or by the code of a process. -/
def listSignals (words : List String) : Act Nat := do
  match words with
  | [] =>
    let names := (List.range Signal.last).map fun n => Signal.name (n + 1) ++ "\n"
    Act.print ("0\n" ++ String.join names)
  | word :: _ =>
    let n ← Act.number word
    let n := if 128 < n then n - 128 else n
    if n == 0 || Signal.last < n then
      Act.error ("invalid signal number or exit status: " ++ word)
    Act.print (Signal.name n ++ "\n")
  return 0

/-- Sends a signal to processes. -/
def sendAll (signal : Nat) (words : List String) : Act Nat := do
  if words.isEmpty then Act.error killUsage
  let codes ← words.mapM fun word => do
    let process ← match word.toList with
      | '%' :: digits => do
        let _ ← jobNumbered word digits
        pure 0
      | '-' :: _ => do
        let _ ← Act.number (Octets.dropFirst 1 word)
        pure 0
      | _ => Act.number word
    if ← send signal process then return 0
    Act.warn "No such process\n"
    return 1
  return codes.foldl Nat.max 0

/-- Sends signals, or lists them. -/
def kill (args : List String) : Act Nat := do
  match args with
  | [] => Act.error killUsage
  | word :: rest =>
    let cs := word.toList
    if cs.head? != some '-' then sendAll 15 args
    else match Signal.ofText? (String.ofList cs.tail) with
      | some signal => sendAll signal rest
      | none =>
        let (found, words) ← options "ls:" args
        if found.any fun o => o.1 == 'l' then listSignals words
        else match found.getLast? with
          | none => sendAll 15 words
          | some (_, name) =>
            match Signal.ofText? name with
            | some signal => sendAll signal words
            | none => Act.error ("invalid signal number or name: " ++ name)

/-- Sets what is done when signals arrive, or lists it. -/
def trap (args : List String) : Act Nat := do
  let (_, words) ← options "" args
  match words with
  | [] =>
    let s ← Act.session
    let all := s.traps.mergeSort fun a b => decide (a.1 ≤ b.1)
    Act.print (String.join (all.map fun (n, action) =>
      "trap -- " ++ Octets.quoted action ++ " " ++ Signal.name n ++ "\n"))
    return 0
  | first :: rest =>
    let isSignal := rest.isEmpty || (Octets.number? first).any fun n => n ≤ Signal.last
    let action := if isSignal || first == "-" then none else some first
    setTraps action (if isSignal then words else rest)
where
  /-- What is done when some signals arrive is set. -/
  setTraps (action : Option String) : List String → Act Nat
    | [] => return 0
    | word :: rest => do
      match Signal.ofText? word with
      | none =>
        let _ ← Act.writeTo 2 ("trap: " ++ word ++ ": bad trap\n")
        return 1
      | some n =>
        Act.modifySession fun s =>
          let others := s.traps.filter fun t => t.1 != n
          { s with traps := (action.map fun a => (n, a)).toList ++ others }
        setTraps action rest

/-- Three bits as letters. -/
def bitLetters (n : Nat) : String :=
  (if n / 4 % 2 == 1 then "r" else "") ++ (if n / 2 % 2 == 1 then "w" else "") ++
    (if n % 2 == 1 then "x" else "")

/-- Sets or shows the bits that new files do not get. -/
def umask (args : List String) : Act Nat := do
  let (found, words) ← options "S" args
  let mask := (← Act.machine).tree.mask
  let change (new : Nat) : Act Unit :=
    Act.modifyMachine fun m => m.withTree { m.tree with mask := new }
  match words with
  | [] =>
    let m := mask
    if found.isEmpty then
      Act.print (Mode.octalText 4 m ++ "\n")
    else
      let kept := 511 - m
      Act.print ("u=" ++ bitLetters (kept / 64 % 8) ++ ",g=" ++ bitLetters (kept / 8 % 8) ++
        ",o=" ++ bitLetters (kept % 8) ++ "\n")
  | word :: _ =>
    if (word.toList.headD 'x').isDigit then
      match Mode.octal? word with
      | some n => change (n % 0o1000)
      | none => Act.error ("Illegal number: " ++ word)
    else match Mode.read? word with
      | some changes =>
        change (Mode.without 0o777 (Mode.apply false mask changes (Mode.without 0o777 mask)))
      | none => Act.error ("Illegal mode: " ++ word)
  return 0

/-- Shows the time that processes have taken. -/
def times : Act Nat := do
  Act.print "0m0.00s 0m0.00s\n0m0.00s 0m0.00s\n"
  return 0

/-- Shows a limit of the system. -/
def ulimit (args : List String) : Act Nat := do
  let _ ← options "HSatfdscmlpnvwr" args
  Act.print "unlimited\n"
  return 0

end CompileOrder.Shell.Builtin
