import CompileOrder.Shell.Builtin.Control
import CompileOrder.Shell.Builtin.Variables
import CompileOrder.Shell.Redirection

/-!
# Evaluation of commands

A simple command is looked up among the functions, the shell's own commands and the
programs of the search path. Its words are expanded first, then its redirections are
carried out, then its assignments. Parts of a pipeline, commands in parentheses and
commands that are substituted run in shells of their own, which share only files and
channels with the shell that started them.

Evaluation goes one level down at each step; the number of levels is given.
-/

namespace CompileOrder.Shell

/-- What evaluation at one level needs of the level below. -/
structure Engine where
  /-- A command is evaluated; `isTested` tells whether its failure is looked at. -/
  evaluate : (isTested : Bool) → Command → Act Unit
  /-- A word inside a word is expanded. -/
  nested : Manner → Word → Act (List Cell)
  /-- A script is run. -/
  script : String → Act Unit
  /-- A program is run in the current process. -/
  program : Program → Call → StateM Machine ExitStatus

namespace Engine

variable (e : Engine)

/-- The signals sent to the shell are received. -/
def receiveFrom : Nat → Act Unit
  | 0 => return
  | n + 1 => do
    let c ← get
    let mine := c.machine.signals.filter fun x => x.1 == c.session.process
    match mine.mergeSort fun a b => decide (a.2 ≤ b.2) with
    | [] => return
    | (process, signal) :: _ =>
      let action := if Signal.isFinal signal then none else c.session.trap? signal
      if action.isSome && c.session.skip.isSome then return
      Act.modifyMachine fun m => { m with signals := m.signals.erase (process, signal) }
      match action with
      | none => if Signal.isFatal signal then throw (.killed signal)
      | some action =>
        let status := c.session.status
        let before := c.session.statusBeforeTrap
        Act.restoring (fun s => { s with statusBeforeTrap := before }) do
          Act.modifySession fun s => { s with statusBeforeTrap := some (before.getD status) }
          e.script action
        if (← Act.session).skip != some .function then Act.setStatus status
      receiveFrom n

/-- The signals sent to the shell are received. -/
def receive : Act Unit := do
  if (← Act.machine).signals.isEmpty then return
  receiveFrom e 100

/-- A shell ends: what is set for its end is done, and its jobs are run. -/
def conclude : Act ExitStatus := do
  let s ← Act.session
  match s.trap? 0 with
  | none => pure ()
  | some action =>
    Act.modifySession fun s =>
      { s with traps := s.traps.filter (fun t => t.1 != 0), skip := none, current := none
               statusBeforeTrap := some s.status }
    try
      e.script action
      Act.setStatus s.status
    catch interrupt =>
      match interrupt with
      | .exit | .error => pure ()
      | interrupt => throw interrupt
  let time := (← Act.machine).time
  Builtin.runJobs
  Act.modifyMachine fun m => m.withTime time
  return .exited ((← Act.session).status % 256)

/-- The way a process ended by an interrupt. -/
def statusOf : Interrupt → ExitStatus
  | .killed n => .signalled n
  | .replaced status => status
  | .exhausted => .signalled 11
  | _ => .exited 2

/-- A shell does something and ends. -/
def complete (body : Act Unit) : StateM Context ExitStatus := do
  let ending : Act ExitStatus := do
    try
      body
    catch interrupt =>
      match interrupt with
      | .exit | .error => pure ()
      | interrupt => throw interrupt
    conclude e
  match ← ending.run with
  | .ok status => return status
  | .error interrupt => return statusOf interrupt

/-- The session of a shell that another one starts as a copy of itself. -/
def copyOf (s : Session) (process : Nat) : Session :=
  { s with
    process := process
    traps := s.traps.filter (fun t => t.2.isEmpty)
    jobs := []
    skip := none
    reached := 1 }

/-- A process is started on a machine, does something and ends. It sees the tree as it was
seen on the machine `start`. -/
def spawn (s : Session) (start : Machine) (process : Nat) (body : Act Unit) (m : Machine) :
    ExitStatus × Machine :=
  let outside := m
  let m := m.seenAs start
  let m := { m with processes := process :: m.processes }
  let (status, c) := (complete e body).run ⟨m, copyOf s process⟩
  let m := c.machine.seenAs outside
  (status, { m with
    processes := m.processes.filter (fun p => p != process)
    signals := m.signals.filter fun x => x.1 != process })

/-- The number of a new process. -/
def newProcess : Act Nat := do
  let n := (← Act.machine).nextProcess
  Act.modifyMachine fun m => { m with nextProcess := n + 1 }
  Act.modifySession fun s => if s.jobs.isEmpty then s else s.withoutSlot s.freeSlot
  return n

/-- Something is done in a shell of its own; the way that shell ended. -/
def fork (body : Act Unit) : Act ExitStatus := do
  let process ← newProcess
  let c ← get
  let (status, m) := spawn e c.session c.machine process body c.machine
  set { c with machine := m }
  return status

/-- Something is done in a shell of its own, which is waited for. -/
def forkAndWait (body : Act Unit) : Act Unit := do
  let status ← fork e body
  Builtin.announce status
  Act.setStatus (Builtin.codeOf status)

/-- Something is left to be done in a shell of its own. -/
def postpone (body : Act Unit) : Act Unit := do
  let process ← newProcess
  let c ← get
  let (i, m) := c.machine.openChannel (.device .null)
  set { c with machine := { m with processes := process :: m.processes } }
  let s := c.session.withDescriptor 0 (some i)
  let job : Job := {
    process := process
    state := .waiting (spawn e s c.machine process body)
    started := m.time
    slot := s.freeSlot }
  Act.modifySession fun s =>
    { s with jobs := s.jobs ++ [job], lastJob := some process, status := 0 }

/-- The text without the line feeds at its end. -/
def dropLineFeeds (cs : List Char) : List Char :=
  (cs.reverse.dropWhile fun c => c == '\n').reverse

/-- The output of commands. -/
def substitute (body : Option Command) : Act String := do
  let c ← get
  let (i, m) := c.machine.openChannel (.pipe [])
  set { c with machine := m }
  match body with
  | none => return ""
  | some command =>
    let status ← fork e do
      Act.modifySession fun s => s.withDescriptor 1 (some i)
      e.evaluate false command
    Builtin.announce status
    let m ← Act.machine
    let bytes := match m.remaining i with
      | .ok bytes => bytes
      | .error _ => []
    Act.modifyMachine fun m => m.setChannel i (.device .null)
    let code := Builtin.codeOf status
    Act.modifySession fun s => { s with substitutedStatus := code }
    let text := (Octets.ofBytes bytes).toList.filter fun c => c != '\x00'
    return String.ofList (dropLineFeeds text)

/-- How words are expanded. -/
def expander : Expander := ⟨substitute e, e.nested⟩

/-- The effective name of a command: the first word that does not only say how another is
looked up. -/
def effectiveName : List String → Option String
  | "command" :: "-p" :: rest => effectiveName rest
  | "command" :: "--" :: rest => effectiveName rest
  | "command" :: name :: rest =>
    if name.toList.head? == some '-' && name != "-" then some "command"
    else effectiveName (name :: rest)
  | ["command"] => none
  | name :: _ => some name
  | [] => none

/-- The fields of the words of a command. -/
def arguments : List Word → List String → Act (List String)
  | [], done => return done
  | word :: rest, done => do
    let s ← Act.session
    let isAssigning := match effectiveName done with
      | some name => Builtin.assigns name && !(s.functions.any fun f => f.1 == name)
      | none => false
    match if isAssigning then Word.assignment? word else none with
    | some (name, value) =>
      let text ← Expansion.assignment (expander e) name value
      arguments rest (done ++ [text])
    | none =>
      let fields ← Expansion.fields (expander e) word
      arguments rest (done ++ fields)

/-- The redirections are carried out; whether that was possible. -/
def redirect (steps : List Redirection.Step) : Act Bool := do
  try
    steps.forM (Redirection.apply (expander e))
    return true
  catch interrupt =>
    match interrupt with
    | .error => return false
    | interrupt => throw interrupt

/-- A command that was found. -/
inductive Target where
  /-- Nothing but assignments and redirections. -/
  | nothing
  /-- A function. -/
  | function (f : Function)
  /-- A command of the shell's own. -/
  | builtin (name : String)
  /-- A program. -/
  | program (name : String)

/-- What a name stands for. -/
def lookUp (s : Session) (noFunctions : Bool) (name : String) : Target :=
  match if noFunctions then none else s.functions.find? fun f => f.1 == name with
  | some (_, f) => .function f
  | none => if Builtin.names.contains name then .builtin name else .program name

/-- A command as it is looked up. -/
structure Found where
  /-- What it is. -/
  target : Target
  /-- Its words, from the name on. -/
  words : List String
  /-- Whether an error in it ends the shell. -/
  isSpecial : Bool := false
  /-- Whether its assignments are taken back. -/
  isTemporary : Bool := true
  /-- Whether the standard search path is used. -/
  isStandard : Bool := false

/-- The words after `command` and the options that only say how to look up; none if it is
`command` itself that is meant. -/
def afterCommand (standard : Bool) : List String → Option (Bool × List String)
  | "-p" :: rest => afterCommand true rest
  | "--" :: rest => if rest.isEmpty then none else some (standard, rest)
  | word :: rest =>
    if word.toList.head? == some '-' && word != "-" then none else some (standard, word :: rest)
  | [] => none

/-- The command that words are, after `n` times `command`. -/
def findAfter (s : Session) (standard : Bool) : Nat → List String → Found
  | 0, words => { target := .nothing, words := words }
  | n + 1, words =>
    match words with
    | [] => { target := .builtin "command", words := words }
    | name :: rest =>
      match lookUp s true name with
      | .builtin "command" =>
        match afterCommand standard rest with
        | some (standard, words) => findAfter s standard n words
        | none => { target := .builtin "command", words := words }
      | target => { target := target, words := words, isStandard := standard }

/-- The command that words are. -/
def find (s : Session) (words : List String) : Found :=
  match words with
  | [] => { target := .nothing, words := [], isTemporary := false }
  | name :: rest =>
    match lookUp s false name with
    | .builtin "command" =>
      match afterCommand false rest with
      | some (standard, words) => findAfter s standard words.length words
      | none => { target := .builtin "command", words := words }
    | .builtin name =>
      let isSpecial := specialCommands.contains name
      { target := .builtin name, words := words, isSpecial := isSpecial, isTemporary := !isSpecial }
    | target => { target := target, words := words }

/-- The search path that is used if none is set. -/
def standardPath : String := "/usr/local/sbin:/usr/local/bin:/usr/sbin:/usr/bin:/sbin:/bin"

/-- The number of bytes that an argument has to stay below. -/
def maxArgument : Nat := 131072

/-- The program at a path is run in the current process. -/
def execute (path : String) (words : List String) : Act (Except LaunchFault ExitStatus) := do
  let c ← get
  if words.any fun w => maxArgument ≤ w.length then return .error .tooLong
  match Program.identify c.machine path with
  | .error fault => return .error fault
  | .ok program =>
    let call : Call := {
      words := words
      environment := c.session.environment
      descriptors := c.session.descriptors
      ignored := c.session.traps.filterMap fun t => if t.2.isEmpty then some t.1 else none
      process := c.session.process }
    return .ok (← Act.onMachine (e.program program call))

/-- A program is looked for and run in a process of its own. -/
def runProgram (standard : Bool) (words : List String) : Act Unit := do
  let c ← get
  let name := words.headD ""
  let path := if standard then standardPath else c.session.value "PATH"
  match Program.search c.machine path name with
  | .error fault =>
    Act.warn (name ++ ": " ++ fault.words)
    Act.setStatus 127
  | .ok path =>
    if !name.toList.contains '/' then
      Act.modifySession fun s =>
        { s with found := (s.found.filter fun f => f.1 != name) ++ [(name, path)] }
    Builtin.runFinishedJobs
    forkAndWait e do
      match ← execute e path words with
      | .ok status => throw (.replaced status)
      | .error fault =>
        Act.warn (name ++ ": " ++ fault.words)
        Act.setStatus fault.code
        throw .exit
    Builtin.runFinishedJobs

/-- The number of functions that can be called inside each other. -/
def maxCalls : Nat := 1000

/-- A function is called. -/
def callFunction (isTested : Bool) (f : Function) (args : List String) : Act Unit := do
  let s ← Act.session
  if maxCalls ≤ s.calls then
    Act.error ("Maximum function recursion depth (" ++ toString maxCalls ++ ") reached")
  let restore (now : Session) : Session :=
    let now := Act.Session.leaveScope now
    { now with
      parameters := s.parameters
      optionIndex := s.optionIndex
      optionOffset := s.optionOffset
      loops := s.loops
      calls := s.calls
      skip := if now.skip == some .function then none else now.skip }
  Act.enterScope
  Act.restoring restore do
    Act.modifySession fun s =>
      { s.withParameters args with loops := 0, calls := s.calls + 1 }
    e.evaluate isTested f.body

/-- The file that a script to be read in stands in. -/
def findScript (name : String) : Act String := do
  if name.toList.contains '/' then return name
  let c ← get
  match (Program.candidates (c.session.value "PATH") name).find? fun p => c.machine.isFile p with
  | some path => return path
  | none => Act.error (name ++ ": not found")

/-- Runs a script in this shell. -/
def source (args : List String) : Act Nat := do
  let (_, words) ← Builtin.options "" args
  match words with
  | [] => return 0
  | name :: _ =>
    let path ← findScript name
    match (← Act.machine).read path with
    | .error .isDirectory => return 0
    | .error fault =>
      Act.error ("cannot open " ++ path ++ ": " ++ Redirection.faultText fault "No such file")
    | .ok text =>
      Act.modifySession fun s => { s with current := some path }
      e.script text
      Act.modifySession fun s =>
        { s with skip := if s.skip == some .function then none else s.skip }
      return (← Act.session).status

/-- Goes on as another program. -/
def become (args : List String) : Act Nat := do
  match args with
  | [] => return 0
  | name :: _ =>
    let c ← get
    let refuse (fault : LaunchFault) : Act Nat := do
      Act.warn (name ++ ": " ++ fault.words)
      Act.setStatus fault.code
      throw .exit
    match Program.search c.machine (c.session.value "PATH") name with
    | .error fault => refuse fault
    | .ok path =>
      match ← execute e path args with
      | .ok status => throw (.replaced status)
      | .error fault => refuse fault

/-- One of the shell's own commands. -/
def builtin (name : String) (args : List String) : Act Nat :=
  match name with
  | ":" | "true" => return 0
  | "false" => return 1
  | "." => source e args
  | "[" => Builtin.bracket args
  | "alias" => Builtin.aliasCommand args
  | "bg" | "fg" => Act.error "No current job"
  | "break" => Builtin.leave .leave args
  | "cd" | "chdir" => Builtin.cd args
  | "command" => Builtin.command args
  | "continue" => Builtin.leave .repeat args
  | "echo" => Builtin.echo args
  | "eval" => do
    if args.isEmpty then return 0
    Act.setStatus 0
    e.script (" ".intercalate args)
    return (← Act.session).status
  | "exec" => become e args
  | "exit" => Builtin.exit args
  | "export" => Builtin.exportCommand args
  | "getopts" => Builtin.getopts args
  | "hash" => Builtin.hash args
  | "jobs" => Builtin.jobs args
  | "kill" => Builtin.kill args
  | "local" => Builtin.localCommand args
  | "printf" => Builtin.printf args
  | "pwd" => Builtin.pwd args
  | "read" => Builtin.read args
  | "readonly" => Builtin.readonly args
  | "return" => Builtin.returnCommand args
  | "set" => Builtin.setCommand args
  | "shift" => Builtin.shift args
  | "test" => Builtin.test args
  | "times" => Builtin.times
  | "trap" => Builtin.trap args
  | "type" => Builtin.type args
  | "ulimit" => Builtin.ulimit args
  | "umask" => Builtin.umask args
  | "unalias" => Builtin.unalias args
  | "unset" => Builtin.unset args
  | "wait" => Builtin.wait args
  | _ => return 0

/-- One of the shell's own commands is run. An error in it ends the shell if it is a
special one. -/
def runBuiltin (isSpecial : Bool) (name : String) (args : List String) : Act Unit := do
  let before := (← Act.session).current
  Act.restoring (fun s => { s with current := before }) do
    Act.modifySession fun s => { s with current := some name, hasOutputFault := false }
    try
      let code ← builtin e name args
      let isFaulty := (← Act.session).hasOutputFault
      if isFaulty then Act.warn (name ++ ": I/O error")
      Act.setStatus (if isFaulty then code ||| 1 else code)
    catch interrupt =>
      match interrupt with
      | .error => if isSpecial then throw interrupt
      | interrupt => throw interrupt

/-- The command is shown before it is run, if that is asked for. -/
def trace (errors : Option Nat) (words : List String) : Act Unit := do
  let s ← Act.session
  if s.has 'x' then
    let lead := (s.value? "PS4").getD "+ "
    let text := lead ++ " ".intercalate words ++ "\n"
    match errors with
    | some i => Act.modifyMachine fun m => (m.write? i (Octets.toBytes text)).getD m
    | none => return

/-- The assignments of a command are made; their texts are given. -/
def assignAll (isTemporary isExported : Bool) : List Word → List String → Act (List String)
  | [], done => return done.reverse
  | word :: rest, done => do
    match Word.assignment? word with
    | none => assignAll isTemporary isExported rest done
    | some (name, value) =>
      let text ← Expansion.text (expander e) .value value
      if isTemporary then Act.keep name
      Act.assign name text (isTemporary || isExported)
      assignAll isTemporary isExported rest ((name ++ "=" ++ text) :: done)

/-- A simple command. -/
def simple (isTested : Bool) (line : Nat) (assignments words : List Word)
    (redirects : List Redirect) : Act Unit := do
  Act.modifySession fun s => { s with line := line, substitutedStatus := 0 }
  let fields ← arguments e words []
  let found := find (← Act.session) fields
  let steps ← redirects.mapM (Redirection.expand (expander e))
  let before := (← Act.session).descriptors
  let isExec := match found.target with
    | .builtin "exec" => true
    | _ => false
  let restore (s : Session) : Session :=
    let s := if found.isTemporary then Act.Session.leaveScope s else s
    if isExec then s else { s with descriptors := before }
  if found.isTemporary then Act.enterScope
  Act.restoring restore do
    if !(← redirect e steps) then
      Act.modifySession fun s => { s with descriptors := before }
      Act.setStatus 2
      if found.isSpecial then throw .error
    else
      let texts ← assignAll e found.isTemporary (isExec && 1 < found.words.length) assignments []
      trace ((before.find? fun d => d.1 == 2).map fun d => d.2) (texts ++ found.words)
      match found.target with
      | .nothing => Act.setStatus (← Act.session).substitutedStatus
      | .function f => callFunction e isTested f found.words.tail
      | .builtin name => runBuiltin e found.isSpecial name found.words.tail
      | .program _ => runProgram e found.isStandard found.words

/-- A loop takes notice of what is passed over: whether it is left, and whether the rest
of its pass is passed over. -/
def endPass : Act (Bool × Bool) := do
  let s ← Act.session
  let set (skip : Option Skip) : Act Unit := Act.modifySession fun s => { s with skip := skip }
  match s.skip with
  | none => return (false, false)
  | some (.leave n) => do
    set (if n ≤ 1 then none else some (.leave (n - 1)))
    return (true, true)
  | some (.repeat n) =>
    if n ≤ 1 then do
      set none
      return (false, true)
    else do
      set (some (.repeat (n - 1)))
      return (true, true)
  | some .function => return (true, true)

/-- The passes of a loop over words, of which the last one has ended with a code. -/
def passes (isTested : Bool) (name : String) (body : Command) : List String → Act Unit
  | [] => return
  | word :: rest => do
    Act.assign name word false
    e.evaluate isTested body
    let (isLeft, _) ← endPass
    if !isLeft then passes isTested name body rest

/-- Runs of a loop with a condition, of which there are at most `n`. -/
def cycles (isTested whileFails : Bool) (condition body : Command) : Nat → Nat → Act Unit
  | 0, _ => throw .exhausted
  | n + 1, code => do
    e.evaluate true condition
    let status := (← Act.session).status
    let (isLeft, isOver) ← endPass
    if isLeft then
      Act.setStatus (if (← Act.session).skip == some .function then status else code)
    else if isOver then cycles isTested whileFails condition body n code
    else if (status == 0) == whileFails then Act.setStatus code
    else
      e.evaluate isTested body
      let code := (← Act.session).status
      let (isLeft, _) ← endPass
      if !isLeft then cycles isTested whileFails condition body n code

/-- The commands of the first case with a pattern that describes a text. -/
def select (isTested : Bool) (subject : String) : List (List Word × Option Command) → Act Unit
  | [] => Act.setStatus 0
  | (patterns, commands) :: rest => do
    let isChosen ← patterns.foldlM (fun found word => do
      if found then return true
      let pattern ← Expansion.pattern (expander e) word
      return Pattern.matchText pattern subject) false
    if isChosen then
      match commands with
      | some c => e.evaluate isTested c
      | none => Act.setStatus 0
    else select isTested subject rest

/-- The commands of a pipeline, each on what the one before it wrote; the ways they
ended, the last one first. -/
def pipe (input : Option Nat) : List Command → List ExitStatus → Act (List ExitStatus)
  | [], statuses => return statuses
  | c :: rest, statuses => do
    let context ← get
    let (i, m) := context.machine.openChannel (.pipe [])
    set { context with machine := m }
    let isLast := rest.isEmpty
    let status ← fork e do
      Act.modifySession fun s =>
        let s := if input.isSome then s.withDescriptor 0 input else s
        if isLast then s else s.withDescriptor 1 (some i)
      e.evaluate false c
    pipe (some i) rest (status :: statuses)

/-- A pipeline, up to its end. -/
def pipeline (commands : List Command) : Act Unit := do
  let statuses ← pipe e none commands []
  statuses.reverse.forM Builtin.announce
  Act.setStatus (match statuses with
    | status :: _ => Builtin.codeOf status
    | [] => 0)

/-- A command in a shell of its own. -/
def subshell (isTested : Bool) (body : Command) (redirects : List Redirect) : Act (Act Unit) := do
  let steps ← redirects.mapM (Redirection.expand (expander e))
  return do
    steps.forM (Redirection.apply (expander e))
    e.evaluate isTested body

/-- Loops are counted while an action is taken inside one more. -/
def insideLoop (action : Act Unit) : Act Unit := do
  let loops := (← Act.session).loops
  Act.restoring (fun s => { s with loops := loops }) do
    Act.modifySession fun s => { s with loops := loops + 1 }
    action

/-- A command, without what follows every command. -/
def dispatch (levels : Nat) (isTested : Bool) : Command → Act Unit
  | .simple line assignments words redirects =>
    simple e isTested line assignments words redirects
  | .pipeline commands false => pipeline e commands
  | .pipeline commands true => postpone e (pipeline e commands)
  | .negation body => do
    e.evaluate true body
    Act.setStatus (if (← Act.session).status == 0 then 1 else 0)
  | .both first second => do
    e.evaluate true first
    let s ← Act.session
    if s.status == 0 && s.skip.isNone then e.evaluate isTested second
  | .either first second => do
    e.evaluate true first
    let s ← Act.session
    if s.status != 0 && s.skip.isNone then e.evaluate isTested second
  | .sequence first second => do
    e.evaluate isTested first
    if (← Act.session).skip.isNone then e.evaluate isTested second
  | .redirected line body redirects => do
    Act.modifySession fun s => { s with line := line }
    let steps ← redirects.mapM (Redirection.expand (expander e))
    let before := (← Act.session).descriptors
    Act.restoring (fun s => { s with descriptors := before }) do
      if ← redirect e steps then e.evaluate isTested body else Act.setStatus 2
  | .subshell line body redirects => do
    Act.modifySession fun s => { s with line := line }
    forkAndWait e (← subshell e isTested body redirects)
  | .background line body redirects => do
    if line != 0 then Act.modifySession fun s => { s with line := line }
    postpone e (← subshell e false body redirects)
  | .branch condition body otherwise => do
    e.evaluate true condition
    let s ← Act.session
    if s.skip.isSome then return
    if s.status == 0 then e.evaluate isTested body
    else match otherwise with
      | some c => e.evaluate isTested c
      | none => Act.setStatus 0
  | .loop whileFails condition body =>
    insideLoop (cycles e isTested whileFails condition body levels 0)
  | .iteration line name words body => do
    Act.modifySession fun s => { s with line := line }
    let fields ← words.mapM (Expansion.fields (expander e))
    Act.setStatus 0
    insideLoop (passes e isTested name body fields.flatten)
  | .selection line subject cases => do
    Act.modifySession fun s => { s with line := line }
    let text ← Expansion.text (expander e) .start subject
    select e isTested text cases
  | .definition line name body => do
    Act.modifySession fun s =>
      { s with functions := (name, ⟨line, body⟩) :: s.functions.filter fun f => f.1 != name }
    Act.setStatus 0

/-- Whether the failure of the command ends a shell that is told to end on failures. -/
def isChecked : Command → Bool
  | .simple _ _ _ _ | .pipeline _ _ | .subshell _ _ _ | .background _ _ _ => true
  | _ => false

/-- A command. -/
def command (levels : Nat) (isTested : Bool) (c : Command) : Act Unit := do
  if (← Act.session).has 'n' then return
  receive e
  dispatch e levels isTested c
  receive e
  let s ← Act.session
  if isChecked c && !isTested && s.status != 0 && s.has 'e' then throw .exit

/-- The lines of a script, of which there are at most `n`. -/
def runLines : Nat → Source → Act Unit
  | 0, _ => return
  | n + 1, source => do
    match Parse.line.run source with
    | .error fault =>
      Act.modifySession fun s => { s with line := fault.line }
      Act.error ("Syntax error: " ++ fault.reason)
    | .ok (none, _) => return
    | .ok (some c, source) =>
      Act.modifySession fun s => { s with documents := source.documents, reached := source.line }
      match c with
      | none => pure ()
      | some c => e.evaluate false c
      let s ← Act.session
      if s.skip.isNone then
        runLines n { source with abbreviations := s.abbreviations, documents := s.documents }

/-- A script. -/
def runScript (text : String) : Act Unit := do
  let s ← Act.session
  let source := Source.ofText text s.abbreviations s.documents
  runLines e source.budget source
  Act.modifySession fun now => { now with reached := s.reached }

end Engine

end CompileOrder.Shell
