import CompileOrder.Shell.Evaluation

/-!
# Shells from their start

A shell finds the variables of its environment set, takes options and a script from its
words, runs the script and ends. The script is an argument, a file, or the input.
-/

namespace CompileOrder.Shell.Startup

/-- What the words that a shell is called with ask for. -/
structure Request where
  /-- Whether the script is an argument. -/
  isArgument : Bool := false
  /-- The words after the options. -/
  operands : List String := []
  deriving DecidableEq, Repr

/-- The letters of one word of options; `name` is the word after it. The answer tells
whether the script is an argument and whether the word after was used. -/
def letters (isOn : Bool) (name : Option String) : List Char → Bool × Bool → Act (Bool × Bool)
  | [], found => return found
  | 'c' :: cs, (_, used) => letters isOn name cs (true, used)
  | 'l' :: cs, found => letters isOn name cs found
  | c :: cs, (isArgument, used) => do
    let usedHere ← Builtin.setLetters isOn name [c] false
    letters isOn name cs (isArgument, used || usedHere)

/-- The options at the start of some words are set, in at most `n` steps. -/
def readOptions : Nat → Request → List String → Act Request
  | 0, r, words => return { r with operands := words }
  | _ + 1, r, [] => return r
  | n + 1, r, word :: rest => do
    match word.toList with
    | ['-'] | ['-', '-'] => return { r with operands := rest }
    | sign :: cs =>
      if sign == '-' || sign == '+' then
        let (isArgument, used) ← letters (sign == '-') rest.head? cs (r.isArgument, false)
        readOptions n { r with isArgument := isArgument } (if used then rest.tail else rest)
      else return { r with operands := word :: rest }
    | [] => return { r with operands := word :: rest }

/-- The script in the file that a path leads to; the shell takes its name. -/
def open? (path : String) : Act String := do
  match (← Act.machine).read path with
  | .ok text => return text
  | .error .isDirectory => return ""
  | .error fault =>
    Act.error ("cannot open " ++ path ++ ": " ++ Redirection.faultText fault "No such file")

/-- All of the input. -/
def inputText : Act String := do
  let c ← get
  match c.session.descriptor? 0 with
  | none => return ""
  | some i =>
    let bytes := (c.machine.remaining i).toOption.getD []
    Act.modifyMachine fun m => m.consume i bytes.length
    return Octets.ofBytes bytes

/-- The script that the words ask for; parameters are set. -/
def script (words : List String) : Act String := do
  let r ← readOptions (words.length + 1) {} words
  let setParameters (ps : List String) : Act Unit :=
    Act.modifySession fun s => { s with parameters := ps }
  match r.isArgument, r.operands with
  | true, [] => Act.error "-c requires an argument"
  | true, text :: rest =>
    match rest with
    | [] => pure ()
    | name :: ps =>
      Act.modifySession fun s => { s with name := name }
      setParameters ps
    return text
  | false, operands =>
    match operands, (← Act.session).has 's' with
    | path :: ps, false =>
      let text ← open? path
      Act.modifySession fun s => { s with name := path }
      setParameters ps
      return text
    | ps, _ =>
      Builtin.setOption 's' true
      setParameters ps
      inputText

/-- A variable of a shell that has just been started. -/
def standardVariables (m : Machine) : List (String × Variable) :=
  [("IFS", { value := some " \t\n" }), ("OPTIND", { value := some "1" }),
    ("PATH", { value := some Engine.standardPath }),
    ("PPID", { value := some (toString m.nextProcess) }),
    ("PS1", { value := some "# " }), ("PS2", { value := some "> " }),
    ("PS4", { value := some "+ " }),
    ("PWD", { value := some (Octets.ofText m.tree.workingPath), isExported := true })]

/-- What a shell knows when it is started. -/
def session (call : Call) (m : Machine) : Session :=
  let given := call.environment.filterMap fun (name, value) =>
    if Octets.isName name && !(["PWD", "IFS", "OPTIND", "PPID"].contains name) then
      some (name, ({ value := some value, isExported := true } : Variable))
    else none
  let others := (standardVariables m).filter fun v => !(given.any fun g => g.1 == v.1)
  { name := call.words.headD "sh"
    process := call.process
    mainProcess := call.process
    scope := given ++ others
    traps := call.ignored.map fun n => (n, "")
    descriptors := call.descriptors
    directory := Octets.ofText m.tree.workingPath }

/-- A shell is started, runs its script and ends. -/
def run (e : Engine) (call : Call) : StateM Machine ExitStatus := do
  let m ← get
  let body : Act Unit := do
    let text ← script call.words.tail
    Engine.runScript e text
  let (status, c) := (Engine.complete e body).run ⟨m, session call m⟩
  set c.machine
  return status

end CompileOrder.Shell.Startup
