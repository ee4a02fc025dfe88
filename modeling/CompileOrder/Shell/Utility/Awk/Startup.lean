import CompileOrder.Shell.Utility.Awk.Evaluation

/-!
# Running scripts for records

The rules for the start are carried out, then for each record those whose conditions
hold, and then the rules for the end. The input is not read if no rule needs it.
-/

namespace CompileOrder.Shell.Awk

open Tool

section

variable (launch : Launch)

/-- The number of levels that expressions and actions can be nested in. -/
def maxLevels : Nat := 20000

/-- An action is taken from the outermost level. -/
def act (s : Statement) : Run Unit := (evaluator launch maxLevels).exec s

/-- Whether an expression holds. -/
def isTrue (x : Expr) : Run Bool := do return (← (evaluator launch maxLevels).eval x).holds

/-- Whether the rule with a number applies to the record at hand. -/
def applies (number : Nat) : Condition → Run Bool
  | .start | .finish => return false
  | .always => return true
  | .holds x => isTrue launch x
  | .between first last => do
    let isActive := (← get).active.contains number
    let isBegun ← if isActive then pure true else isTrue launch first
    if !isBegun then return false
    let isLast ← isTrue launch last
    modify fun s =>
      let others := s.active.filter fun n => n != number
      { s with active := if isLast then others else number :: others }
    return true

/-- The rules are carried out for the record at hand. -/
def handleRecord (rules : List (Rule × Nat)) : Run Unit := do
  for (rule, number) in rules do
    if ← applies launch number rule.condition then
      act launch (rule.body.getD (.print [] .output))

/-- The records of the input are handled, at most `n` of them. -/
def handleInput (rules : List (Rule × Nat)) : Nat → Run Unit
  | 0 => return
  | n + 1 => do
    match ← nextRecord with
    | none => return
    | some record =>
      setRecord (.input record)
      try
        handleRecord launch rules
      catch jump =>
        match jump with
        | .next => pure ()
        | .nextFile => modify fun s => { s with input := none }
        | jump => throw jump
      handleInput rules n

/-- Rules for the start or for the end are carried out. -/
def handleEdge (rules : List Rule) : Run Unit :=
  rules.forM fun rule => do
    match rule.body with
    | some body => act launch body
    | none => pure ()

/-- An action is taken; the code with which the script ends, if it ends there. The code is
`last` if none is given. -/
def ending? (last : Nat) (action : Run Unit) : Run (Option Nat) := do
  try
    action
    return none
  catch jump =>
    match jump with
    | .exit code => return some (code.getD last)
    | .next | .nextFile | .leave | .again | .return _ => return none
    | jump => throw jump

/-- The script is carried out; the code it ends with. -/
def runScript (script : Script) : Run Nat := do
  let select (p : Condition → Bool) : List Rule := script.rules.filter fun r => p r.condition
  let starts := select fun c => match c with
    | .start => true
    | _ => false
  let finishes := select fun c => match c with
    | .finish => true
    | _ => false
  let rules := script.rules.zipIdx.filter fun r => match r.1.condition with
    | .start | .finish => false
    | _ => true
  let started ← ending? 0 (handleEdge launch starts)
  let handled ← match started with
    | some code => pure (some code)
    | none =>
      if rules.isEmpty && finishes.isEmpty then pure none
      else ending? 0 (handleInput launch rules maxPasses)
  let code := handled.getD 0
  let finished ← if finishes.isEmpty then pure none else ending? code (handleEdge launch finishes)
  closeAll launch
  return finished.getD code

end

/-- The arguments of a script. -/
structure Arguments where
  /-- The files with the script. -/
  files : List String := []
  /-- The text of the script. -/
  text : Option String := none
  /-- The variables that are set, the last one first. -/
  settings : List (String × Value) := []
  /-- The other arguments. -/
  operands : List String := []

/-- An option is added. -/
def Arguments.add (a : Arguments) (letter : Char) (value : String) : Except String Arguments :=
  match letter with
  | 'f' => .ok { a with files := a.files ++ [value] }
  | 'F' =>
    match assignmentOf? ("FS=" ++ value) with
    | some v => .ok { a with settings := v :: a.settings }
    | none => .ok a
  | 'v' =>
    match assignmentOf? value with
    | some v => .ok { a with settings := v :: a.settings }
    | none => .error ("improper assignment: -v " ++ value)
  | c => .error ("not an option: -" ++ String.singleton c)

/-- The arguments of a script, read in at most `n` steps. -/
def Arguments.parseFrom : Nat → Arguments → List String → Except String Arguments
  | 0, a, _ => .ok a
  | _ + 1, a, [] => .ok a
  | n + 1, a, word :: rest =>
    let operands (words : List String) : Except String Arguments :=
      match a.files, words with
      | [], text :: words => .ok { a with text := some text, operands := words }
      | _, words => .ok { a with operands := words }
    match word.toList with
    | ['-', '-'] => operands rest
    | '-' :: '-' :: _ => .error ("not an option: " ++ word)
    | '-' :: c :: cs =>
      if !("fFv".toList.contains c) then .error ("not an option: " ++ word)
      else match cs, rest with
        | [], [] => .error ("no program")
        | [], value :: rest => do parseFrom n (← a.add c value) rest
        | cs, rest => do parseFrom n (← a.add c (String.ofList cs)) rest
    | _ => operands (word :: rest)

/-- The variables that every script finds set. -/
def standardVariables : List (String × Value) :=
  [("FS", .text " "), ("OFS", .text " "), ("ORS", .text "\n"), ("RS", .text "\n"),
    ("SUBSEP", .text "\x1c"), ("CONVFMT", .text "%.6g"), ("OFMT", .text "%.6g"), ("NR", .number 0),
    ("NF", .number 0), ("FNR", .number 0), ("RSTART", .number 0), ("RLENGTH", .number (-1)),
    ("FILENAME", .text "")]

/-- The tables that every script finds are filled. -/
def prepare (name : String) (operands : List String) (environment : List (String × String)) :
    Run Unit := do
  let inherited ← tableNamed "ENVIRON"
  for (key, value) in environment do setElement inherited key (.input value)
  let words ← tableNamed "ARGV"
  for (word, i) in (name :: operands).zipIdx do setElement words (toString i) (.input word)
  setGlobal "ARGC" (.number (operands.length + 1).toFloat)

/-- Carries out a script for the records of files. -/
def awk (launch : Launch) : Tool Nat := do
  let words ← args
  let ownName := ((← name).splitOn "/").getLastD ""
  let complain (message : String) : Tool Nat := do
    err (ownName ++ ": " ++ message ++ "\n")
    return 2
  match Arguments.parseFrom (words.length + 1) {} words with
  | .error message => complain message
  | .ok a =>
    let texts ← a.files.mapM fun path => do return (path, ← contents path)
    match texts.find? fun t => !t.2.isOk with
    | some (path, .error fault) =>
      complain ("cannot open \"" ++ path ++ "\" (" ++ fault.words ++ ")")
    | _ =>
      let given := texts.map fun t => t.2.toOption.getD ""
      match Script.parse ("\n".intercalate (given ++ a.text.toList)) with
      | .error fault => complain fault.words
      | .ok script =>
        let settings := standardVariables ++ a.settings.reverse
        let state : State := {
          script := script
          globals := settings.foldl (fun g v => g.insert v.1 v.2) ∅
          operands := a.operands }
        let action : Run Nat := do
          prepare ownName a.operands (← tool read).environment
          runScript launch script
        let (result, state) ← action.run.run state
        match result with
        | .ok code => return code
        | .error jump =>
          let (_, state) ← (closeAll launch).run.run state
          match jump with
          | .fault message => complain message
          | .runFault message =>
            let text (key : String) : String := (state.globals.getD key .unset).toText "%.6g"
            complain ("run time error: " ++ message ++ "\n\tFILENAME=\"" ++ text "FILENAME" ++
              "\" FNR=" ++ text "FNR" ++ " NR=" ++ text "NR")
          | _ => return 0

end CompileOrder.Shell.Awk
