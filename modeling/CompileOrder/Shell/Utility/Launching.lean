import CompileOrder.Shell.Builtin.Processes
import CompileOrder.Shell.Signal
import CompileOrder.Shell.Utility.Values

/-!
# Utilities that launch commands

A command with other variables, with a limit of time, or with arguments from the
input.
-/

namespace CompileOrder.Shell.Utility

open Tool

/-- A command is launched; if that is not possible, it is said why. -/
def launchOrComplain (launch : Launch) (quote : String → String) (lead : String)
    (words : List String) :
    Tool Nat := do
  match ← launch words with
  | .ok status => return Builtin.codeOf status
  | .error fault =>
    let name := words.headD ""
    complain (lead ++ quote name ++ ": " ++ fault.systemWords)
    return fault.code

/-- The assignments at the start of some words, and the words after them. -/
def leadingAssignments : List String → List (String × String) × List String
  | [] => ([], [])
  | word :: rest =>
    let cs := word.toList
    let name := cs.takeWhile fun c => c != '='
    if name.length < cs.length && !name.isEmpty then
      let (found, rest) := leadingAssignments rest
      ((String.ofList name, String.ofList (cs.drop (name.length + 1))) :: found, rest)
    else ([], word :: rest)

/-- Variables of an environment are set. -/
def setVariables (environment : List (String × String)) : List (String × String) →
    List (String × String)
  | [] => environment
  | (name, value) :: rest =>
    let next := if environment.any fun v => v.1 == name then
        environment.map fun v => if v.1 == name then (name, value) else v
      else environment ++ [(name, value)]
    setVariables next rest

/-- An action with another environment. -/
def withEnvironment {α : Type} (environment : List (String × String)) (action : Tool α) : Tool α :=
  fun call => action { call with environment := environment }

/-- Launches a command with other variables, or shows the variables. -/
def env (launch : Launch) : Tool Nat :=
  withLeadingOptions [{ letter := 'i', word := "ignore-environment" },
      { letter := 'u', word := "unset", takes := .required }, { letter := '0', word := "null" },
      { letter := 'C', word := "chdir", takes := .required },
      { letter := 'S', word := "split-string", takes := .required },
      { letter := 'v', word := "debug" }] 125
    fun p => do
      let operands := (match p.get? 'S' with
        | some text => (text.splitOn " ").filter fun w => !w.isEmpty
        | none => []) ++ p.operands
      let isCleared := p.has 'i' || operands.head? == some "-"
      let operands := if operands.head? == some "-" then operands.tail else operands
      let (assignments, words) := leadingAssignments operands
      let removed := p.options.filterMap fun o => if o.1 == 'u' then some o.2 else none
      let inherited := (← read).environment
      let start := if isCleared then [] else inherited.filter fun v => !removed.contains v.1
      let environment := setVariables start assignments
      let before := (← get).directory
      match p.get? 'C' with
      | some path =>
        match (← get).locate path with
        | .ok place => modify fun m => m.withDirectory place
        | .error fault =>
          return ← fail 125 ("cannot change directory to " ++ Quote.always path ++ ": " ++
            fault.words)
      | none => pure ()
      let ending := if p.has '0' then "\x00" else "\n"
      let listing : Tool Nat := do
        out (String.join (environment.map fun v => v.1 ++ "=" ++ v.2 ++ ending))
        return 0
      let code ← if words.isEmpty then listing
        else withEnvironment environment (launchOrComplain launch Quote.inWords "" words)
      modify fun m => m.withDirectory before
      return code

/-- The time that a command takes which only waits, in thousandths of a second. -/
def waitingTime (words : List String) : Nat :=
  match words with
  | name :: rest =>
    if name == "sleep" || name == "/bin/sleep" || name == "/usr/bin/sleep" then
      (rest.filterMap duration?).foldl (· + ·) 0
    else 0
  | [] => 0

/-- Launches a command with a limit of time. -/
def timeout (launch : Launch) : Tool Nat :=
  withLeadingOptions [{ letter := 's', word := "signal", takes := .required },
      { letter := 'k', word := "kill-after", takes := .required },
      { letter := 'v', word := "verbose" },
      { letter := '\x01', word := "foreground" },
      { letter := '\x02', word := "preserve-status" }] 125
    fun p => do
      match p.operands with
      | [] | [_] =>
        err ("Try '" ++ (← name) ++ " --help' for more information.\n")
        return 125
      | limit :: words =>
        match duration? limit with
        | none => misuse 125 ("invalid time interval " ++ Quote.inWords limit)
        | some n =>
          if n != 0 && n < waitingTime words then
            modify fun m => m.pass n
            let signal := ((p.get? 's').bind Signal.ofText?).getD 15
            return if signal == 9 then 137 else if p.has '\x02' then 128 + signal else 124
          else launchOrComplain launch Quote.inWords "failed to run command " words

/-- Launches a command that goes on when its terminal is gone. -/
def nohup (launch : Launch) : Tool Nat :=
  withLeadingOptions [] 125 fun p => do
    if p.operands.isEmpty then misuse 125 "missing operand"
    else launchOrComplain launch Quote.always "failed to run command " p.operands

/-- Launches a command that lets others go first. -/
def nice (launch : Launch) : Tool Nat := do
  let words ← args
  let words := match words with
    | w :: rest => if isNegativeNumber w then rest else words
    | [] => []
  match Flag.parse [{ letter := 'n', word := "adjustment", takes := .required }] words true with
  | .error message => misuse 125 message
  | .ok p =>
    if p.operands.isEmpty then
      outLines ["0"]
      return 0
    launchOrComplain launch Quote.inWords "" p.operands

/-- Launches a command that is told how to collect what it reads and writes, which cannot be
seen from outside. -/
def stdbuf (launch : Launch) : Tool Nat :=
  withLeadingOptions [{ letter := 'i', word := "input", takes := .required },
      { letter := 'o', word := "output", takes := .required },
      { letter := 'e', word := "error", takes := .required }] 125 fun p => do
    if p.options.any fun o => o.1 == 'i' && o.2 == "L" then
      return ← misuse 125 "line buffering stdin is meaningless"
    match p.options.find? fun o => o.2 != "L" && (Octets.number? o.2).isNone with
    | some o => fail 125 ("invalid mode " ++ Quote.inWords o.2)
    | none =>
      if p.operands.isEmpty then misuse 125 "missing operand"
      else if p.options.isEmpty then misuse 125 "you must specify a buffering mode option"
      else launchOrComplain launch Quote.inWords "failed to run command " p.operands

/-- How the items of the input are told apart. -/
inductive Splitting where
  /-- By blanks, with quotes and backslashes. -/
  | words
  /-- By lines, with quotes and backslashes. -/
  | lines
  /-- By an octet. -/
  | octet (c : Char)
  deriving DecidableEq, Repr

/-- The items of a text, the last one first, or why there are none. -/
def itemsOf (isLines : Bool) : Nat → Option (List Char) → List String → List Char →
    Except String (List String)
  | 0, _, done, _ => .ok done
  | _ + 1, none, done, [] => .ok done
  | _ + 1, some item, done, [] => .ok (String.ofList item.reverse :: done)
  | n + 1, item, done, c :: cs =>
    let close (item : Option (List Char)) : List String := match item with
      | some item => String.ofList item.reverse :: done
      | none => done
    let blank := c == ' ' || c == '\t'
    if c == '\n' || (!isLines && blank) then itemsOf isLines n none (close item) cs
    else if isLines && blank && item.isNone then itemsOf isLines n none done cs
    else if c == '\\' then
      match cs with
      | [] => itemsOf isLines n item done []
      | d :: cs => itemsOf isLines n (some (d :: item.getD [])) done cs
    else if c == '\'' || c == '"' then
      let inner := cs.takeWhile fun d => d != c && d != '\n'
      match cs.drop inner.length with
      | d :: rest =>
        if d == c then itemsOf isLines n (some (inner.reverse ++ item.getD [])) done rest
        else .error c.toString
      | [] => .error c.toString
    else itemsOf isLines n (some (c :: item.getD [])) done cs

/-- The items of a text. -/
def splitItems (text : String) : Splitting → Except String (List String)
  | .octet c =>
    let parts := text.splitOn (String.singleton c)
    .ok (if parts.getLast? == some "" then parts.dropLast else parts)
  | .words => (itemsOf false (text.length + 2) none [] text.toList).map List.reverse
  | .lines => (itemsOf true (text.length + 2) none [] text.toList).map List.reverse

/-- The items in groups of a size. -/
def groups (size : Nat) : Nat → List String → List (List String)
  | 0, _ => []
  | _ + 1, [] => []
  | n + 1, items => items.take size :: groups size n (items.drop size)

/-- Launches a command with arguments from the input. -/
def xargs (launch : Launch) : Tool Nat :=
  withLeadingOptions [{ letter := '0', word := "null" },
      { letter := 'a', word := "arg-file", takes := .required },
      { letter := 'd', word := "delimiter", takes := .required },
      { letter := 'E', takes := .required },
      { letter := 'I', takes := .required }, { letter := 'i', takes := .optional },
      { letter := 'L', word := "max-lines", takes := .required },
      { letter := 'n', word := "max-args", takes := .required },
      { letter := 'P', word := "max-procs", takes := .required },
      { letter := 'r', word := "no-run-if-empty" }, { letter := 's', takes := .required },
      { letter := 't', word := "verbose" }, { letter := 'x', word := "exit" }, { letter := 'p' }] 1
    fun p => do
      let text ← match p.get? 'a' with
        | some path => contents path
        | none => input
      let replaced := match p.last? "Ii" with
        | some 'I' => p.get? 'I'
        | some _ => some "\x7b\x7d"
        | none => none
      let splitting : Splitting :=
        if p.has '0' then .octet '\x00'
        else match p.get? 'd' with
          | some d => .octet ((Escape.resolve d).1.toList.headD '\n')
          | none => if replaced.isSome then .lines else .words
      match splitItems (text.toOption.getD "") splitting with
      | .error quote =>
        fail 1 ("unmatched " ++ (if quote == "'" then "single" else "double") ++
          " quote; by default quotes are special to xargs unless you use the -0 option")
      | .ok items =>
        let command := if p.operands.isEmpty then ["echo"] else p.operands
        let size := match (p.get? 'n').bind Octets.number?, (p.get? 'L').bind Octets.number? with
          | some n, _ => n
          | none, some n => n
          | none, none => max items.length 1
        let launches := match replaced with
          | some mark => items.map fun item =>
              command.map fun (w : String) => String.intercalate item (w.splitOn mark)
          | none =>
            if items.isEmpty then if p.has 'r' then [] else [command]
            else (groups (max size 1) (items.length + 1) items).map fun g => command ++ g
        let mut code := 0
        let mut isOver := false
        for words in launches do
          if !isOver then
            if p.has 't' then err (" ".intercalate (words.map Quote.forShell) ++ "\n")
            match ← launch words with
            | .ok (.exited 0) => pure ()
            | .ok (.exited 255) =>
              complain (words.headD "" ++ ": exited with status 255; aborting")
              code := 124
              isOver := true
            | .ok (.exited _) => code := 123
            | .ok (.signalled n) =>
              complain (words.headD "" ++ ": terminated by signal " ++ toString n)
              code := 125
              isOver := true
            | .error fault =>
              complain (words.headD "" ++ ": " ++ fault.systemWords)
              code := fault.code
              isOver := true
        return code

end CompileOrder.Shell.Utility
