import CompileOrder.Shell.Utility.Awk.Script
import CompileOrder.Shell.Utility.Awk.Token

/-!
# Grammar of scripts for records

Words are read into a script. From the loosest to the closest, expressions are bound
by the choice, by `||`, `&&`, `in`, matching, comparing, joining, sums, products, signs,
powers and steps. In the values of a `print` without parentheses, the sign `>` is not a
comparison.
-/

namespace CompileOrder.Shell.Awk

/-- The state of reading a script. -/
structure Reader where
  /-- The words that are left. -/
  rest : List Placed
  /-- The last line. -/
  lastLine : Nat
  /-- The functions that are called. -/
  called : List String := []

/-- A step of reading a script. -/
abbrev Parse := StateT Reader (Except ScriptFault)

namespace Parse

/-- The next word, which stays. -/
def peek? : Parse (Option Token) := do return (← get).rest.head?.map fun p => p.token

/-- The word after the next one. -/
def second? : Parse (Option Token) := do return (← get).rest.tail.head?.map fun p => p.token

/-- The next word is read. -/
def advance : Parse Unit := modify fun s => { s with rest := s.rest.tail }

/-- The next word is not what it should be. -/
def refuse {α : Type} : Parse α := do
  let s ← get
  match s.rest with
  | p :: _ => throw (.unexpected p.line p.spelling)
  | [] => throw (.unclosed s.lastLine)

/-- Whether the next word is a mark. -/
def isMark (m : String) : Parse Bool := do
  match ← peek? with
  | some (.mark k) => return k == m
  | _ => return false

/-- Whether the next word is a word with a meaning. -/
def isWord (w : String) : Parse Bool := do
  match ← peek? with
  | some (.word k) => return k == w
  | _ => return false

/-- The next word is read if it is a mark. -/
def acceptMark (m : String) : Parse Bool := do
  if ← isMark m then
    advance
    return true
  return false

/-- The next word is read if it is a word with a meaning. -/
def acceptWord (w : String) : Parse Bool := do
  if ← isWord w then
    advance
    return true
  return false

/-- A mark is read. -/
def mark (m : String) : Parse Unit := do
  if !(← acceptMark m) then refuse

/-- A name is read. -/
def name : Parse String := do
  match ← peek? with
  | some (.name s) =>
    advance
    return s
  | _ => refuse

/-- The ends of lines are read. -/
def lineEnds : Parse Unit :=
  modify fun s => { s with rest := s.rest.dropWhile fun p => match p.token with
    | .lineEnd => true
    | _ => false }

/-- The ends of lines and of statements are read. -/
def statementEnds : Parse Unit :=
  modify fun s => { s with rest := s.rest.dropWhile fun p => match p.token with
    | .lineEnd | .mark ";" => true
    | _ => false }

/-- The number of words that are left. -/
def size : Parse Nat := do return (← get).rest.length

end Parse

open Awk.Parse

/-- The rules of one level. -/
structure Rules where
  /-- An expression; in a `print` without parentheses there is no comparison with `>`. -/
  expression : Bool → Parse Expr
  /-- A statement. -/
  statement : Parse Statement

section

variable (rules : Rules)

/-- At most `n` expressions with commas between them. -/
def expressions (isPrinted : Bool) : Nat → Parse (List Expr)
  | 0 => refuse
  | n + 1 => do
    let e ← rules.expression isPrinted
    if ← acceptMark "," then
      lineEnds
      return e :: (← expressions isPrinted n)
    return [e]

/-- Expressions up to a closing parenthesis. -/
def arguments : Parse (List Expr) := do
  if ← acceptMark ")" then return []
  let es ← expressions rules false (← size)
  mark ")"
  return es

/-- The numbers of arguments that a function takes. -/
def arity : String → Nat × Nat
  | "length" | "srand" | "fflush" => (0, 1)
  | "rand" => (0, 0)
  | "substr" | "split" | "sub" | "gsub" => (2, 3)
  | "index" | "match" | "atan2" => (2, 2)
  | "sprintf" => (1, 1000000)
  | _ => (1, 1)

/-- A function that every script has, after its name. -/
def builtinCall (name : String) (line : Nat) : Parse Expr := do
  let args ← if ← acceptMark "(" then arguments rules
    else if name == "length" then pure [] else refuse
  let (least, most) := arity name
  if args.length < least || most < args.length then throw (.arguments line name)
  return .builtin name args

/-- Whether the next word can begin a value that something is assigned to. -/
def beginsTarget : Parse Bool := do
  match ← peek? with
  | some (.name _) | some (.mark "$") => return true
  | _ => return false

/-- A value without anything after it, at most `n` signs of fields deep. -/
def primary : Nat → Parse Expr
  | 0 => refuse
  | n + 1 => do
    let line := ((← get).rest.head?.map fun p => p.line).getD 0
    match ← peek? with
    | some (.number x) =>
      advance
      return .number x
    | some (.text s) =>
      advance
      return .text s
    | some (.pattern s) =>
      advance
      return .pattern s
    | some (.builtin s) =>
      advance
      builtinCall rules s line
    | some (.procedure s) =>
      advance
      mark "("
      modify fun r => { r with called := s :: r.called }
      return .call s (← arguments rules)
    | some (.name s) =>
      advance
      if ← acceptMark "[" then
        let keys ← expressions rules false (← size)
        mark "]"
        return .element s keys
      return .name s
    | some (.mark "(") =>
      advance
      let es ← expressions rules false (← size)
      mark ")"
      match es with
      | [e] => return e
      | es =>
        if !(← acceptWord "in") then refuse
        return .isIn es (← name)
    | some (.mark "$") =>
      advance
      if ← acceptMark "++" then return .field (.step true true (← primary n))
      if ← acceptMark "--" then return .field (.step true false (← primary n))
      if ← acceptMark "-" then return .field (.negative (← primary n))
      return .field (← primary n)
    | some (.word "getline") =>
      advance
      let target ← if ← beginsTarget then some <$> primary n else pure none
      if ← acceptMark "<" then return .readFile target (← primary n)
      return .readInput target
    | _ => refuse

/-- The operation before an equals sign. -/
def assignment? : Token → Option (Option Operation)
  | .mark "=" => some none
  | .mark "+=" => some (some .add)
  | .mark "-=" => some (some .subtract)
  | .mark "*=" => some (some .multiply)
  | .mark "/=" => some (some .divide)
  | .mark "%=" => some (some .remainder)
  | .mark "^=" => some (some .power)
  | _ => none

/-- A value with a step or an assignment. -/
def stepped (isPrinted : Bool) : Parse Expr := do
  if ← acceptMark "++" then return .step true true (← primary rules (← size))
  if ← acceptMark "--" then return .step true false (← primary rules (← size))
  let e ← primary rules ((← size) + 1)
  if !e.isTarget then return e
  if ← acceptMark "++" then return .step false true e
  if ← acceptMark "--" then return .step false false e
  match (← peek?).bind assignment? with
  | some operation =>
    advance
    lineEnds
    return .assign operation e (← rules.expression isPrinted)
  | none => return e

/-- A power, or a value with a sign; at most `n` signs and powers. -/
def signed (isPrinted : Bool) : Nat → Parse Expr
  | 0 => refuse
  | n + 1 => do
    if ← acceptMark "!" then return .not (← signed isPrinted n)
    if ← acceptMark "-" then return .negative (← signed isPrinted n)
    if ← acceptMark "+" then return .positive (← signed isPrinted n)
    let base ← stepped rules isPrinted
    if ← acceptMark "^" then return .operate .power base (← signed isPrinted n)
    return base

/-- Values with operations of one rank between them, at most `n`. -/
def chain (operand : Parse Expr) (operation? : Token → Option (Expr → Expr → Expr)) :
    Nat → Expr → Parse Expr
  | 0, _ => refuse
  | n + 1, left => do
    match (← peek?).bind operation? with
    | some combine =>
      advance
      lineEnds
      chain operand operation? n (combine left (← operand))
    | none => return left

/-- A product. -/
def product (isPrinted : Bool) : Parse Expr := do
  let operand := do signed rules isPrinted ((← size) + 1)
  let operation? : Token → Option (Expr → Expr → Expr)
    | .mark "*" => some (.operate .multiply)
    | .mark "/" => some (.operate .divide)
    | .mark "%" => some (.operate .remainder)
    | _ => none
  chain operand operation? ((← size) + 1) (← operand)

/-- A sum. -/
def sum (isPrinted : Bool) : Parse Expr := do
  let operand := product rules isPrinted
  let operation? : Token → Option (Expr → Expr → Expr)
    | .mark "+" => some (.operate .add)
    | .mark "-" => some (.operate .subtract)
    | _ => none
  chain operand operation? ((← size) + 1) (← operand)

/-- Whether the next word begins a value that is joined to the one before it. -/
def beginsJoined : Parse Bool := do
  match ← peek? with
  | some (.number _) | some (.text _) | some (.pattern _) | some (.name _) | some (.procedure _)
  | some (.builtin _) => return true
  | some (.mark m) => return m == "$" || m == "(" || m == "++" || m == "--" || m == "!"
  | _ => return false

/-- Values that are joined, at most `n`. -/
def joined (isPrinted : Bool) : Nat → Expr → Parse Expr
  | 0, _ => refuse
  | n + 1, left => do
    if ← beginsJoined then joined isPrinted n (.join left (← sum rules isPrinted)) else return left

/-- Values that are joined, perhaps read from the output of a command. -/
def piped : Nat → Expr → Parse Expr
  | 0, _ => refuse
  | n + 1, left => do
    match ← peek?, ← second? with
    | some (.mark "|"), some (.word "getline") =>
      advance
      advance
      let target ← if ← beginsTarget then some <$> primary rules ((← size) + 1) else pure none
      piped n (.readCommand target left)
    | _, _ => return left

/-- A comparison. -/
def comparison (isPrinted : Bool) : Parse Expr := do
  let operand : Parse Expr := do
    let first ← sum rules isPrinted
    let e ← joined rules isPrinted ((← size) + 1) first
    piped rules ((← size) + 1) e
  let relation? : Token → Option (Expr → Expr → Expr)
    | .mark "<" => some (.compare .less)
    | .mark "<=" => some (.compare .lessOrEqual)
    | .mark "==" => some (.compare .equal)
    | .mark "!=" => some (.compare .different)
    | .mark ">=" => some (.compare .greaterOrEqual)
    | .mark ">" => if isPrinted then none else some (.compare .greater)
    | _ => none
  chain operand relation? ((← size) + 1) (← operand)

/-- Matching. -/
def matched (isPrinted : Bool) : Parse Expr := do
  let operand := comparison rules isPrinted
  let operation? : Token → Option (Expr → Expr → Expr)
    | .mark "~" => some (.matching true)
    | .mark "!~" => some (.matching false)
    | _ => none
  chain operand operation? ((← size) + 1) (← operand)

/-- Whether tables have elements, at most `n` times. -/
def contained : Nat → Expr → Parse Expr
  | 0, _ => refuse
  | n + 1, left => do
    if ← acceptWord "in" then contained n (.isIn [left] (← name)) else return left

/-- Whether all of some conditions hold. -/
def conjunction (isPrinted : Bool) : Parse Expr := do
  let operand : Parse Expr := do
    let e ← matched rules isPrinted
    contained ((← size) + 1) e
  let operation? : Token → Option (Expr → Expr → Expr)
    | .mark "&&" => some .and
    | _ => none
  chain operand operation? ((← size) + 1) (← operand)

/-- Whether one of some conditions holds. -/
def disjunction (isPrinted : Bool) : Parse Expr := do
  let operand := conjunction rules isPrinted
  let operation? : Token → Option (Expr → Expr → Expr)
    | .mark "||" => some .or
    | _ => none
  chain operand operation? ((← size) + 1) (← operand)

/-- An expression. -/
def expression (isPrinted : Bool) : Parse Expr := do
  let e ← disjunction rules isPrinted
  if ← acceptMark "?" then
    lineEnds
    let a ← rules.expression isPrinted
    lineEnds
    mark ":"
    lineEnds
    return .choose e a (← rules.expression isPrinted)
  return e

/-- Whether a statement without braces is over. -/
def isOver : Parse Bool := do
  match ← peek? with
  | none | some .lineEnd => return true
  | some (.mark m) => return m == ";" || m == "\x7d"
  | _ => return false

/-- Whether the values of a `print` are over. -/
def isPrintOver : Parse Bool := do
  if ← isOver then return true
  match ← peek? with
  | some (.mark m) => return m == ">" || m == ">>" || m == "|"
  | _ => return false

/-- The values of a `print` all in parentheses, if they are. -/
def enclosed? : Parse (Option (List Expr)) := do
  let before ← get
  if !(← acceptMark "(") then return none
  let es ← arguments rules
  if ← isPrintOver then return some es
  set before
  return none

/-- The values of a `print`. -/
def printed : Parse (List Expr) := do
  if ← isPrintOver then return []
  match ← enclosed? rules with
  | some es => return es
  | none => expressions rules true (← size)

/-- Where output goes. -/
def destination : Parse Destination := do
  let place : Parse Expr := do
    let first ← sum rules true
    joined rules true ((← size) + 1) first
  if ← acceptMark ">" then return .file (← place)
  if ← acceptMark ">>" then return .endOf (← place)
  if ← acceptMark "|" then return .command (← place)
  return .output

/-- A value, unless the statement is over. -/
def value? : Parse (Option Expr) := do
  if ← isOver then return none
  some <$> rules.expression false

/-- A statement that ends with a semicolon or a line, without that end. -/
def simple : Parse Statement := do
  match ← peek? with
  | some (.word "print") =>
    advance
    let args ← printed rules
    return .print args (← destination rules)
  | some (.word "printf") =>
    advance
    let args ← printed rules
    if args.isEmpty then refuse
    return .printf args (← destination rules)
  | some (.word "delete") =>
    advance
    let table ← name
    if ← acceptMark "[" then
      let keys ← expressions rules false (← size)
      mark "]"
      return .delete table keys
    return .delete table []
  | some (.word "break") =>
    advance
    return .leave
  | some (.word "continue") =>
    advance
    return .again
  | some (.word "next") =>
    advance
    return .next
  | some (.word "nextfile") =>
    advance
    return .nextFile
  | some (.word "exit") =>
    advance
    return .exit (← value? rules)
  | some (.word "return") =>
    advance
    return .return (← value? rules)
  | _ => return .evaluate (← rules.expression false)

/-- The end of a statement. -/
def ending : Parse Unit := do
  if !(← isOver) then refuse
  match ← peek? with
  | some .lineEnd | some (.mark ";") => advance
  | _ => return

/-- At most `n` statements up to a closing brace. -/
def statements : Nat → Parse (List Statement)
  | 0 => refuse
  | n + 1 => do
    statementEnds
    if ← acceptMark "\x7d" then return []
    let first ← rules.statement
    return first :: (← statements n)

/-- Statements in braces. -/
def block : Parse Statement := do
  mark "\x7b"
  return .block (← statements rules ((← size) + 1))

/-- A condition in parentheses. -/
def condition : Parse Expr := do
  mark "("
  let e ← rules.expression false
  mark ")"
  return e

/-- The body of a loop or a branch. -/
def body : Parse Statement := do
  lineEnds
  if ← acceptMark ";" then return .block []
  rules.statement

/-- A simple statement, unless a mark follows. -/
def simpleUnless (m : String) : Parse (Option Statement) := do
  if ← isMark m then return none
  some <$> simple rules

/-- A loop after its `for`. -/
def forLoop : Parse Statement := do
  mark "("
  let ahead : List Token := ((← get).rest.take 4).map fun p => p.token
  match ahead with
  | .name key :: .word "in" :: .name table :: .mark ")" :: [] =>
    modify fun s => { s with rest := s.rest.drop 4 }
    return .forEach key table (← body rules)
  | _ =>
    let start ← simpleUnless rules ";"
    mark ";"
    lineEnds
    let condition ← if ← isMark ";" then pure none else some <$> rules.expression false
    mark ";"
    lineEnds
    let step ← simpleUnless rules ")"
    mark ")"
    return .loop start condition step (← body rules)

/-- A statement. -/
def statement : Parse Statement := do
  match ← peek? with
  | some (.mark "\x7b") =>
    let b ← block rules
    return b
  | some (.word "if") =>
    advance
    let c ← condition rules
    let first ← body rules
    let before ← get
    statementEnds
    if ← acceptWord "else" then return .branch c first (some (← body rules))
    set before
    return .branch c first none
  | some (.word "while") =>
    advance
    let c ← condition rules
    return .while c (← body rules)
  | some (.word "do") =>
    advance
    let b ← body rules
    statementEnds
    if !(← acceptWord "while") then refuse
    let c ← condition rules
    ending
    return .repeat b c
  | some (.word "for") =>
    advance
    forLoop rules
  | _ =>
    let s ← simple rules
    ending
    return s

end

/-- The rules with a number of levels. -/
def rulesAt : Nat → Rules
  | 0 => ⟨fun _ => refuse, refuse⟩
  | n + 1 => ⟨fun isPrinted => expression (rulesAt n) isPrinted, statement (rulesAt n)⟩

/-- At most `n` parameters up to a closing parenthesis. -/
def parameters : Nat → Parse (List String)
  | 0 => refuse
  | n + 1 => do
    if ← acceptMark ")" then return []
    let p ← name
    if ← acceptMark "," then
      lineEnds
      return p :: (← parameters n)
    mark ")"
    return [p]

/-- The actions of a rule, if there are any. -/
def actions (rules : Rules) : Parse (Option Statement) := do
  if ← isMark "\x7b" then some <$> block rules else return none

/-- One rule or function is read. -/
def item (rules : Rules) (script : Script) : Parse Script := do
  match ← peek? with
  | some (.word "BEGIN") =>
    advance
    let b ← block rules
    return { script with rules := script.rules ++ [⟨.start, some b⟩] }
  | some (.word "END") =>
    advance
    let b ← block rules
    return { script with rules := script.rules ++ [⟨.finish, some b⟩] }
  | some (.word "function") | some (.word "func") =>
    advance
    let f ← match ← peek? with
      | some (.procedure f) | some (.name f) => pure f
      | _ => refuse
    advance
    mark "("
    let ps ← parameters ((← size) + 1)
    lineEnds
    let b ← block rules
    return { script with procedures := script.procedures ++ [(f, ⟨ps, b⟩)] }
  | some (.mark "\x7b") =>
    let b ← block rules
    return { script with rules := script.rules ++ [⟨.always, some b⟩] }
  | some (.mark "\x7d") =>
    throw (.extra (((← get).rest.head?.map fun p => p.line).getD 1))
  | _ =>
    let first ← rules.expression false
    let c ← if ← acceptMark "," then
        lineEnds
        pure (Condition.between first (← rules.expression false))
      else pure (.holds first)
    return { script with rules := script.rules ++ [⟨c, ← actions rules⟩] }

/-- At most `n` rules and functions. -/
def items (rules : Rules) : Nat → Script → Parse Script
  | 0, script => return script
  | n + 1, script => do
    statementEnds
    match ← peek? with
    | none => return script
    | some _ => items rules n (← item rules script)

/-- The script that a text is. -/
def Script.parse (text : String) : Except ScriptFault Script := do
  let words ← placed text
  let lastLine := (text.toList.filter fun c => c == '\n').length + 2
  let (script, r) ← (items (rulesAt (words.length + 1)) (words.length + 1) {}).run
    ⟨words, lastLine, []⟩
  let defined := script.procedures.map fun p => p.1
  match r.called.reverse.find? fun f => !defined.contains f with
  | some f => throw (.undefined lastLine f)
  | none => return script

end CompileOrder.Shell.Awk
