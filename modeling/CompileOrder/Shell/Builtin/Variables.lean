import CompileOrder.Shell.Builtin.Text
import CompileOrder.Shell.Expansion

/-!
# The shell's own commands for variables

Setting, listing and removing variables, parameters, options and abbreviations, and
reading a line into variables.
-/

namespace CompileOrder.Shell.Builtin

/-- The variables in the order of their names. -/
def sorted (s : Session) : List (String × Variable) :=
  s.scope.mergeSort fun a b => decide (a.1 ≤ b.1)

/-- A line for each of some variables, as it can be read again. -/
def listing (lead : String) (scope : List (String × Variable)) : String :=
  String.join (scope.map fun (name, v) =>
    lead ++ name ++ (match v.value with
      | some value => "=" ++ Octets.quoted value
      | none => "") ++ "\n")

/-- A variable is marked, and gets a value if one is given. -/
def mark (mark : Variable → Variable) (word : String) : Act Unit := do
  let cs := word.toList
  let name := String.ofList (cs.takeWhile fun c => c != '=')
  let value := if cs.contains '=' then some (Octets.dropFirst (name.length + 1) word) else none
  if !Octets.isName name then Act.error (name ++ ": bad variable name")
  match value with
  | some value => Act.assign name value false
  | none => pure ()
  let s ← Act.session
  let old := (s.entry? name).getD { value := none }
  Act.modifySession fun s => s.withVariable name (mark old)

/-- Marks variables, or lists those that are marked: that is so without a name, and if the
first word begins as the option `-p`, whatever comes after it. -/
def marking (name : String) (set : Variable → Variable) (isSet : Variable → Bool)
    (args : List String) : Act Nat := do
  let isListing := (args.head?.map fun word => word.toList.take 2) == some ['-', 'p']
  let (_, words) ← if isListing then pure ([], []) else options "p" args
  if !words.isEmpty then words.forM (mark set)
  else
    let s ← Act.session
    Act.print (listing (name ++ " ") ((sorted s).filter fun v => isSet v.2))
  return 0

/-- Lets started commands find variables set. -/
def exportCommand (args : List String) : Act Nat :=
  marking "export" (fun v => { v with isExported := true }) (fun v => v.isExported) args

/-- Lets variables keep their values. -/
def readonly (args : List String) : Act Nat :=
  marking "readonly" (fun v => { v with isReadOnly := true }) (fun v => v.isReadOnly) args

/-- Gives a function variables of its own. -/
def localCommand (args : List String) : Act Nat := do
  let s ← Act.session
  if s.calls == 0 then Act.error "not in a function"
  args.forM fun word => do
    let cs := word.toList
    let name := String.ofList (cs.takeWhile fun c => c != '=')
    if name == "-" then return
    if !Octets.isName name then Act.error (name ++ ": bad variable name")
    Act.keep name
    if cs.contains '=' then Act.assign name (Octets.dropFirst (name.length + 1) word) false
  return 0

/-- Removes variables or functions. -/
def unset (args : List String) : Act Nat := do
  let (found, words) ← options "vf" args
  let isFunction := (found.getLast?.map fun o => o.1) == some 'f'
  words.forM fun name => do
    if isFunction then
      Act.modifySession fun s => { s with functions := s.functions.filter fun f => f.1 != name }
    else
      if !Octets.isName name then Act.error (name ++ ": bad variable name")
      let s ← Act.session
      if ((s.entry? name).map fun v => v.isReadOnly).getD false then
        Act.error (name ++ ": is read only")
      Act.modifySession fun s => s.withoutVariable name
  return 0

/-- The options of the shell: their letters and names. -/
def optionNames : List (Char × String) :=
  [('e', "errexit"), ('f', "noglob"), ('I', "ignoreeof"), ('i', "interactive"), ('m', "monitor"),
    ('n', "noexec"), ('s', "stdin"), ('x', "xtrace"), ('v', "verbose"), ('V', "vi"), ('E', "emacs"),
    ('C', "noclobber"), ('a', "allexport"), ('b', "notify"), ('u', "nounset"), ('p', "privileged"),
    ('\x01', "nolog"), ('\x02', "debug")]

/-- An option is set or not. -/
def setOption (letter : Char) (isOn : Bool) : Act Unit :=
  Act.modifySession fun s =>
    let others := s.options.filter fun c => c != letter
    { s with options := if isOn then letter :: others else others }

/-- The settings of all options. -/
def optionListing (s : Session) (isOn : Bool) : String :=
  if isOn then
    "Current option settings\n" ++ String.join (optionNames.map fun (letter, name) =>
      Octets.padRight 16 name ++ (if s.has letter then "on" else "off") ++ "\n")
  else String.join (optionNames.map fun (letter, name) =>
    "set " ++ (if s.has letter then "-o " else "+o ") ++ name ++ "\n")

/-- The letters of one word of options; `name` is the word after it. The answer tells
whether that word was used. -/
def setLetters (isOn : Bool) (name : Option String) : List Char → Bool → Act Bool
  | [], used => return used
  | 'o' :: cs, _ => do
    match name with
    | none => Act.print (optionListing (← Act.session) isOn)
    | some name =>
      match optionNames.find? fun o => o.2 == name with
      | some (letter, _) => setOption letter isOn
      | none => Act.error ("Illegal option -o " ++ name)
    setLetters isOn name cs true
  | c :: cs, used => do
    if c.toNat < 32 || !(optionNames.any fun o => o.1 == c) then
      Act.error ("Illegal option -" ++ String.singleton c)
    setOption c isOn
    setLetters isOn name cs used

/-- The options at the start of some words are set; the words after them, if they become
the parameters. -/
def setOptions : Nat → List String → Act (Option (List String))
  | 0, _ => return none
  | _ + 1, [] => return none
  | n + 1, word :: rest => do
    match word.toList with
    | ['-'] =>
      setOption 'x' false
      setOption 'v' false
      return if rest.isEmpty then none else some rest
    | ['-', '-'] => return some rest
    | '-' :: letters =>
      let used ← setLetters true rest.head? letters false
      setOptions n (if used then rest.tail else rest)
    | '+' :: letters =>
      let used ← setLetters false rest.head? letters false
      setOptions n (if used then rest.tail else rest)
    | _ => return some (word :: rest)

/-- Sets options and parameters, or lists variables. -/
def setCommand (args : List String) : Act Nat := do
  if args.isEmpty then
    let s ← Act.session
    Act.print (listing "" ((sorted s).filter fun v => v.2.value.isSome))
    return 0
  match ← setOptions (args.length + 1) args with
  | some parameters =>
    Act.modifySession fun s => s.withParameters parameters
  | none => return 0
  return 0

/-- Drops the first parameters. -/
def shift (args : List String) : Act Nat := do
  let n ← match args with
    | [] => pure 1
    | word :: _ => Act.number word
  let s ← Act.session
  if s.parameters.length < n then Act.error "can't shift that many"
  Act.modifySession fun s => s.withParameters (s.parameters.drop n)
  return 0

/-- An abbreviation as it can be read again. -/
def abbreviationText (a : String × String) : String := a.1 ++ "=" ++ Octets.quoted a.2 ++ "\n"

/-- Sets or lists abbreviations. -/
def aliasCommand (args : List String) : Act Nat := do
  let s ← Act.session
  if args.isEmpty then
    let all := s.abbreviations.mergeSort fun a b =>
      decide (Session.group 39 a.1 ≤ Session.group 39 b.1)
    Act.print (String.join (all.map abbreviationText))
    return 0
  let codes ← args.mapM fun word => do
    let cs := word.toList
    let name := String.ofList (cs.takeWhile fun c => c != '=')
    if cs.contains '=' && !name.isEmpty then
      let value := Octets.dropFirst (name.length + 1) word
      Act.modifySession fun s =>
        { s with abbreviations := (s.abbreviations.filter fun a => a.1 != name) ++ [(name, value)] }
      return 0
    else match (← Act.session).abbreviations.find? fun a => a.1 == word with
      | some a =>
        Act.print (abbreviationText a)
        return 0
      | none =>
        let _ ← Act.writeTo 2 ("alias: " ++ word ++ " not found\n")
        return 1
  return codes.foldl Nat.max 0

/-- Removes abbreviations. -/
def unalias (args : List String) : Act Nat := do
  let (found, words) ← options "a" args
  if !found.isEmpty then
    Act.modifySession fun s => { s with abbreviations := [] }
    return 0
  let codes ← words.mapM fun name => do
    if (← Act.session).abbreviations.any fun a => a.1 == name then
      Act.modifySession fun s =>
        { s with abbreviations := s.abbreviations.filter fun a => a.1 != name }
      return 0
    let _ ← Act.writeTo 2 ("unalias: " ++ name ++ " not found\n")
    return 1
  return codes.foldl Nat.max 0

/-- A line being read: its cells, the last one first. -/
structure Line where
  /-- The cells. -/
  cells : List Cell := [.stretch false]
  /-- The number of octets read. -/
  count : Nat := 0
  /-- Whether it ended with a line feed. -/
  isComplete : Bool := false

/-- The next line of some octets. A backslash takes the next octet literally, unless the
line is raw. -/
def readLine (isRaw : Bool) : Line → List Char → Line
  | l, [] => l
  | l, '\n' :: _ => { l with count := l.count + 1, isComplete := true }
  | l, '\\' :: cs =>
    if isRaw then
      readLine isRaw
        { l with cells := .glyph ⟨'\\', false⟩ true :: l.cells, count := l.count + 1 } cs
    else match cs with
      | [] => { l with count := l.count + 1 }
      | '\n' :: cs => readLine isRaw { l with count := l.count + 2 } cs
      | c :: cs =>
        readLine isRaw
          { l with
            cells := .stretch false :: .glyph ⟨c, true⟩ false :: l.cells
            count := l.count + 2 } cs
  | l, '\x00' :: cs => readLine isRaw { l with count := l.count + 1 } cs
  | l, c :: cs =>
    readLine isRaw { l with cells := .glyph ⟨c, false⟩ true :: l.cells, count := l.count + 1 } cs

/-- Reads a line into variables. -/
def read (args : List String) : Act Nat := do
  let (found, names) ← options "p:r" args
  if names.isEmpty then Act.error "arg count"
  let isRaw := found.any fun o => o.1 == 'r'
  let c ← get
  let line : Line := match c.session.descriptor? 0 with
    | none => {}
    | some i =>
      match c.machine.remaining i with
      | .ok bytes => readLine isRaw {} (Octets.ofBytes bytes).toList
      | .error _ => {}
  match c.session.descriptor? 0 with
  | some i => Act.modifyMachine fun m => m.consume i line.count
  | none => pure ()
  let fields := cutFields c.session.separators (some names.length) line.cells.reverse
  let values := fields.map Glyph.toText
  for (name, i) in names.zipIdx do Act.assignNamed name (values.getD i "") false
  return if line.isComplete then 0 else 1

/-- What `getopts` finds. -/
structure Finding where
  /-- The letter or mark for the variable. -/
  letter : Char
  /-- The argument, if it is set. -/
  argument : Option String := none
  /-- The number of the next word. -/
  index : Nat
  /-- The place reached in the word before that. -/
  offset : Option Nat := none
  /-- Whether there are no more options. -/
  isDone : Bool := false
  /-- What is said about a fault. -/
  message : String := ""

/-- The place of an option letter in a list of them: whether it takes an argument. -/
def optionKind? (c : Char) : List Char → Option Bool
  | [] => none
  | d :: ':' :: rest => if c == d then some true else optionKind? c rest
  | d :: rest => if c == d then some false else optionKind? c rest

/-- The next option of some words, from a word and a place in the word before it. -/
def findOption (letters : List Char) (words : List String) (index : Nat) (offset : Option Nat) :
    Finding :=
  let inside := match offset with
    | some off => if 2 ≤ index then ((words.getD (index - 2) "").toList.drop off) else []
    | none => []
  let isQuiet := letters.head? == some ':'
  let option (c : Char) (more : List Char) (index : Nat) : Finding :=
    let word := words.getD (index - 2) ""
    let next : Option Nat := if more.isEmpty then none else some (word.length - more.length)
    match optionKind? c letters with
    | none =>
      let f : Finding := { letter := '?', index := index, offset := next }
      if isQuiet then { f with argument := some (String.singleton c) }
      else { f with message := "Illegal option -" ++ String.singleton c ++ "\n" }
    | some false => { letter := c, argument := some "", index := index, offset := next }
    | some true =>
      if !more.isEmpty then { letter := c, argument := some (String.ofList more), index := index }
      else match words[index - 1]? with
        | some arg => { letter := c, argument := some arg, index := index + 1 }
        | none =>
          if isQuiet then { letter := ':', argument := some (String.singleton c), index := index }
          else { letter := '?', index := index,
                 message := "No arg for -" ++ String.singleton c ++ " option\n" }
  match inside with
  | c :: more => option c more index
  | [] =>
    match words[index - 1]? with
    | none => { letter := '?', index := index, isDone := true, argument := none }
    | some word =>
      match word.toList with
      | ['-', '-'] => { letter := '?', index := index + 1, isDone := true }
      | '-' :: c :: more => option c more (index + 1)
      | _ => { letter := '?', index := index, isDone := true }

/-- Puts the next option of the parameters or of its arguments into a variable. -/
def getopts (args : List String) : Act Nat := do
  match args with
  | letters :: name :: words =>
    let s ← Act.session
    let words := if words.isEmpty then s.parameters else words
    let index := s.optionIndex
    let (index, offset) := if words.length + 1 < index then (1, none) else (index, s.optionOffset)
    let f := findOption letters.toList words index offset
    let _ ← Act.writeTo 2 f.message
    match f.argument with
    | some argument => Act.assign "OPTARG" argument false
    | none => if !f.isDone then Act.modifySession fun s => s.withoutVariable "OPTARG"
    Act.assign "OPTIND" (toString f.index) false
    Act.assignNamed name (String.singleton f.letter) false
    Act.modifySession fun s => { s with optionOffset := f.offset }
    return if f.isDone then 1 else 0
  | _ => Act.error "Usage: getopts optstring var [arg...]"

end CompileOrder.Shell.Builtin
