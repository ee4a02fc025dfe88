import CompileOrder.Shell.Utility.Entry
import CompileOrder.Shell.Utility.Reading
import CompileOrder.Shell.Utility.Sed.Script

/-!
# Editing of streams

A script is carried out for line after line of the input. The line at hand can be
changed and kept for later; it is shown at the end unless told otherwise.
-/

namespace CompileOrder.Shell.Sed

open Tool

/-- Something shown after the line at hand. -/
inductive Queued where
  /-- A text. -/
  | text (s : String)
  /-- A file. -/
  | file (path : String)
  deriving DecidableEq, Repr

/-- A line of the input. -/
structure InputLine where
  /-- The line. -/
  text : String
  /-- Whether a line feed ends it. -/
  hasEnd : Bool
  /-- The file it is from. -/
  file : String

/-- The state of editing. -/
structure State where
  /-- The script. -/
  script : Array Instruction
  /-- Whether lines are not shown by themselves. -/
  isQuiet : Bool
  /-- The lines that are left. -/
  input : List InputLine
  /-- The number of the line at hand. -/
  number : Nat := 0
  /-- The line at hand. -/
  space : String := ""
  /-- Whether a line feed ends it. -/
  hasEnd : Bool := true
  /-- The file it is from. -/
  file : String := "-"
  /-- The line that is kept. -/
  held : String := ""
  /-- Whether a line feed ends it. -/
  heldHasEnd : Bool := true
  /-- What is shown after the line. -/
  queue : List Queued := []
  /-- Whether something was replaced. -/
  isReplaced : Bool := false
  /-- The commands whose lines have begun, with the number of the last one if it is known. -/
  active : List (Nat × Option Nat) := []
  /-- The expression used last. -/
  lastExpression : Option Expression := none
  /-- Whether an expression was used before there was one. -/
  isFaulty : Bool := false
  /-- Whether the output lacks a line feed. -/
  lacksEnd : Bool := false
  /-- The output, the last part first, if it is kept. -/
  output : Option (List String) := none
  /-- The lines of files that are read one by one. -/
  readers : List (String × List String) := []

/-- A step of editing. -/
abbrev Edit := StateT State Tool

/-- Text is shown. -/
def emit (text : String) : Edit Unit := do
  let s ← get
  let text := (if s.lacksEnd then "\n" else "") ++ text
  match s.output with
  | some parts => set { s with output := some (text :: parts), lacksEnd := false }
  | none =>
    set { s with lacksEnd := false }
    out text

/-- A line is shown. -/
def emitLine (text : String) (hasEnd : Bool) : Edit Unit := do
  emit (text ++ (if hasEnd then "\n" else ""))
  modify fun s => { s with lacksEnd := !hasEnd }

/-- The line at hand is shown. -/
def emitSpace : Edit Unit := do
  let s ← get
  emitLine s.space s.hasEnd

/-- What was left for later is shown. -/
def flushQueue : Edit Unit := do
  let queue := (← get).queue
  modify fun s => { s with queue := [] }
  for item in queue do
    match item with
    | .text s => emit s
    | .file path =>
      let found : Except FileFault String ← (contents path : Tool _)
      emit (found.toOption.getD "")

/-- The next line of the input, if there is one. -/
def nextLine : Edit (Option InputLine) := do
  match (← get).input with
  | [] => return none
  | line :: rest =>
    flushQueue
    modify fun s =>
      { s with input := rest, number := s.number + 1, isReplaced := false, file := line.file }
    return some line

/-- The expression itself, or the one used last. -/
def resolve (e : Expression) : Edit (Option Expression) := do
  match e.regex with
  | some _ =>
    modify fun s => { s with lastExpression := some e }
    return some e
  | none =>
    let s ← get
    if s.lastExpression.isNone then set { s with isFaulty := true }
    return s.lastExpression

/-- The first stretch of the line at hand that an expression describes. -/
def searchSpace (e : Expression) (chars : Array Char) (start : Nat) :
    Edit (Option Regex.Match) := do
  match ← resolve e with
  | some e => return e.regex.bind fun r => r.search chars start e.isMultiline
  | none => return none

/-- Whether the line at hand is one that an address names. -/
def isAt (a : Address) : Edit Bool := do
  let s ← get
  match a with
  | .line n => return s.number == n
  | .step first step =>
    return if step == 0 then s.number == first
      else first ≤ s.number && (s.number - first) % step == 0
  | .last => return s.input.isEmpty
  | .regex e => return (← searchSpace e s.space.toList.toArray 0).isSome

/-- The lines of a command begin with the line at hand. -/
def beginAt (index : Nat) (stop : Stop) : Edit Unit := do
  let n := (← get).number
  let activate (last : Option Nat) : Edit Unit :=
    modify fun s => { s with active := (index, last) :: s.active }
  match stop with
  | .address (.line m) => if n < m then activate (some m)
  | .later m => if m != 0 then activate (some (n + m))
  | .multiple m => if m != 0 then activate (some ((n / m + 1) * m))
  | .address _ => activate none

/-- The lines of a command are over. -/
def endAt (index : Nat) : Edit Unit :=
  modify fun s => { s with active := s.active.filter fun a => a.1 != index }

/-- Whether a command is for the line at hand, its inversion apart. -/
def isChosen (index : Nat) (lines : Lines) : Edit Bool := do
  match lines.last with
  | none => isAt lines.first
  | some stop =>
    let s ← get
    match s.active.find? fun a => a.1 == index with
    | none =>
      if ← isAt lines.first then
        beginAt index stop
        return true
      return false
    | some (_, some last) =>
      if last ≤ s.number then endAt index
      return s.number ≤ last
    | some (_, none) =>
      match stop with
      | .address a => if ← isAt a then endAt index
      | _ => pure ()
      return true

/-- A character as it is listed. -/
def listed (c : Char) : String :=
  match c with
  | '\\' => "\\\\"
  | '\n' => "\\n"
  | c => if Octets.isPrint c then String.singleton c else Quote.escape c

/-- The line at hand as it is listed, in pieces of a width. -/
def listing (width : Nat) (line : List String) (used : Nat) : List String → String
  | [] => String.join line.reverse ++ "$\n"
  | item :: rest =>
    if width - 1 < used + item.length then
      String.join line.reverse ++ "\\\n" ++ listing width [item] item.length rest
    else listing width (item :: line) (used + item.length) rest

/-- A line is written at the end of a file. -/
def writeTo (path line : String) (hasEnd : Bool) : Edit Unit := do
  if path == "/dev/stdout" then emitLine line hasEnd
  else
    let text := line ++ (if hasEnd then "\n" else "")
    let write : Tool Unit := do
      if path == "/dev/stderr" then err text
      else
        let m : Machine ← MonadStateOf.get
        let old := (m.read path).toOption.getD ""
        let gap := if old.isEmpty || old.toList.getLast? == some '\n' then "" else "\n"
        match m.writeFile path (Octets.toBytes (old ++ gap ++ text)) with
        | .ok m => MonadStateOf.set m
        | .error _ => pure ()
    write

/-- The state of writing letters in upper or lower case. -/
structure Casing where
  /-- How letters are written. -/
  mode : Option LetterCase := none
  /-- How the next letter is written. -/
  once : Option LetterCase := none

/-- A text in the case that is asked for. -/
def Casing.write (c : Casing) (text : String) : String × Casing :=
  let change (mode : Option LetterCase) (x : Char) : Char := match mode with
    | some .upper | some .upperNext => x.toUpper
    | some .lower | some .lowerNext => x.toLower
    | _ => x
  match text.toList with
  | [] => (text, c)
  | x :: xs =>
    let first := if c.once.isSome then change c.once x else change c.mode x
    (String.ofList (first :: xs.map (change c.mode)), { c with once := none })

/-- The replacement for a stretch. -/
def replacementText (chars : Array Char) (found : Regex.Match) (parts : List ReplacementPart) :
    String :=
  (parts.foldl (fun (state : String × Casing) part =>
    let (done, casing) := state
    let add (text : String) : String × Casing :=
      let (text, casing) := casing.write text
      (done ++ text, casing)
    match part with
    | .text s => add s
    | .group 0 => add (Regex.stretch chars found.first found.last)
    | .group n => match found.captures.get? n with
      | some (a, b) => add (Regex.stretch chars a b)
      | none => (done, casing)
    | .letters .upper => (done, { casing with mode := some .upper })
    | .letters .lower => (done, { casing with mode := some .lower })
    | .letters .end => (done, {})
    | .letters next => (done, { casing with once := some next })) ("", {})).1

/-- The line with stretches replaced: the parts of the result, the last one first, and
whether anything was replaced. `count` is the number of stretches before, and `edge` the
place where the last one ended. -/
def substituteFrom (s : Substitution) (chars : Array Char) :
    Nat → Nat → Nat → Option Nat → List String → Bool → Edit (List String × Bool)
  | 0, start, _, _, done, isReplaced =>
    return (Regex.stretch chars start chars.size :: done, isReplaced)
  | n + 1, start, count, edge, done, isReplaced => do
    let finish : List String × Bool := (Regex.stretch chars start chars.size :: done, isReplaced)
    if chars.size < start then return (done, isReplaced)
    match ← searchSpace s.target chars start with
    | none => return finish
    | some found =>
      let before := Regex.stretch chars start found.first
      let isEmpty := found.first == found.last
      if isEmpty && edge == some found.first then
        -- An empty stretch right after another one does not count.
        if chars.size ≤ found.first then return finish
        substituteFrom s chars n (found.first + 1) count none
          (Regex.stretch chars found.first (found.first + 1) :: before :: done) isReplaced
      else
        let count := count + 1
        let isChosen := if s.isGlobal then s.number ≤ count else s.number == count
        let text := if isChosen then replacementText chars found s.parts
          else Regex.stretch chars found.first found.last
        let done := text :: before :: done
        let isReplaced := isReplaced || isChosen
        if isChosen && !s.isGlobal then
          return (Regex.stretch chars found.last chars.size :: done, isReplaced)
        if isEmpty then
          if chars.size ≤ found.first then return (done, isReplaced)
          substituteFrom s chars n (found.first + 1) count none
            (Regex.stretch chars found.first (found.first + 1) :: done) isReplaced
        else substituteFrom s chars n found.last count (some found.last) done isReplaced

/-- What comes after the commands for a line. -/
inductive Outcome where
  /-- The line is shown, and the next one is read. -/
  | next
  /-- The next line is read. -/
  | skip
  /-- The script begins again with the line as it is. -/
  | restart
  /-- Editing ends after the line is shown, perhaps. -/
  | quit (code : Nat) (isShown : Bool)
  deriving DecidableEq, Repr

/-- The place after the block that begins before a place. -/
def afterBlock (script : Array Instruction) : Nat → Nat → Nat → Nat
  | 0, _, i => i
  | n + 1, depth, i =>
    match script[i]? with
    | none => i
    | some instruction =>
      match instruction.action with
      | .blockStart => afterBlock script n (depth + 1) (i + 1)
      | .blockEnd => if depth == 0 then i + 1 else afterBlock script n (depth - 1) (i + 1)
      | _ => afterBlock script n depth (i + 1)

/-- The place of a label; the end of the script for no name. -/
def placeOf (script : Array Instruction) (name : String) : Nat :=
  if name.isEmpty then script.size
  else (script.toList.findIdx? fun i => match i.action with
    | .label l => l == name
    | _ => false).getD script.size

/-- The text before the first line feed, and the text after it if there is one. -/
def firstLine (text : String) : String × Option String :=
  match text.splitOn "\n" with
  | [] => ("", none)
  | [one] => (one, none)
  | first :: rest => (first, some ("\n".intercalate rest))

/-- The next line of a file that is read line by line. -/
def lineOf (path : String) : Edit (Option String) := do
  let s ← get
  let lines ← match s.readers.find? fun r => r.1 == path with
    | some (_, lines) => pure lines
    | none => do
      let found : Except FileFault String ← (contents path : Tool _)
      pure (Utility.pieces (found.toOption.getD ""))
  modify fun s =>
    { s with readers := (path, lines.drop 1) :: s.readers.filter fun r => r.1 != path }
  return lines.head?

/-- Commands are carried out from a place on, at most `n` of them. -/
def run : Nat → Nat → Edit Outcome
  | 0, _ => return .quit 1 false
  | n + 1, place => do
    let s ← get
    match s.script[place]? with
    | none => return .next
    | some instruction =>
      let isOn ← match instruction.lines with
        | none => pure true
        | some lines => isChosen place lines
      if (← get).isFaulty then return .quit 1 false
      if isOn == instruction.isInverted then
        match instruction.action with
        | .blockStart => run n (afterBlock s.script s.script.size 0 (place + 1))
        | _ => run n (place + 1)
      else
        let setSpace (text : String) : Edit Unit := modify fun s => { s with space := text }
        match instruction.action with
        | .blockStart | .blockEnd | .nothing | .label _ => run n (place + 1)
        | .append text =>
          modify fun s => { s with queue := s.queue ++ [.text text] }
          run n (place + 1)
        | .insert text =>
          if !text.isEmpty then emit text
          run n (place + 1)
        | .change text =>
          let isInside := (← get).active.any fun a => a.1 == place
          if (!isInside || instruction.isInverted) && !text.isEmpty then emit text
          return .skip
        | .branch name => run n (placeOf s.script name)
        | .branchIf name =>
          if s.isReplaced then
            modify fun s => { s with isReplaced := false }
            run n (placeOf s.script name)
          else run n (place + 1)
        | .branchUnless name =>
          if s.isReplaced then
            modify fun s => { s with isReplaced := false }
            run n (place + 1)
          else run n (placeOf s.script name)
        | .delete => return .skip
        | .deleteFirst =>
          match firstLine s.space with
          | (_, none) => return .skip
          | (_, some rest) =>
            setSpace rest
            return .restart
        | .print =>
          emitSpace
          run n (place + 1)
        | .printFirst =>
          let (first, rest) := firstLine s.space
          emitLine first (rest.isSome || s.hasEnd)
          run n (place + 1)
        | .number =>
          emit (toString s.number ++ "\n")
          run n (place + 1)
        | .list =>
          emit (listing 70 [] 0 (s.space.toList.map listed))
          run n (place + 1)
        | .next =>
          if s.input.isEmpty then return .quit 0 true
          if !s.isQuiet then emitSpace
          match ← nextLine with
          | some line =>
            modify fun s => { s with space := line.text, hasEnd := line.hasEnd }
            run n (place + 1)
          | none => return .quit 0 true
        | .nextAppend =>
          match ← nextLine with
          | some line =>
            modify fun s => { s with space := s.space ++ "\n" ++ line.text, hasEnd := line.hasEnd }
            run n (place + 1)
          | none => return .quit 0 true
        | .hold =>
          modify fun s => { s with held := s.space, heldHasEnd := s.hasEnd }
          run n (place + 1)
        | .holdAppend =>
          modify fun s => { s with held := s.held ++ "\n" ++ s.space, heldHasEnd := s.hasEnd }
          run n (place + 1)
        | .fetch =>
          modify fun s => { s with space := s.held, hasEnd := s.heldHasEnd }
          run n (place + 1)
        | .fetchAppend =>
          modify fun s => { s with space := s.space ++ "\n" ++ s.held, hasEnd := s.heldHasEnd }
          run n (place + 1)
        | .exchange =>
          modify fun s =>
            { s with
              space := s.held, hasEnd := s.heldHasEnd
              held := s.space, heldHasEnd := s.hasEnd }
          run n (place + 1)
        | .zap =>
          setSpace ""
          run n (place + 1)
        | .fileName =>
          emit (s.file ++ "\n")
          run n (place + 1)
        | .quit code => return .quit code true
        | .quitSilently code => return .quit code false
        | .readFile path =>
          modify fun s => { s with queue := s.queue ++ [.file path] }
          run n (place + 1)
        | .readLine path =>
          match ← lineOf path with
          | some line => modify fun s => { s with queue := s.queue ++ [.text line] }
          | none => pure ()
          run n (place + 1)
        | .writeFile path =>
          writeTo path s.space s.hasEnd
          run n (place + 1)
        | .writeFirst path =>
          let (first, rest) := firstLine s.space
          writeTo path first (rest.isSome || s.hasEnd)
          run n (place + 1)
        | .transliterate table =>
          setSpace (String.ofList (s.space.toList.map fun c =>
            ((table.find? fun e => e.1 == c).map fun e => e.2).getD c))
          run n (place + 1)
        | .substitute sub =>
          let chars := s.space.toList.toArray
          let (parts, isReplaced) ← substituteFrom sub chars (2 * chars.size + 2) 0 0 none [] false
          if (← get).isFaulty then return .quit 1 false
          if isReplaced then
            modify fun s => { s with space := String.join parts.reverse, isReplaced := true }
            if sub.prints then emitSpace
            match sub.file with
            | some path => writeTo path (← get).space (← get).hasEnd
            | none => pure ()
          run n (place + 1)

/-- The number of commands that are carried out for a line at most. -/
def maxSteps : Nat := 100000

/-- Line after line is edited, at most `n` of them; the code to end with. -/
def cycles : Nat → Bool → Edit Nat
  | 0, _ => return 0
  | n + 1, isFresh => do
    let hasLine ← do
      if isFresh then
        match ← nextLine with
        | some line =>
          modify fun s => { s with space := line.text, hasEnd := line.hasEnd }
          pure true
        | none => pure false
      else pure true
    if !hasLine then return 0
    let outcome ← run maxSteps 0
    let isQuiet := (← get).isQuiet
    match outcome with
    | .next =>
      if !isQuiet then emitSpace
      flushQueue
      cycles n true
    | .skip =>
      flushQueue
      cycles n true
    | .restart =>
      flushQueue
      cycles n false
    | .quit code isShown =>
      if (← get).isFaulty then
        (complain "-e expression #1, char 0: no previous regular expression" : Tool Unit)
      if isShown && !isQuiet then emitSpace
      if isShown then flushQueue
      return code

/-- The lines of a file. -/
def inputLines (file text : String) : List InputLine :=
  (Utility.pieces text).map fun piece =>
    let cs := piece.toList
    if cs.getLast? == some '\n' then ⟨String.ofList cs.dropLast, true, file⟩
    else ⟨piece, false, file⟩

/-- The files that a script writes to. -/
def writtenFiles (script : List Instruction) : List String :=
  script.filterMap fun i => match i.action with
    | .writeFile path | .writeFirst path => some path
    | .substitute s => s.file
    | _ => none

/-- A jump to a label that is not there. -/
def missingLabel? (script : List Instruction) : Option String :=
  let labels := script.filterMap fun i => match i.action with
    | .label name => some name
    | _ => none
  script.findSome? fun i => match i.action with
    | .branch name | .branchIf name | .branchUnless name =>
      if name.isEmpty || labels.contains name then none else some name
    | _ => none

/-- Where a fault of a script is, in words, for the texts of the options it came from. -/
def faultPlace (position : Nat) : Nat → List String → String
  | number, [] => "-e expression #" ++ toString number ++ ", char " ++ toString position
  | number, text :: rest =>
    if position ≤ text.length || rest.isEmpty then
      "-e expression #" ++ toString number ++ ", char " ++ toString position
    else faultPlace (position - text.length - 1) (number + 1) rest

/-- The commands that begin at once: those whose lines begin before the first one. -/
def initiallyActive (script : List Instruction) : List (Nat × Option Nat) :=
  script.zipIdx.filterMap fun (i, n) =>
    if i.lines.any fun l => l.isFromStart then some (n, none) else none

/-- The options of the editor. -/
def flags : List Flag :=
  [{ letter := 'n', word := "quiet" }, { letter := 'n', word := "silent" },
    { letter := 'e', word := "expression", takes := .required },
    { letter := 'f', word := "file", takes := .required },
    { letter := 'E', word := "regexp-extended" },
    { letter := 'r' }, { letter := 'i', word := "in-place", takes := .optional },
    { letter := 's', word := "separate" }, { letter := 'u', word := "unbuffered" },
    { letter := 'z', word := "null-data" },
    { letter := 'l', word := "line-length", takes := .required },
    { letter := '\x01', word := "posix" }, { letter := '\x02', word := "sandbox" },
    { letter := '\x03', word := "debug" }, { letter := '\x04', word := "follow-symlinks" }]

/-- A use of options that is not possible. -/
def misuseOptions (message : String) : Tool Nat := do
  if !message.isEmpty then complain message
  err ("Usage: " ++ (← name) ++
    " [OPTION]... \x7bscript-only-if-no-other-script\x7d [input-file]...\n\n")
  return 1

/-- The scripts that options name: their texts, and whether each is a file. -/
def scriptTexts : List (Char × String) → Tool (Except Nat (List (String × Option String)))
  | [] => return .ok []
  | ('e', text) :: rest => do return (← scriptTexts rest).map fun all => (text, none) :: all
  | ('f', path) :: rest => do
    match ← contents path with
    | .ok text =>
      let text :=
        if text.toList.getLast? == some '\n' then Octets.takeFirst (text.length - 1) text
        else text
      return (← scriptTexts rest).map fun all => (text, some path) :: all
    | .error fault =>
      return .error (← fail 4 ("couldn't open file " ++ path ++ ": " ++ fault.words))
  | _ :: rest => scriptTexts rest

/-- The line of a position in a text. -/
def lineAt (text : String) (position : Nat) : Nat :=
  ((text.toList.take (position - 1)).filter fun c => c == '\n').length + 1

/-- The texts of files; what is said of those that cannot be read. -/
def readInputs : List String → Tool (List (String × String) × Nat)
  | [] => return ([], 0)
  | path :: rest => do
    let found ← contents path
    let (here, code) ← match found with
      | .ok text => pure ([(path, text)], 0)
      | .error .isDirectory => do
        let code ← fail 4 ("read error on " ++ path ++ ": " ++ FileFault.isDirectory.words)
        pure ([], code)
      | .error fault => do
        let code ← fail 2 ("can't read " ++ path ++ ": " ++ fault.words)
        pure ([], code)
    let (others, later) ← readInputs rest
    return (here ++ others, max code later)

/-- The name of the copy of a file, by an ending or by a pattern with an asterisk. -/
def backupName (path ending : String) : String :=
  let name := Utility.lastName path
  let new :=
    if ending.toList.contains '*' then name.intercalate (ending.splitOn "*")
    else name ++ ending
  if new.toList.contains '/' then new
  else Octets.takeFirst (path.length - name.length) path ++ new

/-- An edited file takes the place of the one at a path, which may be kept under another
name. A link is replaced itself unless it is to be followed. -/
def replaceFile (path ending : String) (followsLast : Bool) (new : String) (m : Machine) :
    Machine :=
  let place := if followsLast then m.locate path else Utility.newPlace m path
  match m.find path, place with
  | .ok node, .ok place =>
    let m := match ending.isEmpty, Utility.newPlace m (backupName path ending) with
      | false, .ok kept => m.moveAt place kept
      | _, _ => m.removeAt place
    let a := m.tree.newAttributes 0
    m.withTree (m.tree.put place (.file (Octets.toBytes new)
      { a with
        mode := node.about.mode
        owner := node.about.owner
        group := node.about.group }))
  | _, _ => m

/-- Edits files. -/
def sed : Tool Nat := do
  match Flag.parse flags (← args) with
  | .error message => misuseOptions message
  | .ok p =>
    let hasScripts := p.has 'e' || p.has 'f'
    match hasScripts, p.operands with
    | false, [] => misuseOptions ""
    | _, operands =>
      let given := if hasScripts then p.options else [('e', operands.headD "")]
      let files := if hasScripts then operands else operands.drop 1
      match ← scriptTexts given with
      | .error code => return code
      | .ok texts =>
        let script := "\n".intercalate (texts.map fun t => t.1)
        let isQuiet := p.has 'n' || script == "#n" || "#n\n".toList.isPrefixOf script.toList
        match parse (p.has 'E' || p.has 'r') script with
        | .error (position, message) =>
          match texts with
          | [(text, some path)] =>
            fail 1 ("file " ++ path ++ " line " ++ toString (lineAt text position) ++ ": " ++
              message)
          | texts => fail 1 (faultPlace position 1 (texts.map fun t => t.1) ++ ": " ++ message)
        | .ok instructions =>
          match missingLabel? instructions with
          | some label => fail 4 ("can't find label for jump to \x60" ++ label ++ "'")
          | none =>
            for path in writtenFiles instructions do
              if path != "/dev/stdout" && path != "/dev/stderr" then
                modify fun m => (m.writeFile path []).toOption.getD m
            let (inputs, code) ← readInputs (Utility.orInput files)
            let start : State := {
              script := instructions.toArray, isQuiet := isQuiet, input := []
              active := initiallyActive instructions }
            let isInPlace := p.has 'i'
            if isInPlace || p.has 's' then
              let mut final := code
              let mut before := start
              for (path, text) in inputs do
                let state := { start with
                  input := inputLines path text
                  held := before.held, heldHasEnd := before.heldHasEnd
                  lacksEnd := !isInPlace && before.lacksEnd
                  output := if isInPlace then some [] else none }
                let (status, after) ← (cycles (2 * text.length + 2) true).run state
                before := after
                final := max final status
                if isInPlace then
                  let new := String.join (after.output.getD []).reverse
                  modify (replaceFile path ((p.get? 'i').getD "") (p.has '\x04') new)
              return final
            else
              let lines := inputs.flatMap fun (path, text) => inputLines path text
              let size := (inputs.map fun i => i.2.length).foldl (· + ·) 0
              let (status, _) ← (cycles (2 * size + 2) true).run { start with input := lines }
              return if status != 0 then status else code

end CompileOrder.Shell.Sed
