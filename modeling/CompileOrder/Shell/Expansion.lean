import CompileOrder.Shell.Arithmetic
import CompileOrder.Shell.Fields
import CompileOrder.Shell.Session

/-!
# Expansion of words

Parameters, the output of commands, expressions and tildes are put into words. A word
of a command is then cut into fields, and a field that is a pattern stands for the
files it describes, in order, if there are any. Where a single text is wanted, as in
an assignment, nothing is cut and patterns stay.
-/

namespace CompileOrder.Shell

/-- Where a tilde stands for a home directory. -/
inductive TildeRule where
  /-- Nowhere. -/
  | nowhere
  /-- At the start of the word. -/
  | start
  /-- At the start of the value of an assignment and after each colon in it. -/
  | value
  deriving DecidableEq, Repr

/-- How a word is expanded. -/
structure Manner where
  /-- Whether the word is cut into fields. -/
  isFull : Bool := false
  /-- Whether quotes are open around the word. -/
  isQuoted : Bool := false
  /-- Whether its own characters can be cut, too. -/
  breaks : Bool := false
  /-- Where a tilde has its meaning. -/
  tilde : TildeRule := .nowhere
  deriving DecidableEq, Repr

/-- What expansion needs of the shell around it. -/
structure Expander where
  /-- The output of commands. -/
  substitute : Option Command → Act String
  /-- The expansion of a word inside a word. -/
  nested : Manner → Word → Act (List Cell)

namespace Expansion

/-- The home directory of a user. -/
def homeOf? (s : Session) (user : String) : Option String :=
  if user.isEmpty then s.value? "HOME" else if user == "root" then some "/root" else none

/-- The home directory that a tilde at the start of a text stands for, and the text after
the user's name. -/
def tilde? (s : Session) (isValue isLast : Bool) (cs : List Char) : Option (String × List Char) :=
  match cs with
  | '~' :: cs =>
    let user := cs.takeWhile fun c => c != '/' && !(isValue && c == ':')
    let rest := cs.drop user.length
    if rest.isEmpty && !isLast then none
    else (homeOf? s (String.ofList user)).map fun home => (home, rest)
  | _ => none

/-- The cells of characters of the word itself. -/
def literal (m : Manner) (cs : List Char) (quoted : Bool) : List Cell :=
  let splits := m.breaks && !m.isQuoted && !quoted
  let cells := cs.map fun c => Cell.glyph ⟨c, quoted⟩ splits
  if splits && !cs.isEmpty then .stretch false :: cells else cells

/-- The cells of a value in which each colon is followed by a place for a tilde. -/
def afterColons (s : Session) (m : Manner) (isLast : Bool) : Nat → List Char → List Cell
  | 0, cs => literal m cs false
  | n + 1, cs =>
    let before := cs.takeWhile fun c => c != ':'
    match cs.drop before.length with
    | [] => literal m cs false
    | colon :: rest =>
      let start := literal m (before ++ [colon]) false
      match tilde? s true isLast rest with
      | some (home, rest) =>
        start ++ (Glyph.ofText home true).map (fun g => .glyph g false) ++
          afterColons s m isLast n rest
      | none => start ++ afterColons s m isLast n rest

/-- The cells of the characters at the start of a word, where a tilde can stand. -/
def opening (s : Session) (m : Manner) (isLast : Bool) (text : String) : List Cell :=
  let cs := text.toList
  let isValue := m.tilde == .value
  let (home, rest) := match tilde? s isValue isLast cs with
    | some (home, rest) => ((Glyph.ofText home true).map fun g => Cell.glyph g false, rest)
    | none => ([], cs)
  home ++ if isValue then afterColons s m isLast rest.length rest else literal m rest false

/-- The letters of the options as one parameter shows them. -/
def optionLetters (s : Session) : String :=
  String.ofList ("upbaCEVvxsnmiIfe".toList.filter fun c => c != 'p' && s.has c)

/-- The value of a parameter. Several positional parameters have a NUL between them. -/
def parameter? (s : Session) (name : String) : Option String :=
  match name with
  | "@" | "*" => some ("\x00".intercalate s.parameters)
  | "?" => some (toString s.status)
  | "#" => some (toString s.parameters.length)
  | "$" => some (toString s.mainProcess)
  | "!" => s.lastJob.map toString
  | "-" => some (optionLetters s)
  | name =>
    match Octets.number? name with
    | some 0 => some s.name
    | some (n + 1) => s.parameters[n]?
    | none => s.value? name

/-- Whether the parameter stands for all positional parameters. -/
def isList (name : String) : Bool := name == "@" || name == "*"

/-- What stands between positional parameters that become one text. -/
def joint (s : Session) : String :=
  match s.value? "IFS" with
  | some ifs => String.ofList (ifs.toList.take 1)
  | none => " "

/-- The cells of the value of a parameter. -/
def valueCells (s : Session) (m : Manner) (name value : String) (quoted : Bool) : List Cell :=
  if !isList name then Cell.ofValue value quoted
  else
    let spread (between : Cell) (quoted : Bool) : List Cell :=
      value.toList.map fun c => if c == '\x00' then between else .glyph ⟨c, quoted⟩ !quoted
    if m.isFull && quoted && name == "@" then
      if s.parameters.isEmpty then [] else .stretch true :: spread .boundary true
    else if m.isFull && !quoted then .stretch false :: spread .gap false
    else Cell.ofValue ((joint s).intercalate (value.splitOn "\x00")) quoted

/-- The length of the value of a parameter. -/
def lengthOf (s : Session) (name value : String) : Nat :=
  if isList name then ((joint s).intercalate (value.splitOn "\x00")).length else value.length

section

variable (x : Expander)

/-- The text of a word inside a word. -/
def nestedText (word : Word) : Act String := do
  return Cell.text (← x.nested { tilde := .start } word)

/-- A parameter is not set although it has to be. -/
def missing {α : Type} (name : String) (word : Option Word) (orEmpty : Bool) : Act α := do
  match word with
  | none => Act.error (name ++ ": parameter not set")
  | some [] => Act.error (name ++ ": parameter not set" ++ if orEmpty then " or null" else "")
  | some word => Act.error (name ++ ": " ++ (← nestedText x word))

/-- The cells of a parameter. -/
def parameterCells (m : Manner) (name : String) (use : Use) (orEmpty quoted : Bool) (word : Word) :
    Act (List Cell) := do
  let quoted := quoted || m.isQuoted
  let s ← Act.session
  let value := parameter? s name
  let isSet := match value with
    | some v => !(orEmpty && v.isEmpty)
    | none => false
  let cells := valueCells s m name (value.getD "") quoted
  let inside := { m with isQuoted := quoted, breaks := true, tilde := .start }
  let demanded : Act Unit := do
    if !isSet && s.has 'u' && !isList name then missing x name none false
  match use with
  | .malformed => Act.error "Bad substitution"
  | .value =>
    demanded
    return cells
  | .length =>
    demanded
    return Cell.ofValue (toString (lengthOf s name (value.getD ""))) quoted
  | .fallback => if isSet then return cells else x.nested inside word
  | .alternative => if isSet then x.nested inside word else return []
  | .demand => if isSet then return cells else missing x name (some word) orEmpty
  | .assign =>
    if isSet then return cells
    else
      let text ← nestedText x word
      Act.assignNamed name text false
      return Cell.ofValue text quoted
  | .trimStart longest =>
    demanded
    let pattern := Cell.glyphs (← x.nested { tilde := .start } word)
    return valueCells s m name (Pattern.trimStart longest pattern (value.getD "")) quoted
  | .trimEnd longest =>
    demanded
    let pattern := Cell.glyphs (← x.nested { tilde := .start } word)
    return valueCells s m name (Pattern.trimEnd longest pattern (value.getD "")) quoted

/-- The value of an expression. -/
def arithmetic (expression : Word) : Act Int := do
  let text := Cell.text (← x.nested {} expression)
  let s ← Act.session
  match Arithmetic.evaluate s.value text with
  | .error (.malformed reason) =>
    Act.error ("arithmetic expression: " ++ reason ++ ": \"" ++ text ++ "\"")
  | .error (.illegalNumber value) => Act.error ("Illegal number: " ++ value)
  | .ok (value, assigned) =>
    for (name, n) in assigned do Act.assign name (toString n) false
    return value

/-- The cells of the pieces of a word, after some cells. -/
def pieces (m : Manner) : Bool → List (List Cell) → Word → Act (List (List Cell))
  | _, done, [] => return done
  | _, done, .quotes :: .parameter "@" .value false true [] :: .quotes :: rest => do
    let cells ← parameterCells x m "@" .value false true []
    pieces m false (cells :: done) rest
  | isStart, done, .text chars quoted :: rest => do
    let s ← Act.session
    let canOpen := !quoted && m.tilde != .nowhere && (isStart || m.tilde == .value)
    let cells := if !canOpen then literal m chars.toList quoted
      else if isStart then opening s m rest.isEmpty chars
      else afterColons s m rest.isEmpty chars.length chars.toList
    pieces m false (cells :: done) rest
  | _, done, .quotes :: rest => pieces m false ([.mark] :: done) rest
  | _, done, .parameter name use orEmpty quoted word :: rest => do
    let cells ← parameterCells x m name use orEmpty quoted word
    pieces m false (cells :: done) rest
  | _, done, .substitution body quoted :: rest => do
    let text ← x.substitute body
    pieces m false (Cell.ofValue text (quoted || m.isQuoted) :: done) rest
  | _, done, .arithmetic expression quoted :: rest => do
    let value ← arithmetic x expression
    pieces m false (Cell.ofValue (toString value) (quoted || m.isQuoted) :: done) rest

/-- The cells of a word. -/
def cells (m : Manner) (word : Word) : Act (List Cell) := do
  return (← pieces x m true [] word).reverse.flatten

/-- The text of a word that is not cut into fields. -/
def text (tilde : TildeRule) (word : Word) : Act String := do
  return Cell.text (← cells x { tilde := tilde } word)

/-- The text of a here-document. -/
def documentText (word : Word) : Act String := do
  return Cell.text (← cells x { isQuoted := true } word)

/-- The pattern that a word is. -/
def pattern (word : Word) : Act (List Glyph) := do
  return Cell.glyphs (← cells x { tilde := .start } word)

/-- The stretches of a path between slashes; a slash stands for itself even if quoted. -/
def stretches (gs : List Glyph) : List (List Glyph) :=
  gs.foldr (fun g acc =>
    if g.char == '/' then [] :: acc
    else match acc with
      | [] => [[g]]
      | s :: ss => (g :: s) :: ss) [[]]

/-- The names in a directory that a pattern describes. A name that begins with a point is
described only by a pattern that does. -/
def matching (machine : Machine) (directory : String) (pattern : List Glyph) : List String :=
  match machine.entries (if directory.isEmpty then "." else directory) with
  | .error _ => []
  | .ok names =>
    let isDotted := (Pattern.unescape pattern).head?.map (fun g => g.char) == some '.'
    let names := if isDotted then "." :: ".." :: names else names
    let items := Pattern.items pattern
    names.filter fun name =>
      (isDotted || name.toList.head? != some '.') && Pattern.matchItems items name.toList

/-- The paths that begin with a text and go on with the stretches. -/
def paths (machine : Machine) (isPattern : Bool) : List (List Glyph) → String → List String
  | [], start => if isPattern && machine.holds start then [start] else []
  | [last], start =>
    if Pattern.hasMeaning last then (matching machine start last).map fun name => start ++ name
    else
      let path := start ++ Glyph.toText (Pattern.unescape last)
      if isPattern && machine.holds path then [path] else []
  | s :: t :: rest, start =>
    if Pattern.hasMeaning s then
      (matching machine start s).flatMap fun name =>
        paths machine true (t :: rest) (start ++ name ++ "/")
    else paths machine isPattern (t :: rest) (start ++ Glyph.toText (Pattern.unescape s) ++ "/")

/-- The files that a field stands for, or the field itself. -/
def files (s : Session) (machine : Machine) (field : List Glyph) : List String :=
  if s.has 'f' || !Pattern.hasMeaning field then [Glyph.toText field]
  else match paths machine false (stretches field) "" with
    | [] => [Glyph.toText field]
    | found => found.mergeSort fun a b => decide (a ≤ b)

/-- The fields that a word of a command expands to. -/
def fields (word : Word) : Act (List String) := do
  let cells ← cells x { isFull := true, tilde := .start } word
  let c ← get
  return (cutFields c.session.separators none cells).flatMap (files c.session c.machine)

/-- The text of an assignment. -/
def assignment (name : String) (value : Word) : Act String := do
  return name ++ "=" ++ (← text x .value value)

end

end Expansion

end CompileOrder.Shell
