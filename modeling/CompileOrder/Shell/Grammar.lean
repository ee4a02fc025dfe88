import CompileOrder.Shell.Word

/-!
# The grammar of scripts

A script is a sequence of lists of commands. A list joins commands by semicolons,
ampersands, `&&`, `||` and pipes; a command is simple, or is put together from lists
by keywords. The rules for lists and commands refer to themselves and are given a
number of levels that no script exceeds.
-/

namespace CompileOrder.Shell

/-- The commands that a function must not be named for. -/
def specialCommands : List String :=
  [".", ":", "break", "continue", "eval", "exec", "exit", "export", "local", "readonly",
    "return", "set", "shift", "times", "trap", "unset"]

/-- What a list of commands may be. -/
inductive ListKind where
  /-- The commands of one line. -/
  | line
  /-- At least one command, over any number of lines. -/
  | nonempty
  /-- Commands over any number of lines. -/
  | any
  deriving DecidableEq, Repr

/-- The rules that refer to themselves. -/
structure Rules where
  /-- A list of commands. -/
  list : ListKind → Parse (Option Command)
  /-- A command. -/
  command : Parse Command

namespace Parse

/-- Where a command may begin on a later line. -/
def commandStart : Checks := { newlines := true, keywords := true, abbreviations := true }

/-- Commands put one after the other. -/
def join (first : Option Command) (second : Command) : Option Command :=
  match first with
  | none => some second
  | some c => some (.sequence c second)

/-- The characters of a word, whatever is quoted. -/
def characters (w : Word) : List Char :=
  w.flatMap fun p => match p with
    | .text chars _ => chars.toList
    | _ => []

/-- The command that is not waited for. -/
def inBackground : Command → Command
  | .pipeline commands _ => .pipeline commands true
  | .redirected line body redirects => .background line body redirects
  | c => .background 0 c []

namespace Rules

variable (rules : Rules)

/-- The pending here-documents are read. -/
def readDocuments (inner : Inner) : Parse Unit := do
  let awaited := (← get).awaited
  modify fun s => { s with awaited := [] }
  awaited.forM fun a => do
    let word ← readDocument inner a
    modify fun s => { s with documents := s.documents.setIfInBounds a.number word }

/-- The commands between `$(` and the parenthesis that closes it. -/
def readEnclosed : Parse (Option Command) := do
  let awaited := (← get).awaited
  modify fun s => { s with awaited := [] }
  let body ← rules.list .any
  if (← get).token != .rightParenthesis then unexpected (some .rightParenthesis)
  modify fun s => { s with awaited := awaited, isPushed := false }
  return body

/-- The commands between backquotes, which are a script of their own. -/
def readOwn (text : String) : Parse (Option Command) := do
  let s ← get
  let own := { Source.ofText text s.abbreviations s.documents with awaited := [] }
  set own
  let body ← rules.list .any
  let documents := (← get).documents
  set { s with documents := documents, isPushed := false }
  return body

/-- The next token, read or pushed back, with nothing asked of it. -/
def rawToken (inner : Inner) : Parse Token := do
  let s ← get
  if s.isPushed then
    set { s with isPushed := false }
    return s.token
  let t ← readToken inner s.budget
  modify fun s => { s with token := t }
  return t

/-- The next token that is no line feed. -/
def skipNewlines (inner : Inner) : Nat → Token → Parse Token
  | 0, t => return t
  | n + 1, t => do
    if t != .newline then return t
    readDocuments inner
    modify fun s => { s with checks := {} }
    skipNewlines inner n (← rawToken inner)

/-- The abbreviations whose text has been read are no longer active; whether one of them
ended with a blank. -/
def retire : Parse Bool := do
  let s ← get
  if s.active.isEmpty then return false
  let left := s.rest.length
  let (gone, active) := s.active.partition fun a => left < a.2
  set { s with active := active }
  return gone.any fun a =>
    match s.abbreviations.find? fun e => e.1 == a.1 with
    | some (_, text) => text.toList.getLast? == some ' ' || text.toList.getLast? == some '\t'
    | none => false

/-- The next token, looked at as was asked. -/
def tokenWith (inner : Inner) : Nat → Checks → Parse Token
  | 0, _ => return .endOfInput
  | n + 1, asked => do
    let t ← rawToken inner
    let t ← if asked.newlines then skipNewlines inner (← get).budget t else pure t
    let s ← get
    let continues ← retire
    let later := s.checks
    modify fun s => { s with checks := {} }
    let keywords := asked.keywords || later.keywords
    let abbreviations := asked.abbreviations || later.abbreviations || continues
    if t != .word || s.isQuoted then return t
    match Word.plain? s.word with
    | none => return t
    | some text =>
      match if keywords then Keyword.ofSpelling? text else none with
      | some k =>
        modify fun s => { s with token := .keyword k }
        return .keyword k
      | none =>
        let s ← get
        let found := if abbreviations && !(s.active.any fun a => a.1 == text) then
            s.abbreviations.find? fun e => e.1 == text
          else none
        match found with
        | none => return t
        | some (_, replacement) =>
          let left := s.rest.length
          let added := replacement.toList
          set { s with
            rest := added ++ s.rest
            budget := s.budget + 8 * added.length
            active := if added.isEmpty then s.active else (text, left) :: s.active }
          tokenWith inner n { asked with keywords := keywords, abbreviations := abbreviations }

/-- How scripts inside words are read. -/
def inner : Inner := ⟨readEnclosed rules, readOwn rules⟩

/-- The next token. -/
def token : Parse Token := do
  let s ← get
  tokenWith (inner rules) s.budget s.checks

/-- The token has to be this one. -/
def demand (t : Token) : Parse Unit := do
  if (← token rules) != t then unexpected (some t)

/-- The target of a redirection. -/
def readTarget : Parse Redirect := do
  let opener := (← get).opener
  match opener with
  | .document descriptor stripsTabs =>
    expecting { delimiter := true }
    if (← token rules) != .word then unexpected none
    let s ← get
    let number := s.documents.size
    let awaited : Awaited := ⟨number, characters s.word, stripsTabs, s.isQuoted⟩
    set { s with awaited := s.awaited ++ [awaited], documents := s.documents.push [] }
    return .document descriptor number
  | .file descriptor opening =>
    if (← token rules) != .word then unexpected none
    return .file descriptor opening (← get).word
  | .duplicate descriptor =>
    if (← token rules) != .word then unexpected none
    return .duplicate descriptor (← get).word

/-- The redirections that follow a command. -/
def readRedirects : Nat → List Redirect → Parse (List Redirect)
  | 0, redirects => return redirects.reverse
  | n + 1, redirects => do
    if (← token rules) == .redirection then
      let r ← readTarget rules
      readRedirects n (r :: redirects)
    else
      pushBack
      return redirects.reverse

/-- The parts of a simple command, the last of each first. -/
structure Parts where
  /-- The line it begins at. -/
  line : Nat
  /-- The assignments. -/
  assignments : List Word := []
  /-- The words. -/
  words : List Word := []
  /-- The redirections. -/
  redirects : List Redirect := []

/-- The simple command with these parts. -/
def Parts.command (p : Parts) : Command :=
  .simple p.line p.assignments.reverse p.words.reverse p.redirects.reverse

/-- The definition of a function, after its name and an opening parenthesis. -/
def readDefinition (name : Word) : Parse Command := do
  demand rules .rightParenthesis
  match Word.plain? name with
  | none => fail "Bad function name"
  | some name =>
    if !Octets.isName name || specialCommands.contains name then fail "Bad function name"
    expecting commandStart
    let line := (← get).line
    return .definition line name (← rules.command)

/-- A simple command or the definition of a function. -/
def readSimple : Nat → Parts → Parse Command
  | 0, p => return p.command
  | n + 1, p => do
    expecting { abbreviations := p.words.isEmpty }
    match ← token rules with
    | .word =>
      let w := (← get).word
      if p.words.isEmpty && (Word.assignment? w).isSome then
        readSimple n { p with assignments := w :: p.assignments }
      else readSimple n { p with words := w :: p.words }
    | .redirection =>
      let r ← readTarget rules
      readSimple n { p with redirects := r :: p.redirects }
    | .leftParenthesis =>
      match p.words with
      | [name] =>
        if p.assignments.isEmpty && p.redirects.isEmpty then readDefinition rules name
        else
          pushBack
          return p.command
      | _ =>
        pushBack
        return p.command
    | _ =>
      pushBack
      return p.command

/-- A list that has to hold a command. -/
def body : Parse Command := do
  return (← rules.list .nonempty).getD default

/-- The part of a choice after its condition and its first list. -/
def readAlternatives : Nat → Parse (Option Command)
  | 0 => return none
  | n + 1 => do
    match ← token rules with
    | .keyword .elif =>
      let condition ← body rules
      demand rules (.keyword .then)
      let first ← body rules
      let second ← readAlternatives n
      return some (.branch condition first second)
    | .keyword .else => rules.list .nonempty
    | _ =>
      pushBack
      return none

/-- The words of a loop, up to the end of the line. -/
def readItems : Nat → List Word → Parse (List Word)
  | 0, words => return words.reverse
  | n + 1, words => do
    match ← token rules with
    | .word =>
      let w := (← get).word
      readItems n (w :: words)
    | .newline | .semicolon => return words.reverse
    | _ => unexpected none

/-- A loop over words. -/
def readIteration (line : Nat) : Parse Command := do
  let t ← token rules
  let s ← get
  let name := (Word.plain? s.word).getD ""
  if t != .word || s.isQuoted || !Octets.isName name then fail "Bad for loop variable"
  expecting commandStart
  let words ← match ← token rules with
    | .keyword .in => readItems rules (← get).budget []
    | .semicolon => pure [Word.allParameters]
    | _ => do
      pushBack
      pure [Word.allParameters]
  expecting commandStart
  demand rules (.keyword .do)
  return .iteration line name words (← body rules)

/-- The patterns of one case, up to the parenthesis. -/
def readPatterns : Nat → List Word → Parse (List Word)
  | 0, patterns => return patterns.reverse
  | n + 1, patterns => do
    let w := (← get).word
    match ← token rules with
    | .pipe =>
      let _ ← token rules
      readPatterns n (w :: patterns)
    | .rightParenthesis => return (w :: patterns).reverse
    | _ => unexpected (some .rightParenthesis)

/-- The cases of a choice by patterns. -/
def readCases : Nat → List (List Word × Option Command) →
    Parse (List (List Word × Option Command))
  | 0, cases => return cases.reverse
  | n + 1, cases => do
    expecting { newlines := true, keywords := true }
    let t ← token rules
    if t == .keyword .esac then return cases.reverse
    if t == .leftParenthesis then
      let _ ← token rules
    let patterns ← readPatterns rules (← get).budget []
    let commands ← rules.list .any
    let cases := (patterns, commands) :: cases
    expecting { newlines := true, keywords := true }
    match ← token rules with
    | .keyword .esac => return cases.reverse
    | .endOfCase => readCases n cases
    | _ => unexpected (some .endOfCase)

/-- A choice by patterns. -/
def readSelection (line : Nat) : Parse Command := do
  if (← token rules) != .word then unexpected (some .word)
  let subject := (← get).word
  expecting commandStart
  demand rules (.keyword .in)
  return .selection line subject (← readCases rules (← get).budget [])

/-- A command that begins with a keyword or a parenthesis, up to its end; `none` if there
is no such command. -/
def readCompound (line : Nat) : Token → Parse (Option Command)
  | .keyword .if => do
    let condition ← body rules
    demand rules (.keyword .then)
    let first ← body rules
    let second ← readAlternatives rules (← get).budget
    demand rules (.keyword .fi)
    return some (.branch condition first second)
  | .keyword .while => do
    let condition ← body rules
    demand rules (.keyword .do)
    let commands ← body rules
    demand rules (.keyword .done)
    return some (.loop false condition commands)
  | .keyword .until => do
    let condition ← body rules
    demand rules (.keyword .do)
    let commands ← body rules
    demand rules (.keyword .done)
    return some (.loop true condition commands)
  | .keyword .for => do
    let c ← readIteration rules line
    demand rules (.keyword .done)
    return some c
  | .keyword .case => return some (← readSelection rules line)
  | .leftParenthesis => do
    let commands ← body rules
    demand rules .rightParenthesis
    return some (.subshell line commands [])
  | .keyword .begin => do
    let commands ← body rules
    demand rules (.keyword .end)
    return some commands
  | _ => return none

/-- A command. -/
def command : Parse Command := do
  let line := (← get).line
  match ← token rules with
  | .word | .redirection =>
    pushBack
    let s ← get
    readSimple rules s.budget { line := s.line }
  | t =>
    match ← readCompound rules line t with
    | none => unexpected none
    | some c =>
      expecting { keywords := true, abbreviations := true }
      let redirects ← readRedirects rules (← get).budget []
      match c, redirects with
      | c, [] => return c
      | .subshell line body _, redirects => return .subshell line body redirects
      | c, redirects => return .redirected line c redirects

/-- The commands after a pipe, the last one first. -/
def readPipe : Nat → List Command → Parse (List Command)
  | 0, commands => return commands
  | n + 1, commands => do
    if (← token rules) == .pipe then
      expecting commandStart
      let c ← command rules
      readPipe n (c :: commands)
    else
      pushBack
      return commands

/-- Commands joined by pipes. -/
def pipeline : Parse Command := do
  let isNegated := (← token rules) == .keyword .not
  if isNegated then expecting { keywords := true, abbreviations := true }
  else pushBack
  let first ← command rules
  let commands ← readPipe rules (← get).budget [first]
  let c := match commands with
    | [c] => c
    | cs => .pipeline cs.reverse false
  return if isNegated then .negation c else c

/-- Pipelines joined by `&&` and `||` after the first. -/
def readChain : Nat → Command → Parse Command
  | 0, c => return c
  | n + 1, c => do
    match ← token rules with
    | .and =>
      expecting commandStart
      readChain n (.both c (← pipeline rules))
    | .or =>
      expecting commandStart
      readChain n (.either c (← pipeline rules))
    | _ =>
      pushBack
      return c

/-- Reading of a list is over at the end of the script. -/
def finish (c : Option Command) : Parse (Option Command) := do
  readDocuments (inner rules)
  modify fun s => { s with isPushed := true, token := .endOfInput }
  return c

/-- The commands of a list after some of them. -/
def readList (kind : ListKind) : Nat → Option Command → Bool → Parse (Option Command)
  | 0, done, _ => return done
  | n + 1, done, isFirst => do
    expecting { commandStart with newlines := kind != .line }
    let t ← token rules
    if t == .newline then
      readDocuments (inner rules)
      return done
    if t == .endOfInput then finish rules done
    else
      pushBack
      if t.endsList && (kind == .any || (kind == .nonempty && !isFirst)) then return done
      let first ← pipeline rules
      let c ← readChain rules (← get).budget first
      let t ← token rules
      let c := if t == .ampersand then inBackground c else c
      let done := join done c
      match t with
      | .endOfInput => finish rules done
      | .newline =>
        pushBack
        readList kind n done false
      | .ampersand | .semicolon => readList kind n done false
      | _ =>
        if kind == .line then unexpected none
        pushBack
        return done

end Rules

/-- The rules of the grammar, with a number of levels. -/
def rules : Nat → Rules
  | 0 => ⟨fun _ => fail "", fail ""⟩
  | n + 1 =>
    ⟨fun kind => do Rules.readList (rules n) kind (← get).budget none true,
      fun s => Rules.command (rules n) s⟩

/-- The commands of the next line; nothing at the end of the script. -/
def line : Parse (Option (Option Command)) := do
  modify fun s => { s with isPushed := false, checks := {}, awaited := [] }
  let c ← (rules (← get).budget).list .line
  let s ← get
  if c.isNone && s.isPushed && s.token == .endOfInput then return none
  return some c

end Parse

end CompileOrder.Shell
