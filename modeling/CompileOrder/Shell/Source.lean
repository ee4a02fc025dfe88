import CompileOrder.Shell.Command
import CompileOrder.Shell.Octets

/-!
# Scripts being read

A script is read token by token, from the left, and only as far as it has to be: the
commands of one line are run before the next line is looked at. A token that turns
out to belong to what follows is read again. Here-documents that a line asks for
stand after that line; their words are kept under numbers.
-/

namespace CompileOrder.Shell

/-- A word that has a meaning of its own at the start of a command. -/
inductive Keyword where
  | not | case | do | done | elif | else | esac | fi | for | if | in | then | until | while
  | begin | end
  deriving DecidableEq, Repr

namespace Keyword

/-- The keywords with their spellings. -/
def spellings : List (String × Keyword) :=
  [("!", .not), ("case", .case), ("do", .do), ("done", .done), ("elif", .elif), ("else", .else),
    ("esac", .esac), ("fi", .fi), ("for", .for), ("if", .if), ("in", .in), ("then", .then),
    ("until", .until), ("while", .while), ("\x7b", .begin), ("\x7d", .end)]

/-- The keyword with a spelling. -/
def ofSpelling? (s : String) : Option Keyword :=
  (spellings.find? fun k => k.1 == s).map fun k => k.2

/-- The spelling of a keyword. -/
def spelling (k : Keyword) : String :=
  ((spellings.find? fun e => e.2 == k).map fun e => e.1).getD ""

/-- Whether the keyword ends a list of commands. -/
def endsList : Keyword → Bool
  | .do | .done | .elif | .else | .esac | .fi | .then | .end => true
  | _ => false

end Keyword

/-- A token of a script. -/
inductive Token where
  | endOfInput | newline | semicolon | ampersand | and | or | pipe | leftParenthesis
  | rightParenthesis | endOfCase | word | redirection
  | keyword (k : Keyword)
  deriving DecidableEq, Repr

namespace Token

/-- The token as messages name it. -/
def display : Token → String
  | .endOfInput => "end of file"
  | .newline => "newline"
  | .semicolon => "\";\""
  | .ampersand => "\"&\""
  | .and => "\"&&\""
  | .or => "\"||\""
  | .pipe => "\"|\""
  | .leftParenthesis => "\"(\""
  | .rightParenthesis => "\")\""
  | .endOfCase => "\";;\""
  | .word => "word"
  | .redirection => "redirection"
  | .keyword k => "\"" ++ k.spelling ++ "\""

/-- Whether a list of commands can end before the token. -/
def endsList : Token → Bool
  | .endOfInput | .rightParenthesis | .endOfCase => true
  | .keyword k => k.endsList
  | _ => false

end Token

/-- What the next token is looked at for. -/
structure Checks where
  /-- Line feeds before it do not count. -/
  newlines : Bool := false
  /-- It may be a keyword. -/
  keywords : Bool := false
  /-- It may be an abbreviation. -/
  abbreviations : Bool := false
  /-- It is the mark that ends a here-document. -/
  delimiter : Bool := false
  deriving DecidableEq, Repr

/-- A redirection whose target has not been read. -/
inductive Opener where
  /-- To a file. -/
  | file (descriptor : Nat) (opening : Opening)
  /-- To what another descriptor leads to. -/
  | duplicate (descriptor : Nat)
  /-- To a here-document, perhaps with its tabulators stripped. -/
  | document (descriptor : Nat) (stripsTabs : Bool)
  deriving DecidableEq, Repr

/-- A here-document that has not been read. -/
structure Awaited where
  /-- Its number. -/
  number : Nat
  /-- The line that ends it. -/
  mark : List Char
  /-- Whether the tabulators at the start of its lines are dropped. -/
  stripsTabs : Bool
  /-- Whether its text is taken literally. -/
  isLiteral : Bool
  deriving DecidableEq, Repr

/-- An abbreviation that stands for a text. -/
abbrev Abbreviations := List (String × String)

/-- The state of reading a script. -/
structure Source where
  /-- What has not been read. -/
  rest : List Char
  /-- The number of the line. -/
  line : Nat := 1
  /-- No reading takes more steps than this. -/
  budget : Nat := 0
  /-- The last token. -/
  token : Token := .newline
  /-- Whether the last token is to be read again. -/
  isPushed : Bool := false
  /-- The word of the last token. -/
  word : Word := []
  /-- Whether something in that word was quoted. -/
  isQuoted : Bool := false
  /-- The redirection of the last token. -/
  opener : Opener := .duplicate 0
  /-- What the next token is looked at for. -/
  checks : Checks := {}
  /-- The here-documents asked for and not yet read. -/
  awaited : List Awaited := []
  /-- The here-documents read, by number. -/
  documents : Array Word := #[]
  /-- The abbreviations. -/
  abbreviations : Abbreviations := []
  /-- The abbreviations being read, with the number of characters after each. -/
  active : List (String × Nat) := []

/-- Why a script cannot be read. -/
structure SyntaxFault where
  /-- The line it shows at. -/
  line : Nat
  /-- The reason. -/
  reason : String
  deriving DecidableEq, Repr

/-- A step of reading. -/
abbrev Parse := StateT Source (Except SyntaxFault)

namespace Source

/-- A script at its start. -/
def ofText (text : String) (abbreviations : Abbreviations) (documents : Array Word) : Source :=
  let rest := text.toList
  { rest := rest, budget := 8 * rest.length + 64, abbreviations := abbreviations,
    documents := documents }

/-- The script after the line feeds that a backslash takes away. -/
def dropJoins : List Char → Nat → List Char × Nat
  | '\\' :: '\n' :: cs, line => dropJoins cs (line + 1)
  | cs, line => (cs, line)

end Source

namespace Parse

/-- Reading stops. -/
def fail {α : Type} (reason : String) : Parse α := do
  throw ⟨(← get).line, reason⟩

/-- The next character. -/
def next : Parse (Option Char) := do
  let s ← get
  match s.rest with
  | [] => return none
  | c :: cs =>
    set { s with rest := cs }
    return some c

/-- The next character that is not taken away together with a backslash before it. -/
def nextJoined : Parse (Option Char) := do
  let s ← get
  match s.rest with
  | '\\' :: '\n' :: _ =>
    let (rest, line) := Source.dropJoins s.rest s.line
    set { s with rest := rest, line := line }
    next
  | [] => return none
  | c :: cs =>
    set { s with rest := cs }
    return some c

/-- A character is put back. -/
def putBack (c : Option Char) : Parse Unit :=
  match c with
  | some c => modify fun s => { s with rest := c :: s.rest }
  | none => return

/-- A line feed has been read. -/
def endLine : Parse Unit := modify fun s => { s with line := s.line + 1 }

/-- The last token is to be read again. -/
def pushBack : Parse Unit := modify fun s => { s with isPushed := true }

/-- What the next token is looked at for is set. -/
def expecting (checks : Checks) : Parse Unit := modify fun s => { s with checks := checks }

/-- The last token should not stand here. -/
def unexpected {α : Type} (wanted : Option Token) : Parse α := do
  let found := (← get).token.display ++ " unexpected"
  match wanted with
  | some t => fail (found ++ " (expecting " ++ t.display ++ ")")
  | none => fail found

end Parse

end CompileOrder.Shell
