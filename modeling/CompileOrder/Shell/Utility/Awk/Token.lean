import CompileOrder.Shell.Escape
import CompileOrder.Shell.Format

/-!
# Words of scripts for records

A script is cut into numbers, texts, regular expressions, names and marks. A slash
begins a regular expression unless it stands after something that can be divided.
-/

namespace CompileOrder.Shell.Awk

/-- A word of a script. -/
inductive Token where
  /-- A number. -/
  | number (x : Float)
  /-- A text. -/
  | text (s : String)
  /-- A regular expression. -/
  | pattern (s : String)
  /-- A name. -/
  | name (s : String)
  /-- The name of a function, with a parenthesis right after it. -/
  | procedure (s : String)
  /-- The name of a function that every script has. -/
  | builtin (s : String)
  /-- A word with a meaning. -/
  | word (s : String)
  /-- A mark. -/
  | mark (s : String)
  /-- The end of a line. -/
  | lineEnd

/-- A word with its line and its spelling. -/
structure Placed where
  /-- The word. -/
  token : Token
  /-- The line. -/
  line : Nat
  /-- The spelling. -/
  spelling : String

namespace Token

/-- The words with a meaning. -/
def words : List String :=
  ["BEGIN", "END", "function", "func", "if", "else", "while", "for", "do", "break",
    "continue", "next", "nextfile", "exit", "return", "delete", "in", "getline", "print", "printf"]

/-- The functions that every script has. -/
def builtins : List String :=
  ["length", "substr", "index", "split", "sub", "gsub", "match", "sprintf", "sin", "cos",
    "atan2", "exp", "log", "sqrt", "int", "rand", "srand", "tolower", "toupper", "system",
    "close", "fflush"]

/-- The marks, longer ones before shorter ones that begin them. -/
def marks : List String :=
  ["&&", "||", "++", "--", "+=", "-=", "*=", "/=", "%=", "^=", "==", "<=", ">=", "!=", "!~", ">>",
    "\x7b", "\x7d", "(", ")", "[", "]", ";", ",", "+", "-", "*", "/", "%", "^", "!", ">", "<", "|",
    "?", ":", "~", "$", "="]

/-- Whether what the word ends can be divided. -/
def isOperand : Token → Bool
  | .number _ | .text _ | .pattern _ | .name _ | .builtin _ => true
  | .mark m => m == ")" || m == "]" || m == "$" || m == "++" || m == "--"
  | _ => false

/-- The characters of a text up to its closing quote, the last one first, and the rest. -/
def quoted : Nat → List Char → List Char → Option (List Char × List Char)
  | 0, _, _ => none
  | n + 1, done, cs =>
    match cs with
    | [] | '\n' :: _ => none
    | '"' :: cs => some (done, cs)
    | '\\' :: '\n' :: cs => quoted n done cs
    | '\\' :: '"' :: cs => quoted n ('"' :: done) cs
    | '\\' :: 'e' :: cs => quoted n ('e' :: '\\' :: done) cs
    | '\\' :: cs =>
      let (c, rest) := Escape.character cs
      quoted n (c :: done) rest
    | c :: cs => quoted n (c :: done) cs

/-- The characters of a regular expression up to its closing slash, the last one first,
and the rest. -/
def slashed : Nat → List Char → List Char → Option (List Char × List Char)
  | 0, _, _ => none
  | n + 1, done, cs =>
    match cs with
    | [] | '\n' :: _ => none
    | '/' :: cs => some (done, cs)
    | '\\' :: '/' :: cs => slashed n ('/' :: done) cs
    | '\\' :: c :: cs => slashed n (c :: '\\' :: done) cs
    | c :: cs => slashed n (c :: done) cs

/-- The number that decimal notation is rounded to. -/
def float (d : Real.Decimal) : Float :=
  let e := d.exponent
  let x := if e < 0 then Float.ofScientific d.mantissa true (min 5000 (-e).toNat)
    else Float.ofScientific d.mantissa false (min 5000 e.toNat)
  if d.isNegative then -x else x

/-- The token that letters are, where `rest` follows. -/
def ofLetters (letters : String) (rest : List Char) : Token :=
  if words.contains letters then .word letters
  else if builtins.contains letters then .builtin letters
  else if rest.head? == some '(' then .procedure letters
  else .name letters

/-- The next word of a script, and the rest; `last` is the word before it. The error is the
spelling of something that is no word. -/
def next (last : Option Token) (cs : List Char) : Except String (Token × List Char) :=
  match cs with
  | [] => .ok (.lineEnd, [])
  | '\n' :: rest => .ok (.lineEnd, rest)
  | '"' :: rest =>
    match quoted (rest.length + 1) [] rest with
    | some (done, rest) => .ok (.text (String.ofList done.reverse), rest)
    | none => .error ("\"" ++ String.ofList (rest.takeWhile fun c => c != '\n'))
  | c :: rest =>
    if c.isDigit || (c == '.' && (rest.headD ' ').isDigit) then
      let (d, rest) := Real.decimal (String.ofList cs)
      .ok (.number (float d), rest)
    else if Octets.isNameStart c then
      let letters := cs.takeWhile Octets.isNamePart
      let rest := cs.drop letters.length
      .ok (ofLetters (String.ofList letters) rest, rest)
    else if c == '/' && !(last.any fun t => t.isOperand) then
      match slashed (rest.length + 1) [] rest with
      | some (done, rest) => .ok (.pattern (String.ofList done.reverse), rest)
      | none => .error ("/" ++ String.ofList (rest.takeWhile fun c => c != '\n'))
    else match marks.find? fun m => m.toList.isPrefixOf cs with
      | some m => .ok (.mark m, cs.drop m.length)
      | none => .error (String.singleton c)

end Token

/-- Why a text is not a script. -/
inductive ScriptFault where
  /-- Something unexpected stands in a line. -/
  | unexpected (line : Nat) (spelling : String)
  /-- A text or a regular expression is not closed. -/
  | runaway (line : Nat) (spelling : String)
  /-- A character has no meaning. -/
  | unknown (line : Nat) (spelling : String)
  /-- A brace is not closed. -/
  | unclosed (line : Nat)
  /-- A brace too many is closed. -/
  | extra (line : Nat)
  /-- A function is missing. -/
  | undefined (line : Nat) (name : String)
  /-- A function has too many or too few arguments. -/
  | arguments (line : Nat) (name : String)
  deriving DecidableEq, Repr

/-- The reason in words. -/
def ScriptFault.words : ScriptFault → String
  | .unexpected line spelling =>
    "line " ++ toString line ++ ": syntax error at or near " ++ spelling
  | .runaway line spelling =>
    let kind :=
      if spelling.toList.head? == some '/' then "regular expression"
      else "string constant"
    "line " ++ toString line ++ ": runaway " ++ kind ++ " " ++ spelling ++ " ..."
  | .unknown line spelling => toString line ++ ": unexpected character '" ++ spelling ++ "'"
  | .unclosed line => "line " ++ toString line ++ ": missing \x7d near end of file"
  | .extra line =>
    "line " ++ toString line ++ ": extra '\x7d'\nawk: line " ++ toString line ++
      ": syntax error at or near end of line"
  | .undefined line name => "line " ++ toString line ++ ": function " ++ name ++ " never defined"
  | .arguments line name =>
    "line " ++ toString line ++ ": wrong number of arguments in call to " ++ name

/-- The words of a script from a line on, of which there are at most `n`. -/
def placedFrom : Nat → Nat → Option Token → List Char → Except ScriptFault (List Placed)
  | 0, _, _, _ => .ok []
  | _ + 1, _, _, [] => .ok []
  | n + 1, line, last, c :: cs =>
    if c == ' ' || c == '\t' || c == '\r' then placedFrom n line last cs
    else if c == '#' then placedFrom n line last (cs.dropWhile fun c => c != '\n')
    else match c, cs with
      | '\\', '\n' :: cs => placedFrom n (line + 1) last cs
      | _, _ =>
        match Token.next last (c :: cs) with
        | .error spelling =>
          .error (if c == '"' || c == '/' then .runaway line spelling else .unknown line spelling)
        | .ok (token, rest) => do
          let spelling := String.ofList ((c :: cs).take (cs.length + 1 - rest.length))
          let spelling := if c == '\n' then "end of line" else spelling
          let more ← placedFrom n (if c == '\n' then line + 1 else line) (some token) rest
          return ⟨token, line, spelling⟩ :: more

/-- The words of a script. -/
def placed (text : String) : Except ScriptFault (List Placed) :=
  placedFrom (text.length + 1) 1 none text.toList

end CompileOrder.Shell.Awk
