import CompileOrder.Shell.Characters

/-!
# Names in messages

A name in a message stands between quotes, always or only where it could be
misunderstood. Characters that do not show are written with a backslash. Words that are
no names of files stand between the quotes of a printed text.
-/

namespace CompileOrder.Shell.Quote

/-- An octet that does not show, with a backslash. -/
def escape (c : Char) : String :=
  match c with
  | '\x07' => "\\a"
  | '\x08' => "\\b"
  | '\x0c' => "\\f"
  | '\n' => "\\n"
  | '\r' => "\\r"
  | '\t' => "\\t"
  | '\x0b' => "\\v"
  | c =>
    let ds := Nat.toDigits 8 c.toNat
    "\\" ++ String.ofList (List.replicate (3 - ds.length) '0' ++ ds)

/-- The octets of a character that does not show, each with a backslash. -/
def escapeAll (c : Char) : String := String.join ((Characters.octets c).map escape)

/-- The characters of a name, where those that do not show stand between quotes of their
own. -/
def segments : List Char → Bool → String
  | [], isEscaped => if isEscaped then "'" else ""
  | c :: cs, isEscaped =>
    if Characters.isPrint c then
      let text := if c == '\'' then "'\\''" else Characters.toOctets [c]
      (if isEscaped then "''" else "") ++ text ++ segments cs false
    else (if isEscaped then "" else "'$'") ++ escapeAll c ++ segments cs true

/-- A name between quotes. -/
def always (name : String) : String :=
  let cs := Characters.ofOctets name
  if cs.all Characters.isPrint then
    if cs.contains '\'' then
      if cs.any fun c => "\"$\x60\\!".toList.contains c then
        "'" ++ "'\\''".intercalate (name.splitOn "'") ++ "'"
      else "\"" ++ name ++ "\""
    else "'" ++ name ++ "'"
  else "'" ++ (if (cs.getLast?.map Characters.isPrint).getD true then segments cs false ++ "'"
    else segments cs false)

/-- Whether a name could be misunderstood by a shell. -/
def needsQuotes (name : String) : Bool :=
  let cs := Characters.ofOctets name
  cs.isEmpty || (cs.any fun c =>
    !Characters.isPrint c || " !\"$&'()*;<=>?[\\^\x60|".toList.contains c) ||
    "#~".toList.contains (cs.headD ' ') || name == "\x7b" || name == "\x7d"

/-- A name, between quotes if a shell could misunderstand it. -/
def forShell (name : String) : String := if needsQuotes name then always name else name

/-- A name, between quotes if it could be misunderstood before a colon. -/
def ifNeeded (name : String) : String :=
  if needsQuotes name || name.toList.contains ':' then always name else name

/-- The mark that begins a quoted word. -/
def opening : Char := '‘'

/-- The mark that ends a quoted word. -/
def closing : Char := '’'

/-- A character of a quoted word. -/
def wordCharacter (c : Char) : String :=
  if c == '\\' then "\\\\"
  else if c == closing then "\\" ++ Characters.toOctets [c]
  else if Characters.isPrint c then Characters.toOctets [c]
  else escapeAll c

/-- A word between the quotes of a printed text. -/
def inWords (word : String) : String :=
  Characters.toOctets [opening] ++
    String.join ((Characters.ofOctets word).map wordCharacter) ++ Characters.toOctets [closing]

/-- What a word, perhaps shortened, stands for among some choices, or a message with those that
there are. -/
def choice {α : Type} (option : String) (choices : List (String × α)) (word : String) :
    Except String α :=
  match choices.find? fun c => c.1 == word with
  | some c => .ok c.2
  | none =>
    match choices.filter fun c => word.toList.isPrefixOf c.1.toList with
    | [c] => .ok c.2
    | found =>
      .error ((if found.isEmpty then "invalid" else "ambiguous") ++ " argument " ++
        inWords word ++ " for " ++ inWords option ++ "\nValid arguments are:" ++
        String.join (choices.map fun c => "\n  - " ++ inWords c.1))

end CompileOrder.Shell.Quote
