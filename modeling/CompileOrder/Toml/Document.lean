import CompileOrder.Toml.Number
import CompileOrder.Toml.Datetime

/-!
# TOML documents

A document is a sequence of lines: blank lines, comments, headers of tables and of
lists of tables, and pairs of a key and a value. Lists and tables in braces nest at
most seventy-nine deep, and a dotted key has at most as many parts.
-/

namespace CompileOrder.Toml

/-- The greatest depth of nesting, and the greatest number of parts of a key. -/
def maxDepth : Nat := 79

/-- The characters after the blanks of a line. -/
def skipSpaces (cs : List Char) : List Char := cs.dropWhile isSpace

/-- The characters after a comment, if one stands here. -/
def skipComment : List Char → List Char
  | '#' :: cs => cs.dropWhile isPlain
  | cs => cs

/-- The characters after the end of a line. -/
def lineEnd? : List Char → Option (List Char)
  | [] => some []
  | '\n' :: cs => some cs
  | '\r' :: '\n' :: cs => some cs
  | _ => none

/-- The characters after blanks, an optional comment and the end of the line. -/
def finishLine? (cs : List Char) : Option (List Char) :=
  lineEnd? (skipComment (skipSpaces cs))

/-- The characters after any blanks, line ends and comments inside a list. -/
def skipFiller : Nat → List Char → List Char
  | 0, cs => cs
  | fuel + 1, cs =>
    let rest := skipSpaces cs
    let after := skipComment rest
    if startsLine after then skipFiller fuel (dropLineEnd after) else rest

/-- A character of a key without quotes. -/
def isKeyChar (c : Char) : Bool := c.isAlphanum || c == '_' || c == '-'

/-- One part of a key, with or without quotes. -/
def readKeyPart (cs : List Char) : Option (String × List Char) :=
  match cs with
  | '"' :: rest => (readBasic rest).map fun r => (String.ofList r.1, r.2)
  | '\'' :: rest => (readLiteral rest).map fun r => (String.ofList r.1, r.2)
  | _ =>
    let part := cs.takeWhile isKeyChar
    if part.isEmpty then none else some (String.ofList part, cs.dropWhile isKeyChar)

/-- The parts of a key divided by points, with at most `fuel` of them. -/
def readKeyParts : Nat → List Char → Option (List String × List Char)
  | 0, _ => none
  | fuel + 1, cs => do
    let (part, rest) ← readKeyPart (skipSpaces cs)
    match skipSpaces rest with
    | '.' :: more => do
      let (parts, rest) ← readKeyParts fuel more
      return (part :: parts, rest)
    | rest => return ([part], rest)

/-- A key: the tables it leads through, and the key in the last of them. -/
def readKey (cs : List Char) : Option ((List String × String) × List Char) := do
  let (parts, rest) ← readKeyParts maxDepth cs
  let key ← parts.getLast?
  return ((parts.dropLast, key), rest)

/-- A value that is neither a list nor a table. -/
def readScalar (cs : List Char) : Option (Value × List Char) :=
  match cs with
  | 't' :: 'r' :: 'u' :: 'e' :: rest => some (.boolean true, rest)
  | 'f' :: 'a' :: 'l' :: 's' :: 'e' :: rest => some (.boolean false, rest)
  | '"' :: _ | '\'' :: _ => (readText cs).map fun r => (.text (String.ofList r.1), r.2)
  | _ => readDatetime cs <|> readFloat cs <|> readInteger cs <|> readSpecial cs

/-- The items of a list after its bracket, each read by `item`. -/
def readItems (item : List Char → Option (Value × List Char)) :
    Nat → List Char → Option (List Value × List Char)
  | 0, _ => none
  | fuel + 1, cs =>
    match skipFiller cs.length cs with
    | ']' :: rest => some ([], rest)
    | start => do
      let (v, rest) ← item start
      match skipFiller rest.length rest with
      | ']' :: rest => return ([v], rest)
      | ',' :: rest => do
        let (vs, rest) ← readItems item fuel rest
        return (v :: vs, rest)
      | _ => none

/-- The members of a table in braces, from its first key on, added to `t`. -/
def readMembers (item : List Char → Option (Value × List Char)) :
    Nat → Table → List Char → Option (Table × List Char)
  | 0, _, _ => none
  | fuel + 1, t, cs => do
    let ((path, key), rest) ← readKey cs
    let rest ← expect '=' rest
    let (v, rest) ← item (skipSpaces rest)
    let t ← t.put path key v
    match skipSpaces rest with
    | '\x7d' :: rest => return (t, rest)
    | ',' :: rest => readMembers item fuel t rest
    | _ => none

/-- A table in braces after its opening brace. -/
def readInline (item : List Char → Option (Value × List Char)) (cs : List Char) :
    Option (Value × List Char) :=
  match skipSpaces cs with
  | '\x7d' :: rest => some (.table .inline [], rest)
  | start => (readMembers item cs.length ⟨.inline, []⟩ start).map fun r => (r.1.value, r.2)

/-- A value in which lists and tables nest at most `depth` deep. -/
def readValue : Nat → List Char → Option (Value × List Char)
  | 0, cs => readScalar cs
  | depth + 1, cs =>
    match cs with
    | '[' :: rest =>
      (readItems (readValue depth) (rest.length + 1) rest).map fun r => (.list false r.1, r.2)
    | '\x7b' :: rest => readInline (readValue depth) rest
    | _ => readScalar cs

/-- A document while it is read. -/
structure Draft where
  /-- The whole document so far. -/
  root : Table
  /-- The path of the table that plain lines add to. -/
  current : List String

namespace Draft

/-- The empty document. -/
def empty : Draft := ⟨⟨.explicit, []⟩, []⟩

/-- A header leads to a new table, or to a new table of a list. -/
def header (d : Draft) (isItem : Bool) (path : List String) (key : String) : Option Draft := do
  let add := if isItem then Table.openItem key else Table.openTable key
  let root ← d.root.update false add path
  return ⟨root, path ++ [key]⟩

/-- A pair is added to the current table. -/
def pair (d : Draft) (path : List String) (key : String) (v : Value) : Option Draft := do
  let root ← d.root.update false (Table.put path key v) d.current
  return { d with root := root }

/-- The line that begins here is taken in, and the characters after it are given. -/
def line (d : Draft) (cs : List Char) : Option (Draft × List Char) :=
  match cs with
  | '[' :: '[' :: rest => do
    let ((path, key), rest) ← readKey rest
    let rest ← finishLine? (← expect ']' (← expect ']' rest))
    let d ← d.header true path key
    return (d, rest)
  | '[' :: rest => do
    let ((path, key), rest) ← readKey rest
    let rest ← finishLine? (← expect ']' rest)
    let d ← d.header false path key
    return (d, rest)
  | '#' :: _ | '\n' :: _ | '\r' :: _ => (finishLine? cs).map fun rest => (d, rest)
  | _ => do
    let ((path, key), rest) ← readKey cs
    let (v, rest) ← readValue maxDepth (skipSpaces (← expect '=' rest))
    let rest ← finishLine? rest
    let d ← d.pair path key v
    return (d, rest)

/-- All lines are taken in; each takes at least one character. -/
def lines : Nat → Draft → List Char → Option Draft
  | 0, d, cs => if cs.isEmpty then some d else none
  | fuel + 1, d, cs =>
    match skipSpaces cs with
    | [] => some d
    | start => do
      let (d, rest) ← d.line start
      lines fuel d rest

end Draft

/-- The members of a document, if it is well-formed. A byte order mark may stand
before it. -/
def parse? (text : String) : Option Members :=
  let cs := match text.toList with
    | '\uFEFF' :: cs => cs
    | cs => cs
  (Draft.lines cs.length .empty cs).map fun d => d.root.members

end CompileOrder.Toml
