import CompileOrder.Shell.Source

/-!
# Words

A word ends at a blank or an operator that is not quoted. Single quotes take
everything literally; between double quotes a backslash, a dollar sign and a backquote
keep their meaning. Braces after a dollar sign hold a word of their own, in which
blanks do not count, and so do two parentheses, in which nothing is quoted.
-/

namespace CompileOrder.Shell

/-- What the characters at a place of a word mean. -/
inductive Mode where
  /-- Everything has its meaning. -/
  | plain
  /-- Between single quotes. -/
  | single
  /-- Between double quotes. -/
  | double
  /-- In an expression. -/
  | arithmetic
  deriving DecidableEq, Repr

/-- The mark that ends a here-document, and whether tabulators are stripped. -/
abbrev Delimiter := List Char × Bool

/-- Where in a word the next character stands. -/
structure Frame where
  /-- What characters mean. -/
  mode : Mode := .plain
  /-- Whether braces around it are open. -/
  isNested : Bool := false
  /-- Whether double quotes were open before those braces. -/
  isNestedInQuotes : Bool := false
  /-- Whether double quotes have been opened inside the braces. -/
  isInnerQuoted : Bool := false
  /-- The number of parentheses open in an expression. -/
  depth : Nat := 0
  /-- Whether quotes are open around the pieces that are put in. -/
  isQuoted : Bool := false
  /-- The here-document that is being read. -/
  document : Option Delimiter := none

/-- The pieces of a word as far as it has been read, the last one first. -/
structure Draft where
  /-- The pieces before the last characters. -/
  pieces : List Piece := []
  /-- The last characters. -/
  run : List Char := []
  /-- Whether the last characters are quoted. -/
  isRunQuoted : Bool := false
  /-- Whether anything was quoted. -/
  hasQuotes : Bool := false

namespace Draft

/-- The last characters become a piece. -/
def flush (d : Draft) : Draft :=
  if d.run.isEmpty then d
  else { d with pieces := .text (String.ofList d.run.reverse) d.isRunQuoted :: d.pieces, run := [] }

/-- A character is added. -/
def put (d : Draft) (c : Char) (quoted : Bool) : Draft :=
  if d.isRunQuoted == quoted then { d with run := c :: d.run }
  else { d.flush with run := [c], isRunQuoted := quoted }

/-- A piece is added. -/
def add (d : Draft) (p : Piece) : Draft :=
  let d := d.flush
  { d with pieces := p :: d.pieces }

/-- The word. -/
def finish (d : Draft) : Word := d.flush.pieces.reverse

end Draft

/-- A parameter with one character for a name. -/
def isSpecialParameter (c : Char) : Bool := c.isDigit || "#?$!-*@".toList.contains c

/-- A character that ends a word where it is not quoted. -/
def isMetacharacter (c : Char) : Bool := "<>();&| \t".toList.contains c

namespace Parse

/-- The characters of a name, as many as there are. -/
def nameWhile (p : Char → Bool) : Nat → List Char → Option Char → Parse (List Char × Option Char)
  | 0, letters, c => return (letters.reverse, c)
  | n + 1, letters, some c => do
    if p c then nameWhile p n (c :: letters) (← nextJoined)
    else return (letters.reverse, some c)
  | _ + 1, letters, none => return (letters.reverse, none)

/-- What is known of a parameter in braces before its word is read. -/
structure Reference where
  /-- The name. -/
  name : String
  /-- The use. -/
  use : Use
  /-- Whether an empty value counts as none. -/
  orEmpty : Bool := false
  /-- Whether a word, up to the closing brace, follows. -/
  hasWord : Bool := true

/-- The use that an operator after the name in braces asks for. -/
def readUse (name : String) (c : Option Char) : Parse Reference := do
  let trim (c : Char) (use : Bool → Use) : Parse Reference := do
    let d ← nextJoined
    if d == some c then return { name := name, use := use true }
    putBack d
    return { name := name, use := use false }
  let simple (orEmpty : Bool) (c : Option Char) : Reference :=
    match c with
    | some '\x7d' => { name := name, use := .value, orEmpty := orEmpty, hasWord := orEmpty }
    | some '-' => { name := name, use := .fallback, orEmpty := orEmpty }
    | some '+' => { name := name, use := .alternative, orEmpty := orEmpty }
    | some '?' => { name := name, use := .demand, orEmpty := orEmpty }
    | some '=' => { name := name, use := .assign, orEmpty := orEmpty }
    | _ => { name := name, use := .malformed }
  match c with
  | some ':' => return simple true (← nextJoined)
  | some '%' => trim '%' .trimEnd
  | some '#' => trim '#' .trimStart
  | c => return simple false c

/-- The length of the parameter with this name is asked for; nothing but a brace may
follow. -/
def lengthOf (name : String) (c : Option Char) : Parse Reference := do
  putBack c
  return { name := name, use := if c == some '\x7d' then .length else .malformed }

/-- The parameter with one character for a name that begins with `c`; the next character
is `d`. -/
def readSpecial (c : Char) (d : Option Char) : Parse Reference := do
  if isSpecialParameter c then readUse (String.singleton c) d
  else
    putBack d
    return { name := "", use := .malformed }

/-- The parameter after a dollar sign and an opening brace. -/
def readReference : Parse Reference := do
  let budget := (← get).budget
  match ← nextJoined with
  | none => return { name := "", use := .malformed }
  | some c =>
    if Octets.isNameStart c then
      let (name, c) ← nameWhile Octets.isNamePart budget [] (some c)
      readUse (String.ofList name) c
    else if c.isDigit then
      let (name, c) ← nameWhile Char.isDigit budget [] (some c)
      readUse (String.ofList name) c
    else if c == '\x7d' then
      putBack (some c)
      return { name := "", use := .malformed }
    else
      let d ← nextJoined
      if c != '#' then readSpecial c d
      else match d with
        | some d =>
          if Octets.isNameStart d then
            let (name, c) ← nameWhile Octets.isNamePart budget [] (some d)
            lengthOf (String.ofList name) c
          else if d.isDigit then
            let (name, c) ← nameWhile Char.isDigit budget [] (some d)
            lengthOf (String.ofList name) c
          else
            let e ← nextJoined
            if d == '\x7d' || e != some '\x7d' then
              putBack e
              readUse "#" (some d)
            else if isSpecialParameter d then lengthOf (String.singleton d) e
            else
              putBack e
              return { name := "", use := .malformed }
        | none => readUse "#" none

/-- The text between backquotes, in which a backslash is taken away before some
characters. -/
def readBackquoted (inQuotes : Bool) : Nat → List Char → Parse (List Char)
  | 0, text => return text.reverse
  | n + 1, text => do
    match ← nextJoined with
    | none => fail "EOF in backquote substitution"
    | some '\x60' => return text.reverse
    | some '\\' =>
      match ← next with
      | none => readBackquoted inQuotes n ('\\' :: text)
      | some c =>
        let isTaken := c == '\\' || c == '\x60' || c == '$' || (inQuotes && c == '"')
        readBackquoted inQuotes n (c :: if isTaken then text else '\\' :: text)
    | some '\n' =>
      endLine
      readBackquoted inQuotes n ('\n' :: text)
    | some c => readBackquoted inQuotes n (c :: text)

/-- The rest of a text after a start that it has. -/
def after? : List Char → List Char → Option (List Char)
  | [], text => some text
  | c :: cs, d :: ds => if c == d then after? cs ds else none
  | _ :: _, [] => none

/-- A line of a here-document begins. If it is the mark that ends the document, it is read
and there is no answer; else the answer is the start of the line if that was read. Where
backslashes count, one before a line feed takes both away, but not right after tabulators
that are stripped: there both stand for themselves and the line is not counted. -/
def beginLine (d : Delimiter) (isLiteral : Bool) : Parse (Option (List Char)) := do
  if !isLiteral then
    modify fun s =>
      let (rest, line) := Source.dropJoins s.rest s.line
      { s with rest := rest, line := line }
  if d.2 then modify fun s => { s with rest := s.rest.dropWhile fun c => c == '\t' }
  let s ← get
  match after? d.1 s.rest with
  | some [] =>
    set { s with rest := [], line := s.line + 1 }
    return none
  | some ('\n' :: rest) =>
    set { s with rest := rest, line := s.line + 1 }
    return none
  | _ =>
    match isLiteral, s.rest with
    | false, '\\' :: '\n' :: rest =>
      set { s with rest := rest }
      return some ['\\', '\n']
    | _, _ => return some []

/-- How a script inside a word is read. -/
structure Inner where
  /-- The commands up to a closing parenthesis. -/
  enclosed : Parse (Option Command)
  /-- The commands of a text of their own. -/
  backquoted : String → Parse (Option Command)

/-- The word ends here, although something in it is open. -/
def endWord (f : Frame) : Parse Unit := do
  if f.mode == .arithmetic then fail "Missing '))'"
  if f.mode != .plain && f.document.isNone then fail "Unterminated quoted string"
  if f.isNested then fail "Missing '\x7d'"

/-- A quotation mark is put in. -/
def mark (f : Frame) (d : Draft) : Frame × Draft :=
  if f.document.isSome then (f, d) else ({ f with isQuoted := !f.isQuoted }, d.add .quotes)

/-- The character after a backslash. -/
def escape (f : Frame) (d : Draft) : Parse Draft := do
  match ← next with
  | none => return d.put '\\' true
  | some c =>
    let inQuotes := f.mode == .double || f.mode == .arithmetic
    let isTaken := c == '\\' || c == '\x60' || c == '$' ||
      (c == '"' && (f.document.isNone || f.isNested)) || (c == '\x7d' && f.isNested)
    let d := if inQuotes && !isTaken then d.put '\\' true else d
    return { d.put c true with hasQuotes := true }

/-- The characters of a word from a place on, until it ends; the character that ends it is
given, too. -/
def readPieces (inner : Inner) : Nat → Frame → Draft → Parse (Draft × Option Char)
  | 0, _, d => return (d, none)
  | n + 1, f, d => do
    let c ← if f.mode == .single then next else nextJoined
    let isQuoted := f.mode != .plain
    match c with
    | none =>
      endWord f
      return (d, none)
    | some '\n' =>
      if f.mode == .plain && !f.isNested then return (d, some '\n')
      endLine
      let d := d.put '\n' isQuoted
      match f.document with
      | some delimiter =>
        match ← beginLine delimiter (f.mode == .single) with
        | none =>
          endWord f
          return (d, none)
        | some start => readPieces inner n f (start.foldl (fun d c => d.put c isQuoted) d)
      | none => readPieces inner n f d
    | some c =>
      if f.mode == .single then
        if c == '\'' && (f.document.isNone || f.isNested) then
          let (f, d) := mark { f with mode := .plain } d
          readPieces inner n f { d with hasQuotes := true }
        else readPieces inner n f (d.put c true)
      else if c == '\\' then readPieces inner n f (← escape f d)
      else if c == '$' then readDollar inner n f d
      else if c == '\x60' then
        if (← get).checks.delimiter then readPieces inner n f (d.put c isQuoted)
        else
          let text ← readBackquoted (f.mode != .plain) (← get).budget []
          let body ← inner.backquoted (String.ofList text)
          readPieces inner n f (d.add (.substitution body f.isQuoted))
      else if c == '\x7d' then
        if f.isNested && !f.isInnerQuoted then return (d, some c)
        readPieces inner n f (d.put c isQuoted)
      else if c == '"' && f.mode == .plain then
        let f := { f with mode := .double, isInnerQuoted := f.isInnerQuoted != f.isNested }
        let (f, d) := mark f d
        readPieces inner n f d
      else if c == '"' && f.mode == .double then
        if f.document.isSome && !f.isNested then readPieces inner n f (d.put c isQuoted)
        else
          let f := { f with
            mode := if f.isNestedInQuotes then f.mode else .plain
            isInnerQuoted := f.isInnerQuoted != f.isNested }
          let (f, d) := mark f d
          readPieces inner n f { d with hasQuotes := true }
      else if c == '\'' && f.mode == .plain then
        let (f, d) := mark { f with mode := .single } d
        readPieces inner n f d
      else if c == '(' && f.mode == .arithmetic then
        readPieces inner n { f with depth := f.depth + 1 } (d.put c true)
      else if c == ')' && f.mode == .arithmetic then
        if f.depth > 0 then readPieces inner n { f with depth := f.depth - 1 } (d.put c true)
        else
          let e ← nextJoined
          if e == some ')' then return (d, e)
          putBack e
          readPieces inner n f (d.put c true)
      else if f.mode == .plain && !f.isNested && isMetacharacter c then return (d, some c)
      else readPieces inner n f (d.put c isQuoted)
where
  /-- What stands after a dollar sign, and the rest of the word. -/
  readDollar (inner : Inner) (n : Nat) (f : Frame) (d : Draft) : Parse (Draft × Option Char) := do
    let c ← nextJoined
    let isQuoted := f.mode != .plain
    let isParameter := match c with
      | some c => c == '(' || c == '\x7b' || Octets.isNameStart c || isSpecialParameter c
      | none => false
    if (← get).checks.delimiter || !isParameter then
      putBack c
      readPieces inner n f (d.put '$' isQuoted)
    else match c with
      | some '(' =>
        let e ← nextJoined
        if e == some '(' then
          let (expression, _) ←
            readPieces inner n { mode := .arithmetic, document := f.document } {}
          let d := { d with hasQuotes := d.hasQuotes || expression.hasQuotes }
          readPieces inner n f (d.add (.arithmetic expression.finish f.isQuoted))
        else
          putBack e
          let body ← inner.enclosed
          readPieces inner n f (d.add (.substitution body f.isQuoted))
      | some '\x7b' =>
        let r ← readReference
        if r.hasWord then
          let isTrim := match r.use with
            | .trimStart _ | .trimEnd _ => true
            | _ => false
          let mode := if isTrim || f.mode == .plain then .plain else .double
          let (word, _) ← readPieces inner n
            { mode := mode, isNested := true, isNestedInQuotes := mode == .double,
              document := f.document } {}
          let d := { d with hasQuotes := d.hasQuotes || word.hasQuotes }
          readPieces inner n f (d.add (.parameter r.name r.use r.orEmpty f.isQuoted word.finish))
        else readPieces inner n f (d.add (.parameter r.name r.use r.orEmpty f.isQuoted []))
      | some c =>
        if Octets.isNameStart c then
          let (name, c) ← nameWhile Octets.isNamePart n [] (some c)
          putBack c
          readPieces inner n f (d.add (.parameter (String.ofList name) .value false f.isQuoted []))
        else
          readPieces inner n f (d.add (.parameter (String.singleton c) .value false f.isQuoted []))
      | none => readPieces inner n f d

/-- A here-document is read. -/
def readDocument (inner : Inner) (a : Awaited) : Parse Word := do
  let delimiter := (a.mark, a.stripsTabs)
  match ← beginLine delimiter a.isLiteral with
  | none => return []
  | some start =>
    let mode := if a.isLiteral then .single else .double
    let draft : Draft := start.foldl (fun d c => d.put c true) {}
    let (d, _) ← readPieces inner (← get).budget { mode := mode, document := some delimiter } draft
    return d.finish

/-- The redirection that begins with a character after a digit or nothing. -/
def readOpener (descriptor : Option Nat) (c : Char) : Parse Opener := do
  let e ← nextJoined
  if c == '>' then
    let descriptor := descriptor.getD 1
    match e with
    | some '>' => return .file descriptor .append
    | some '|' => return .file descriptor .overwrite
    | some '&' => return .duplicate descriptor
    | e =>
      putBack e
      return .file descriptor .write
  else
    let descriptor := descriptor.getD 0
    match e with
    | some '<' =>
      let e ← nextJoined
      if e == some '-' then return .document descriptor true
      putBack e
      return .document descriptor false
    | some '&' => return .duplicate descriptor
    | some '>' => return .file descriptor .both
    | e =>
      putBack e
      return .file descriptor .read

/-- The descriptor that stands right before a redirection, if the word read so far is one
or is nothing. -/
def descriptor? (d : Draft) : Option (Option Nat) :=
  if d.hasQuotes || !d.pieces.isEmpty then none
  else match d.run with
    | [] => some none
    | [c] => if c.isDigit && !d.isRunQuoted then some (some (c.toNat - 48)) else none
    | _ => none

/-- The token that is a word or a redirection. -/
def readWord (inner : Inner) : Parse Token := do
  let (d, last) ← readPieces inner (← get).budget {} {}
  match last, descriptor? d with
  | some '<', some descriptor => do
    let opener ← readOpener descriptor '<'
    modify fun s => { s with opener := opener }
    return .redirection
  | some '>', some descriptor => do
    let opener ← readOpener descriptor '>'
    modify fun s => { s with opener := opener }
    return .redirection
  | last, _ => do
    putBack last
    modify fun s => { s with word := d.finish, isQuoted := d.hasQuotes }
    return .word

/-- The next token, at the next character that is no blank. -/
def readToken (inner : Inner) : Nat → Parse Token
  | 0 => return .endOfInput
  | n + 1 => do
    let pair (second : Char) (double single : Token) : Parse Token := do
      let e ← nextJoined
      if e == some second then return double
      putBack e
      return single
    match ← nextJoined with
    | none => return .endOfInput
    | some ' ' | some '\t' => readToken inner n
    | some '#' =>
      modify fun s => { s with rest := s.rest.dropWhile fun c => c != '\n' }
      readToken inner n
    | some '\n' =>
      endLine
      return .newline
    | some '&' => pair '&' .and .ampersand
    | some '|' => pair '|' .or .pipe
    | some ';' => pair ';' .endOfCase .semicolon
    | some '(' => return .leftParenthesis
    | some ')' => return .rightParenthesis
    | some c =>
      putBack (some c)
      readWord inner

end Parse

end CompileOrder.Shell
