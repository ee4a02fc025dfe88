/-!
# TOML texts

Texts in quotes: basic texts with escapes, literal texts without, and both kinds
over several lines. A function that reads one takes the characters after the
opening quotes and gives the text together with the characters after the closing
ones.
-/

namespace CompileOrder.Toml

/-- A blank inside a line. -/
def isSpace (c : Char) : Bool := c == ' ' || c == '\t'

/-- A character that may stand in a comment or a text: anything but a control
character, the tab apart. -/
def isPlain (c : Char) : Bool := c == '\t' || (decide (32 ≤ c.toNat) && c.toNat != 127)

/-- A character put before the text that is read after it. -/
def before (c : Char) : Option (List Char × List Char) → Option (List Char × List Char)
  | some (cs, rest) => some (c :: cs, rest)
  | none => none

/-- The value of a hexadecimal digit. -/
def hexValue? (c : Char) : Option Nat :=
  if c.isDigit then some (c.toNat - 48)
  else if 'a'.toNat ≤ c.toNat && c.toNat ≤ 'f'.toNat then some (c.toNat - 87)
  else if 'A'.toNat ≤ c.toNat && c.toNat ≤ 'F'.toNat then some (c.toNat - 55)
  else none

/-- The character whose code point the hexadecimal digits spell. -/
def codePoint? (digits : List Char) : Option Char := do
  let values ← digits.mapM hexValue?
  let n := values.foldl (fun n d => n * 16 + d) 0
  if n.isValidChar then some (Char.ofNat n) else none

/-- The character that a single letter stands for after a backslash. -/
def escaped? (c : Char) : Option Char :=
  match c with
  | 'b' => some '\x08'
  | 't' => some '\t'
  | 'n' => some '\n'
  | 'f' => some '\x0c'
  | 'r' => some '\r'
  | '"' => some '"'
  | '\\' => some '\\'
  | _ => none

/-- A basic text on one line. -/
def readBasic : List Char → Option (List Char × List Char)
  | [] => none
  | '"' :: cs => some ([], cs)
  | '\\' :: 'u' :: a :: b :: c :: d :: cs =>
    match codePoint? [a, b, c, d] with
    | some x => before x (readBasic cs)
    | none => none
  | '\\' :: 'U' :: a :: b :: c :: d :: e :: f :: g :: h :: cs =>
    match codePoint? [a, b, c, d, e, f, g, h] with
    | some x => before x (readBasic cs)
    | none => none
  | '\\' :: c :: cs =>
    match escaped? c with
    | some x => before x (readBasic cs)
    | none => none
  | c :: cs => if isPlain c then before c (readBasic cs) else none

/-- A literal text on one line. -/
def readLiteral : List Char → Option (List Char × List Char)
  | [] => none
  | '\'' :: cs => some ([], cs)
  | c :: cs => if isPlain c then before c (readLiteral cs) else none

/-- Whether the characters begin with the end of a line. -/
def startsLine : List Char → Bool
  | '\n' :: _ => true
  | '\r' :: '\n' :: _ => true
  | _ => false

/-- The number of quotes at the start. -/
def quoteRun (quote : Char) (cs : List Char) : Nat := (cs.takeWhile (· == quote)).length

/-- Three or more quotes at the start close a text of several lines: up to two of
them still belong to the text. -/
def closing? (quote : Char) (cs : List Char) : Option (List Char × List Char) :=
  let run := quoteRun quote cs
  if 3 ≤ run then some (List.replicate (min run 5 - 3) quote, cs.drop (min run 5)) else none

/-- A basic text over several lines. After a backslash at the end of a line,
`skipping` drops everything blank up to the next visible character. -/
def readBasicLines : Bool → List Char → Option (List Char × List Char)
  | _, [] => none
  | skipping, '\n' :: cs =>
    if skipping then readBasicLines true cs else before '\n' (readBasicLines false cs)
  | skipping, '\r' :: '\n' :: cs =>
    if skipping then readBasicLines true cs else before '\n' (readBasicLines false cs)
  | _, '\\' :: 'u' :: a :: b :: c :: d :: cs =>
    match codePoint? [a, b, c, d] with
    | some x => before x (readBasicLines false cs)
    | none => none
  | _, '\\' :: 'U' :: a :: b :: c :: d :: e :: f :: g :: h :: cs =>
    match codePoint? [a, b, c, d, e, f, g, h] with
    | some x => before x (readBasicLines false cs)
    | none => none
  | _, '\\' :: c :: cs =>
    match escaped? c with
    | some x => before x (readBasicLines false cs)
    | none =>
      if startsLine ((c :: cs).dropWhile isSpace) then readBasicLines true (c :: cs) else none
  | skipping, c :: cs =>
    if skipping && isSpace c then readBasicLines true cs
    else match (if c == '"' then closing? '"' (c :: cs) else none) with
      | some closed => some closed
      | none => if isPlain c then before c (readBasicLines false cs) else none

/-- A literal text over several lines. -/
def readLiteralLines : List Char → Option (List Char × List Char)
  | [] => none
  | '\n' :: cs => before '\n' (readLiteralLines cs)
  | '\r' :: '\n' :: cs => before '\n' (readLiteralLines cs)
  | c :: cs =>
    match (if c == '\'' then closing? '\'' (c :: cs) else none) with
    | some closed => some closed
    | none => if isPlain c then before c (readLiteralLines cs) else none

/-- The characters without the end of a line at their start. -/
def dropLineEnd : List Char → List Char
  | '\n' :: cs => cs
  | '\r' :: '\n' :: cs => cs
  | cs => cs

/-- A text of any of the four kinds, from its opening quotes on. -/
def readText : List Char → Option (List Char × List Char)
  | '"' :: '"' :: '"' :: cs => readBasicLines false (dropLineEnd cs)
  | '"' :: cs => readBasic cs
  | '\'' :: '\'' :: '\'' :: cs => readLiteralLines (dropLineEnd cs)
  | '\'' :: cs => readLiteral cs
  | _ => none

end CompileOrder.Toml
