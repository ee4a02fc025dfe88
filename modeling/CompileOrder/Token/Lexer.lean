import CompileOrder.Token
import CompileOrder.Text.CharClass

/-!
# Lexing one line

A line is lexed on its own: its comment and line end are cut off, and the rest is
read from the left, each lexeme as long as its class allows. Characters that begin
no lexeme are passed over. Nothing is carried from one line to the next.
-/

namespace CompileOrder.Lexer

open Text

/-- The line up to the first pair of hyphens. -/
def beforeComment : List Char → List Char
  | [] => []
  | '-' :: '-' :: _ => []
  | c :: cs => c :: beforeComment cs

/-- The part of a line that holds code: no comment and no line end. -/
def code (line : List Char) : List Char :=
  ((beforeComment line).reverse.dropWhile fun c => c == '\n' || c == '\r').reverse

/-- A character of a run of decimal digits. -/
def isDigitMark (c : Char) : Bool := c.isDigit || c == '_'

/-- A character between the number signs of a based literal. -/
def isBasedMark (c : Char) : Bool := c.isAlphanum || c == '_' || c == '.'

/-- The run of digits at the start. -/
def digits (cs : List Char) : List Char := cs.takeWhile isDigitMark

/-- The part `#...#` of a based literal at the start, if it is complete. -/
def basedPart : List Char → List Char
  | '#' :: cs =>
    let body := cs.takeWhile isBasedMark
    if (cs.drop body.length).head? = some '#' then '#' :: body ++ ['#'] else []
  | _ => []

/-- The point and digits of a fraction at the start, if there are any digits. -/
def fractionPart : List Char → List Char
  | '.' :: cs => if (digits cs).isEmpty then [] else '.' :: digits cs
  | _ => []

/-- The optional sign at the start. -/
def signPart : List Char → List Char
  | '+' :: _ => ['+']
  | '-' :: _ => ['-']
  | _ => []

/-- The exponent at the start, if its digits are there. -/
def exponentPart : List Char → List Char
  | [] => []
  | c :: cs =>
    if c == 'e' || c == 'E' then
      let sign := signPart cs
      let ds := digits (cs.drop sign.length)
      if ds.isEmpty then [] else c :: sign ++ ds
    else []

/-- The numeric literal at the start: digits, then a based part or a fraction, then
an exponent. -/
def numeral (cs : List Char) : List Char :=
  let whole := digits cs
  let rest := cs.drop whole.length
  let middle := basedPart rest ++ fractionPart rest
  whole ++ middle ++ exponentPart (rest.drop middle.length)

/-- The first compound delimiter that the text starts with. -/
def operator? (cs : List Char) : Option Operator :=
  Operator.all.find? fun o => o.spelling.toList.isPrefixOf cs

/-- The symbol of a word: the reserved word it spells, else an identifier. -/
def wordSymbol (word : List Char) : Symbol :=
  match Keyword.ofSpelling? (spelledUpper word) with
  | some k => .keyword k
  | none => .identifier

/-- The lexeme that begins with `c`, as its symbol and its characters. -/
def lexeme? (c : Char) (rest : List Char) : Option (Symbol × List Char) :=
  if isBlank c || isControl c then none
  else if isAlphabetic c then
    let word := c :: rest.takeWhile isWordChar
    some (wordSymbol word, word)
  else if c.isDigit then some (.number, numeral (c :: rest))
  else match operator? (c :: rest) with
    | some o => some (.operator o, o.spelling.toList)
    | none => if isPunctuation c then some (.delimiter c, [c]) else none

/-- The text a token carries: reserved words are spelled in upper case. -/
def tokenText (symbol : Symbol) (lexeme : List Char) : String :=
  match symbol with
  | .keyword k => k.spelling
  | _ => String.ofList lexeme

/-- Lexing that first passes over `skip` characters of the lexeme before. -/
def scan (line : Nat) : Nat → List Char → List Token
  | _, [] => []
  | skip + 1, _ :: cs => scan line skip cs
  | 0, c :: cs =>
    match lexeme? c cs with
    | none => scan line 0 cs
    | some (symbol, lexeme) =>
      ⟨symbol, tokenText symbol lexeme, line⟩ :: scan line (lexeme.length - 1) cs

/-- The tokens of one line, each marked with the line's number. -/
def tokenize (line : String) (number : Nat) : List Token :=
  scan number 0 (code line.toList)

/-- The tokens of consecutive lines, the first of them numbered one. -/
def tokenizeLines (lines : List String) : List Token :=
  (lines.zipIdx 1).flatMap fun (line, number) => tokenize line number

end CompileOrder.Lexer
